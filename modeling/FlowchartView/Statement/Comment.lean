import FlowchartView.Text.Blank

namespace FlowchartView

open Text

def beforeComment : Text → Text
  | [] => []
  | '%' :: '%' :: _ => []
  | c :: s => c :: beforeComment s

/-- The code of a line: no comment, no blanks around it. -/
def codeOf (line : Text) : Text := trim (beforeComment line)

theorem isTrimmed_codeOf (s : Text) : IsTrimmed (codeOf s) := isTrimmed_trim _

end FlowchartView

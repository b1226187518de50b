import FlowchartView.Proofs.Diagram.Body
import FlowchartView.Proofs.Diagram.Registry
import FlowchartView.Proofs.Text.Code

namespace FlowchartView

open Text

def Statement.isDirection : Statement → Bool
  | direction _ => true
  | _ => false

namespace Layout

variable {l : Layout} {statements : List Statement}

end Layout

namespace Preamble

section

variable {p : Preamble} {source : Text} {gap : List Line} (hparts : Line.ofText source =
  p.frontMatter ++ gap ++ p.skipped ++ p.directive?.toList ++ p.body)
include hparts

end

end Preamble

namespace Diagram

end Diagram

end FlowchartView

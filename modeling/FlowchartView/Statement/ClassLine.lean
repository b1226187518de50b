import FlowchartView.Diagram.Basic
import FlowchartView.Statement.Keyword
import FlowchartView.Text.Piece

namespace FlowchartView

open Text

def isIdSeparator (c : Char) : Bool := isBlank c || c == ','

/-- The text up to its last word, blanks included, and that word. -/
def splitLastWord (s : Text) : Text × Text :=
  ((s.reverse.dropWhile (!isBlank ·)).reverse, (s.reverse.takeWhile (!isBlank ·)).reverse)

def StyleClass.ofCode? (code : Text) : Option StyleClass :=
  ((after? classDefKeyword code).bind skipBlanks?).bind fun body ↦
    (skipBlanks? (body.dropWhile (!isBlank ·))).map fun style ↦
      ⟨body.takeWhile (!isBlank ·), style, code⟩

/-- The last word names the class and the words before it the ids. Where the class name is the only
word the id list is empty, and three blanks have to stand in front of the name: one on either side
of the list and one in it. -/
def ClassMembership.ofCode? (code : Text) : Option ClassMembership :=
  (after? classKeyword code).bind fun rest ↦
    (skipBlanks? rest).bind fun body ↦
      let (ids, name) := splitLastWord body
      if ids.isEmpty && decide (rest.length - body.length < 3) then none
      else some ⟨fields isIdSeparator ids, name⟩

theorem append_splitLastWord (s : Text) : (splitLastWord s).1 ++ (splitLastWord s).2 = s := by
  rw [splitLastWord, ← List.reverse_append, List.takeWhile_append_dropWhile, List.reverse_reverse]

end FlowchartView

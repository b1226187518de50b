import FlowchartView.Diagram.Basic
import FlowchartView.Statement.Comment
import FlowchartView.Statement.Link

namespace FlowchartView

open Text

def linkToId? (s : Text) : Option (Text × Id) := (takeLink? s).filter fun r ↦ isId r.2

/-- The rest of the left id, the operator and the right id, the left id as short as can be. -/
def edgeTail? : Text → Option (Text × Text × Id)
  | [] => none
  | c :: s =>
    match linkToId? (c :: s) with
    | some r => some ([], r)
    | none => if isIdChar c then (edgeTail? s).map fun r ↦ (c :: r.1, r.2) else none

attribute [local irreducible] linkToId? in
@[simp] theorem edgeTail?_nil : edgeTail? [] = none := rfl

-- The link test is sealed, since unfolding it on an open text does not come to an end.
attribute [local irreducible] linkToId? in
theorem edgeTail?_cons (c : Char) (s : Text) :
    edgeTail? (c :: s) =
      match linkToId? (c :: s) with
      | some r => some ([], r)
      | none => if isIdChar c then (edgeTail? s).map fun r ↦ (c :: r.1, r.2) else none := rfl

def Edge.ofCode? : Text → Option Edge
  | [] => none
  | c :: s =>
    if isAsciiLetter c then (edgeTail? s).map fun r ↦ ⟨c :: r.1, r.2.1, r.2.2⟩ else none

def Edge.ofLine? (line : Text) : Option Edge := Edge.ofCode? (codeOf line)

end FlowchartView

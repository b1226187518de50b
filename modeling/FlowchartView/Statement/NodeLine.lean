import FlowchartView.Diagram.Basic
import FlowchartView.Statement.Comment
import FlowchartView.Statement.Link
import FlowchartView.Text.Keyword

namespace FlowchartView

open Text

namespace Shape

/-- The label between the delimiters, when these enclose the whole text and more than nothing. -/
def inside? (s : Shape) (t : Text) : Option Text :=
  ((after? s.opening t).bind (before? s.closing)).filter (!·.isEmpty)

theorem inside?_eq_some_iff {s : Shape} {t label : Text} :
    s.inside? t = some label ↔ t = s.opening ++ (label ++ s.closing) ∧ label ≠ [] := by
  simp only [inside?, Option.filter_eq_some_iff, Option.bind_eq_some_iff, after?_eq_some_iff,
    before?_eq_some_iff, Bool.not_eq_true', List.isEmpty_eq_false_iff]
  exact and_congr_left fun _ ↦ ⟨by rintro ⟨_, h, rfl⟩; exact h, fun h ↦ ⟨_, h, rfl⟩⟩

end Shape

/-- Starts and ends with a double quote; one quote does not serve as both. -/
def inDoubleQuotes : Text → Bool
  | '"' :: s => s.getLast? == some '"'
  | _ => false

/-- Somewhere the label closes its shape and goes on with a link to another id. -/
def goesOnWithLink (closing : Text) : Text → Bool
  | [] => false
  | c :: s => (after? closing (c :: s)).any startsLink || goesOnWithLink closing s

/-- A label in quotes may hold anything; another one may not close its shape and go on with a
link. -/
def Shape.admits (s : Shape) (label : Text) : Bool :=
  inDoubleQuotes label || !goesOnWithLink s.closing label

def enclosingShape? (t : Text) : Option (Shape × Text) :=
  Shape.longestFirst.findSome? fun s ↦
    ((s.inside? t).filter s.admits).map fun label ↦ (s, label)

structure NodeLine where
  id : Id
  label : Text
  shape : Shape
deriving DecidableEq, Repr

/-- An id that ends in a hyphen declares no node, since that hyphen belongs to a link. -/
def NodeLine.ofCode? (code : Text) : Option NodeLine :=
  match takeId? code with
  | none => none
  | some (id, rest) =>
    if id.getLast? = some '-' then none
    else (enclosingShape? (trimStart rest)).map fun m ↦ ⟨id, m.2, m.1⟩

def NodeLine.ofLine? (line : Text) : Option NodeLine := NodeLine.ofCode? (codeOf line)

end FlowchartView

import FlowchartView.OrderedMap
import FlowchartView.Shape
import FlowchartView.Text.Word

namespace FlowchartView

structure Node where
  id : Id
  label : Text
  shape? : Option Shape := none
  container? : Option Id := none
deriving DecidableEq, Repr

/-- Writes each `\n` of a label, a backslash and an n, as one space. -/
def unescapeBreaks : Text → Text
  | [] => []
  | '\\' :: 'n' :: s => ' ' :: unescapeBreaks s
  | c :: s => c :: unescapeBreaks s

namespace Node

def shape (n : Node) : Shape := n.shape?.getD .standard

def plainLabel (n : Node) : Text := unescapeBreaks n.label

end Node

structure Subgraph where
  id : Id
  header : Text
  members : List Id := []
  direction? : Option Text := none
deriving DecidableEq, Repr

structure Edge where
  left : Id
  operator : Text
  right : Id
deriving DecidableEq, Repr

namespace Edge

def pointsRight (e : Edge) : Bool := e.operator.contains '>'

def pointsLeft (e : Edge) : Bool := e.operator.contains '<'

def endpoints (e : Edge) : List Id := [e.left, e.right]

theorem mem_endpoints {e : Edge} {id : Id} : id ∈ e.endpoints ↔ id = e.left ∨ id = e.right := by
  simp [endpoints]

end Edge

structure StyleClass where
  name : Text
  style : Text
  line : Text
deriving DecidableEq, Repr

structure ClassMembership where
  ids : List Text
  className : Text
deriving DecidableEq, Repr

inductive DropReason
  | beforeDirective
  | unrecognised
deriving DecidableEq, Repr

namespace DropReason

def message : DropReason → String
  | beforeDirective => "precedes the flowchart directive"
  | unrecognised => "unrecognised statement"

end DropReason

structure DroppedLine where
  number : Nat
  text : Text
  reason : DropReason
deriving DecidableEq, Repr

structure Diagram where
  frontMatter : List Text := []
  directive? : Option Text := none
  subgraphs : List Subgraph := []
  topLevel : List Id := []
  nodes : OrderedMap Id Node := .empty
  edges : List Edge := []
  styleClasses : List StyleClass := []
  memberships : List ClassMembership := []
  dropped : List DroppedLine := []

namespace Diagram

/-- The registered ids, then the ids that only edges name. -/
def allIds (d : Diagram) : List Id := distinct (d.nodes.keys ++ d.edges.flatMap Edge.endpoints)

theorem mem_allIds {d : Diagram} {id : Id} : id ∈ d.allIds ↔
    d.nodes.contains id ∨ ∃ e ∈ d.edges, id = e.left ∨ id = e.right := by
  rw [allIds, mem_distinct, List.mem_append, ← OrderedMap.contains_iff, List.mem_flatMap]
  simp only [Edge.mem_endpoints]

/-- The ids that containers list, subgraph by subgraph and then the top level. -/
def placedIds (d : Diagram) : List Id := d.subgraphs.flatMap Subgraph.members ++ d.topLevel

def nodesOf (d : Diagram) (ids : List Id) : List Node := ids.filterMap d.nodes.find?

def placedNodes (d : Diagram) : List Node := d.nodesOf d.placedIds

end Diagram

end FlowchartView

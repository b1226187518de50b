import FlowchartView.Drawing.Entry
import FlowchartView.Drawing.Style
import FlowchartView.Text.Line
import FlowchartView.Text.Quoted
import FlowchartView.Visibility

namespace FlowchartView

open Text

namespace Diagram

/-- The directive of the drawing; an empty one counts as missing. -/
def heading (d : Diagram) (style : Style) : Text :=
  match d.directive? with
  | some (c :: s) => c :: s
  | _ => style.defaultDirective

def headSection (d : Diagram) (style : Style) : List Text :=
  d.heading style :: d.styleClasses.map fun c ↦ style.indent ++ c.line

def shownNodes (d : Diagram) (v : Visibility) (ids : List Id) : List Node :=
  (d.nodesOf ids).filter fun n ↦ v.isVisible n.id

/-- A subgraph with its visible members; one that has none is left out. -/
def subgraphSection (d : Diagram) (v : Visibility) (style : Style) (s : Subgraph) : List Text :=
  match d.shownNodes v s.members with
  | [] => []
  | nodes =>
    let inner := s.direction?.toList ++ nodes.map Node.line
    (style.indent ++ s.header) :: inner.map (style.indent ++ style.indent ++ ·) ++
      [style.indent ++ endKeyword]

def topLevelSection (d : Diagram) (v : Visibility) (style : Style) : List Text :=
  (d.shownNodes v d.topLevel).map fun n ↦ style.indent ++ n.line

/-- The class memberships of visible ids; a line that would name none is left out. -/
def shownMemberships (d : Diagram) (v : Visibility) : List ClassMembership :=
  (d.memberships.map fun a ↦ { a with ids := a.ids.filter v.isVisible }).filter
    fun a ↦ !a.ids.isEmpty

def classSection (d : Diagram) (v : Visibility) (style : Style) : List Text :=
  (d.shownMemberships v).map fun a ↦ style.indent ++ a.line

def shownEdges (d : Diagram) (v : Visibility) : List Edge :=
  d.edges.filter fun e ↦ v.isVisible e.left && v.isVisible e.right

/-- The visible nodes container by container, then the ends of visible edges that are no nodes. -/
def clickableIds (d : Diagram) (v : Visibility) : List Id :=
  distinct ((d.shownNodes v d.placedIds).map Node.id ++
    ((d.shownEdges v).flatMap Edge.endpoints).filter (!d.nodes.contains ·))

def clickSection (d : Diagram) (v : Visibility) (style : Style) : List Text :=
  if style.clickHooks then
    (d.clickableIds v).map fun id ↦ style.indent ++ clickLine id style.clickCallback
  else []

def edgeSection (d : Diagram) (v : Visibility) (style : Style) : List Text :=
  (d.shownEdges v).map fun e ↦ style.indent ++ e.line

def sections (d : Diagram) (v : Visibility) (style : Style) : List (List Text) :=
  [d.frontMatter, d.headSection style] ++ d.subgraphs.map (d.subgraphSection v style) ++
    [d.topLevelSection v style, d.classSection v style, d.clickSection v style,
      d.edgeSection v style]

def drawing (d : Diagram) (v : Visibility) (style : Style) : List Text :=
  [[]].intercalate ((d.sections v style).filter (!·.isEmpty))

/-- The drawing of a diagram whose containers list registered nodes only; any other id is passed
over. -/
def draw (d : Diagram) (v : Visibility) (style : Style) : Text := joinLines (d.drawing v style)

def unregistered? (d : Diagram) : Option Id := d.placedIds.find? (!d.nodes.contains ·)

end Diagram

structure MissingNode where
  id : Id
deriving DecidableEq, Repr

def MissingNode.message (e : MissingNode) : String := String.ofList (quoted e.id)

def Diagram.render (d : Diagram) (v : Visibility) (style : Style) : Except MissingNode Text :=
  match d.unregistered? with
  | some id => .error ⟨id⟩
  | none => .ok (d.draw v style)

end FlowchartView

import FlowchartView.Diagram.Basic
import FlowchartView.Reachability.Search

namespace FlowchartView

/-- The arc from left to right comes first. -/
def Edge.arcs (e : Edge) : List (Id × Id) :=
  (if e.pointsRight then [(e.left, e.right)] else []) ++
    (if e.pointsLeft then [(e.right, e.left)] else [])

structure Reachability where
  ids : List Id
  arcs : List (Id × Id)
deriving DecidableEq, Repr

namespace Reachability

def ofEdges (edges : List Edge) (ids : List Id) : Reachability where
  ids := distinct (ids ++ edges.flatMap Edge.endpoints)
  arcs := distinct (edges.flatMap Edge.arcs)

def ofDiagram (d : Diagram) : Reachability := ofEdges d.edges d.allIds

def descendants (r : Reachability) (id : Id) : List Id := closure r.arcs id

def ancestors (r : Reachability) (id : Id) : List Id := closure (r.arcs.map Prod.swap) id

end Reachability

end FlowchartView

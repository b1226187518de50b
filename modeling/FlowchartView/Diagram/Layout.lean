import FlowchartView.Diagram.Preamble
import FlowchartView.Notice

namespace FlowchartView

structure Layout where
  closed : List Subgraph := []
  current? : Option Subgraph := none
  topLevel : List Id := []
  nodes : OrderedMap Id Node := .empty

namespace Layout

def subgraphs (l : Layout) : List Subgraph := l.closed ++ l.current?.toList

/-- The id that a title starts with or, failing that, `sg` and the place of the subgraph. -/
def subgraphId (l : Layout) (title : Text) : Id :=
  (titleId? title).getD ('s' :: 'g' :: Nat.toDigits 10 (l.subgraphs.length + 1))

/-- A node stands where it was first declared, with the label and the shape of its last
declaration. -/
def register (l : Layout) (n : NodeLine) : Layout :=
  match l.nodes.find? n.id with
  | some old =>
    { l with nodes := l.nodes.insert n.id ⟨n.id, n.label, some n.shape, old.container?⟩ }
  | none =>
    match l.current? with
    | some s =>
      { l with
        current? := some { s with members := s.members ++ [n.id] }
        nodes := l.nodes.insert n.id ⟨n.id, n.label, some n.shape, some s.id⟩ }
    | none =>
      { l with
        topLevel := l.topLevel ++ [n.id]
        nodes := l.nodes.insert n.id ⟨n.id, n.label, some n.shape, none⟩ }

/-- Subgraphs do not nest: a header closes the open subgraph. -/
def step (l : Layout) : Statement → Layout
  | .subgraph header title =>
    { l with closed := l.subgraphs, current? := some ⟨l.subgraphId title, header, [], none⟩ }
  | .direction code =>
    { l with current? := l.current?.map fun s ↦ { s with direction? := some code } }
  | .endSubgraph => { l with closed := l.subgraphs, current? := none }
  | .node n => l.register n
  | _ => l

def ofStatements (statements : List Statement) : Layout := statements.foldl step {}

def rejects (l : Layout) : Statement → Bool
  | .unrecognised => true
  | .direction _ => l.current?.isNone
  | _ => false

def dropped (l : Layout) : List Line → List DroppedLine
  | [] => []
  | x :: xs =>
    let s := Statement.ofLine x.text
    (if l.rejects s then [x.drop .unrecognised] else []) ++ (l.step s).dropped xs

def noticesOf (l : Layout) (x : Line) : List Notice :=
  let s := Statement.ofLine x.text
  (if l.rejects s then [.dropped (x.drop .unrecognised)] else []) ++
    match s, l.current? with
    | .subgraph _ title, some c => [.subgraphReplaced (l.subgraphId title) c.id]
    | .endSubgraph, none => [.strayEnd x.number]
    | _, _ => []

def notices (l : Layout) : List Line → List Notice
  | [] => []
  | x :: xs => l.noticesOf x ++ (l.step (Statement.ofLine x.text)).notices xs

end Layout

end FlowchartView

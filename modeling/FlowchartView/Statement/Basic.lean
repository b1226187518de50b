import FlowchartView.Statement.Block
import FlowchartView.Statement.ClassLine
import FlowchartView.Statement.EdgeLine
import FlowchartView.Statement.NodeLine

namespace FlowchartView

open Text

inductive Statement
  | blank
  | styleClass (d : StyleClass)
  | membership (a : ClassMembership)
  | click
  | subgraph (header title : Text)
  | direction (code : Text)
  | endSubgraph
  | node (n : NodeLine)
  | edge (e : Edge)
  | unrecognised
deriving DecidableEq, Repr

namespace Statement

/-- A code that several readings fit has the first of them. -/
def ofCode (code : Text) : Statement :=
  ((StyleClass.ofCode? code).map styleClass
    |>.or ((ClassMembership.ofCode? code).map membership)
    |>.or (if isClick code then some click else none)
    |>.or ((subgraphTitle? code).map (subgraph code))
    |>.or (if isDirection code then some (direction code) else none)
    |>.or (if isEnd code then some endSubgraph else none)
    |>.or ((NodeLine.ofCode? code).map node)
    |>.or ((Edge.ofCode? code).map edge)).getD unrecognised

def ofLine (line : Text) : Statement :=
  let code := codeOf line
  if code.isEmpty then blank else ofCode code

def edge? : Statement → Option Edge
  | edge e => some e
  | _ => none

def node? : Statement → Option NodeLine
  | node n => some n
  | _ => none

def styleClass? : Statement → Option StyleClass
  | styleClass d => some d
  | _ => none

def membership? : Statement → Option ClassMembership
  | membership a => some a
  | _ => none

end Statement

end FlowchartView

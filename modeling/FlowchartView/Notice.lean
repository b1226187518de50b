import FlowchartView.Diagram.Basic
import FlowchartView.Text.Quoted

namespace FlowchartView

open Text

inductive Notice
  | unclosedFrontMatter
  | noDirective
  | dropped (line : DroppedLine)
  | strayEnd (number : Nat)
  | subgraphReplaced (opened replaced : Id)
  | parsed (nodes edges subgraphs dropped : Nat)
  | hiddenClick (id : Id)
deriving DecidableEq, Repr

namespace Notice

def message : Notice → String
  | unclosedFrontMatter => "front matter opened on line 1 is never closed"
  | noDirective => "no flowchart directive found; the default will be used on render"
  | dropped l => s!"line {l.number} dropped ({l.reason.message}): {String.ofList l.text}"
  | strayEnd n => s!"line {n}: 'end' with no open subgraph"
  | subgraphReplaced opened replaced =>
    s!"subgraph {String.ofList (quoted opened)} replaces open subgraph " ++
      s!"{String.ofList (quoted replaced)}; nesting is not supported"
  | parsed n e s d => s!"parsed {n} nodes, {e} edges, {s} subgraphs ({d} lines dropped)"
  | hiddenClick id => s!"click on hidden node {String.ofList (quoted id)} ignored"

def channel : Notice → String
  | hiddenClick _ => "mermaid_focus.session"
  | _ => "mermaid_focus.parsers.flowchart"

def logLine (n : Notice) : String := s!"DEBUG {n.channel}: {n.message}"

end Notice

end FlowchartView

import FlowchartView.Diagram.Layout

namespace FlowchartView

open Text

namespace Preamble

def statements (p : Preamble) : List Statement := p.body.map fun l ↦ Statement.ofLine l.text

def diagram (p : Preamble) : Diagram :=
  let layout := Layout.ofStatements p.statements
  { frontMatter := p.frontMatter.map Line.text
    directive? := p.directive?.map fun l ↦ trim l.text
    subgraphs := layout.subgraphs
    topLevel := layout.topLevel
    nodes := layout.nodes
    edges := p.statements.filterMap Statement.edge?
    styleClasses := p.statements.filterMap Statement.styleClass?
    memberships := p.statements.filterMap Statement.membership?
    dropped := p.dropped ++ ({} : Layout).dropped p.body }

end Preamble

namespace Diagram

def ofText (source : Text) : Diagram :=
  (Preamble.ofLines (Line.numberFrom 1 (splitLines source))).diagram

def summary (d : Diagram) : Notice :=
  .parsed d.nodes.size d.edges.length d.subgraphs.length d.dropped.length

def notices (source : Text) : List Notice :=
  let p := Preamble.ofLines (Line.numberFrom 1 (splitLines source))
  p.notices ++ ({} : Layout).notices p.body ++ [p.diagram.summary]

end Diagram

end FlowchartView

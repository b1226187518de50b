import FlowchartView.Command.Arguments
import FlowchartView.Diagram.Reading
import FlowchartView.Session

namespace FlowchartView

open Text

def SidebarRow.line (e : SidebarRow) : Text :=
  ['[', if e.visible then 'x' else ' ', ']', ' '] ++ e.id ++ " — ".toList ++ e.label

def DroppedLine.report (l : DroppedLine) : String :=
  s!"line {l.number}: {l.reason.message}: {String.ofList l.text}"

namespace Command.Arguments

/-- Hiding everything comes first and hiding single ids last, wherever the options stand. -/
def changes (a : Arguments) : List Visibility.Change :=
  (if a.hideAll then [.hideAll] else []) ++ a.shown.map (.set · true) ++
    a.descendants.map .showDescendants ++ a.ancestors.map .showAncestors ++
    a.hidden.map (.set · false)

def session (a : Arguments) (source : Text) : Session :=
  a.changes.foldl Session.change (.start (Diagram.ofText source) a.style)

def result (a : Arguments) (source : Text) : Text :=
  let s := a.session source
  if a.list then joinLines (s.sidebar.map SidebarRow.line) else s.drawing

def logLines (a : Arguments) (source : Text) : List String :=
  if a.verbose then (Diagram.notices source).map Notice.logLine else []

def diagnosticLines (a : Arguments) (source : Text) : List String :=
  if a.diagnostics then (Diagram.ofText source).dropped.map DroppedLine.report else []

end Command.Arguments

end FlowchartView

import FlowchartView.Drawing.Basic
import FlowchartView.Notice

namespace FlowchartView

abbrev Handler := Text

structure SidebarRow where
  id : Id
  label : Text
  visible : Bool
deriving DecidableEq, Repr

structure Session where
  diagram : Diagram
  reachability : Reachability
  visibility : Visibility
  style : Style
  renderHandlers : List Handler := []
  clickHandlers : List Handler := []

namespace Session

inductive Request
  | change (c : Visibility.Change)
  | refresh
  | text
  | sidebar
  | click (id : Id)
  | onRender (handler : Handler)
  | onClick (handler : Handler)
deriving DecidableEq, Repr

inductive Answer
  | text (drawing : Text)
  | sidebar (entries : List SidebarRow)
  | clicked (accepted : Bool)
  | registered
deriving DecidableEq, Repr

structure Reply where
  answer : Answer
  renderCalls : List (Handler × Text) := []
  clickCalls : List (Handler × Id) := []
  notices : List Notice := []
deriving DecidableEq, Repr

def start (d : Diagram) (style : Style) : Session where
  diagram := d
  reachability := .ofDiagram d
  visibility := .ofDiagram d
  style := style

def drawing (s : Session) : Text := s.diagram.draw s.visibility s.style

def sidebar (s : Session) : List SidebarRow :=
  s.diagram.placedNodes.map fun n ↦ ⟨n.id, n.plainLabel, s.visibility.isVisible n.id⟩

def change (s : Session) (c : Visibility.Change) : Session :=
  { s with visibility := s.visibility.apply s.reachability c }

def announce (s : Session) : Reply where
  answer := .text s.drawing
  renderCalls := s.renderHandlers.map fun h ↦ (h, s.drawing)

def click (s : Session) (id : Id) : Reply :=
  if s.visibility.isVisible id then
    { answer := .clicked true, clickCalls := s.clickHandlers.map fun h ↦ (h, id) }
  else { answer := .clicked false, notices := [.hiddenClick id] }

/-- Every change of visibility is announced. -/
def handle (s : Session) : Request → Session × Reply
  | .change c => (s.change c, (s.change c).announce)
  | .refresh => (s, s.announce)
  | .text => (s, { answer := .text s.drawing })
  | .sidebar => (s, { answer := .sidebar s.sidebar })
  | .click id => (s, s.click id)
  | .onRender h => ({ s with renderHandlers := s.renderHandlers ++ [h] }, { answer := .registered })
  | .onClick h => ({ s with clickHandlers := s.clickHandlers ++ [h] }, { answer := .registered })

def handleAll (s : Session) : List Request → Session × List Reply
  | [] => (s, [])
  | q :: qs =>
    let (s', reply) := s.handle q
    let (s'', replies) := s'.handleAll qs
    (s'', reply :: replies)

end Session

end FlowchartView

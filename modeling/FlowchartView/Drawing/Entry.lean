import FlowchartView.Diagram.Basic
import FlowchartView.Statement.Keyword

namespace FlowchartView

def Node.line (n : Node) : Text := n.id ++ n.shape.opening ++ n.label ++ n.shape.closing

def Edge.line (e : Edge) : Text := e.left ++ [' '] ++ e.operator ++ [' '] ++ e.right

def ClassMembership.line (a : ClassMembership) : Text :=
  classKeyword ++ [' '] ++ [','].intercalate a.ids ++ [' '] ++ a.className

def clickLine (id : Id) (callback : Text) : Text :=
  clickKeyword ++ [' '] ++ id ++ [' '] ++ callback

end FlowchartView

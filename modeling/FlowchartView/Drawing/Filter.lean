import FlowchartView.Diagram.Reading
import FlowchartView.Drawing.Basic

namespace FlowchartView

def Diagram.hiding (d : Diagram) (hidden : List Id) : Visibility :=
  (Visibility.ofDiagram d).setAll hidden false

def filterText (source : Text) (hidden : List Id) (style : Style) : Text :=
  let d := Diagram.ofText source
  d.draw (d.hiding hidden) style

end FlowchartView

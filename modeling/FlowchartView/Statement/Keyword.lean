import FlowchartView.Text.Keyword

namespace FlowchartView

def flowchartKeyword : Text := "flowchart".toList

def graphKeyword : Text := "graph".toList

def subgraphKeyword : Text := "subgraph".toList

def directionKeyword : Text := "direction".toList

def endKeyword : Text := "end".toList

def clickKeyword : Text := "click".toList

def classDefKeyword : Text := "classDef".toList

def classKeyword : Text := "class".toList

end FlowchartView

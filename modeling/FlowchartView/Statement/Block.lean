import FlowchartView.Statement.Keyword

namespace FlowchartView

open Text

def isDirective (code : Text) : Bool :=
  [flowchartKeyword, graphKeyword].any fun k ↦
    (afterAnyCase? k code).any fun rest ↦ rest.head?.all isBlank

def subgraphTitle? (code : Text) : Option Text :=
  match afterAnyCase? subgraphKeyword code with
  | none => none
  | some [] => some []
  | some rest => skipBlanks? rest

def titleId? (title : Text) : Option Id := (takeId? title).map Prod.fst

def isDirection (code : Text) : Bool :=
  ((afterAnyCase? directionKeyword code).bind skipBlanks?).any fun way ↦
    ["tb", "td", "bt", "lr", "rl"].any fun k ↦ afterAnyCase? k.toList way == some []

def isEnd (code : Text) : Bool := afterAnyCase? endKeyword code == some []

/-- `click`, an id, and something more. -/
def isClick (code : Text) : Bool :=
  (((after? clickKeyword code).bind skipBlanks?).bind takeId?).any fun target ↦
    (skipBlanks? target.2).any (!·.isEmpty)

end FlowchartView

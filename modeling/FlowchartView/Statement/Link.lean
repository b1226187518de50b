import FlowchartView.Text.Word

namespace FlowchartView

open Text

def isLinkChar (c : Char) : Bool := c == '<' || c == '>' || c == '=' || c == '.' || c == '-'

def isOperator (s : Text) : Bool := decide (2 ≤ s.length) && s.all isLinkChar

def takeLink? (s : Text) : Option (Text × Text) :=
  let operator := (trimStart s).takeWhile isLinkChar
  if 2 ≤ operator.length then
    some (operator, trimStart ((trimStart s).dropWhile isLinkChar))
  else none

def startsLink (s : Text) : Bool :=
  match takeLink? s with
  | some (_, c :: _) => isAsciiLetter c
  | _ => false

theorem isOperator_of_takeLink? {s operator rest : Text} (h : takeLink? s = some (operator, rest)) :
    isOperator operator := by
  simp only [takeLink?, Option.ite_none_right_eq_some, Option.some.injEq, Prod.mk.injEq] at h
  rw [← h.2.1, isOperator, List.all_takeWhile, Bool.and_true]
  exact decide_eq_true h.1

end FlowchartView

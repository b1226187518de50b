import FlowchartView.Proofs.Text.FirstWord
import FlowchartView.Statement.Basic

namespace FlowchartView

open Text

inductive Statement.ReadFrom (code : Text) : Statement → Prop
  | styleClass {d : StyleClass} : StyleClass.ofCode? code = some d → ReadFrom code (.styleClass d)
  | membership {a : ClassMembership} :
      ClassMembership.ofCode? code = some a → ReadFrom code (.membership a)
  | click : isClick code → ReadFrom code .click
  | subgraph {title : Text} :
      subgraphTitle? code = some title → ReadFrom code (.subgraph code title)
  | direction : isDirection code → ReadFrom code (.direction code)
  | endSubgraph : isEnd code → ReadFrom code .endSubgraph
  | node {n : NodeLine} : NodeLine.ofCode? code = some n → ReadFrom code (.node n)
  | edge {e : Edge} : Edge.ofCode? code = some e → ReadFrom code (.edge e)
  | unrecognised : ReadFrom code .unrecognised

theorem Statement.readFrom_ofCode (code : Text) : ReadFrom code (ofCode code) := by
  rw [ofCode]
  cases hs : StyleClass.ofCode? code with
  | some d => exact .styleClass hs
  | none =>
  cases hm : ClassMembership.ofCode? code with
  | some a => exact .membership hm
  | none =>
  cases hc : isClick code with
  | true => exact .click hc
  | false =>
  cases ht : subgraphTitle? code with
  | some title => exact .subgraph ht
  | none =>
  cases hd : isDirection code with
  | true => exact .direction hd
  | false =>
  cases he : isEnd code with
  | true => exact .endSubgraph he
  | false =>
  cases hn : NodeLine.ofCode? code with
  | some n => exact .node hn
  | none =>
  cases hl : Edge.ofCode? code with
  | some e => exact .edge hl
  | none => exact .unrecognised

theorem StyleClass.ofCode?_eq_none {code : Text} (h : firstWord code ≠ classDefKeyword) :
    StyleClass.ofCode? code = none := by
  rw [StyleClass.ofCode?, bind_skipBlanks?_after? (by decide), if_neg h, Option.bind_none]

theorem ClassMembership.ofCode?_eq_none {code : Text} (h : firstWord code ≠ classKeyword) :
    ClassMembership.ofCode? code = none := by
  have hb := bind_skipBlanks?_after? (k := classKeyword) (by decide) code
  rw [if_neg h] at hb
  rw [ClassMembership.ofCode?]
  cases hr : after? classKeyword code with
  | none => rfl
  | some rest =>
    rw [hr, Option.bind_some] at hb
    rw [Option.bind_some, hb, Option.bind_none]

theorem isClick_eq_false {code : Text} (h : firstWord code ≠ clickKeyword) :
    isClick code = false := by
  rw [isClick, bind_skipBlanks?_after? (by decide), if_neg h]
  rfl

theorem subgraphTitle?_eq_none {code : Text}
    (h : isKeywordAnyCase subgraphKeyword (firstWord code) = false) :
    subgraphTitle? code = none := by
  have hk : IsWord subgraphKeyword := by decide
  have hb := bind_skipBlanks?_afterAnyCase? hk code
  rw [h, if_neg (by decide)] at hb
  rw [subgraphTitle?]
  cases hr : afterAnyCase? subgraphKeyword code with
  | none => rfl
  | some rest =>
    cases rest with
    | nil =>
      have hcode : isKeywordAnyCase subgraphKeyword code := by
        rw [isKeywordAnyCase, hr, beq_self_eq_true]
      rw [firstWord_of_isKeywordAnyCase hk hcode, hcode] at h
      cases h
    | cons c rest =>
      rw [hr, Option.bind_some] at hb
      exact hb

theorem isDirection_eq_false {code : Text}
    (h : isKeywordAnyCase directionKeyword (firstWord code) = false) :
    isDirection code = false := by
  rw [isDirection, bind_skipBlanks?_afterAnyCase? (by decide), if_neg (by simp [h])]
  rfl

theorem isEnd_eq_false {code : Text}
    (h : isKeywordAnyCase endKeyword (firstWord code) = false) : isEnd code = false := by
  cases hcode : isEnd code with
  | false => rfl
  | true =>
    rw [firstWord_of_isKeywordAnyCase (by decide) hcode] at h
    rw [isEnd, ← isKeywordAnyCase, h] at hcode
    cases hcode

def exactKeywords : List Text := [classDefKeyword, classKeyword, clickKeyword]

def looseKeywords : List Text := [subgraphKeyword, directionKeyword, endKeyword]

/-- Every statement but nodes and edges starts with such a word. -/
def isKeyword (w : Text) : Bool :=
  exactKeywords.contains w || looseKeywords.any (isKeywordAnyCase · w)

def isKeywordChar (c : Char) : Bool :=
  exactKeywords.any (·.contains c) || looseKeywords.any (·.any (sameLetter · c))

theorem isKeyword_eq_false {w : Text} {c : Char} (hc : c ∈ w) (h : isKeywordChar c = false) :
    isKeyword w = false := by
  simp only [isKeywordChar, Bool.or_eq_false_iff, List.any_eq_false, List.contains_eq_mem,
    decide_eq_true_eq] at h
  rw [isKeyword, Bool.or_eq_false_iff, List.any_eq_false]
  constructor
  · rw [List.contains_eq_mem, decide_eq_false_iff_not]
    exact fun hw ↦ h.1 w hw hc
  · intro k hk hkw
    obtain ⟨a, ha, hs⟩ := exists_sameLetter_of_mem hkw hc
    exact h.2 k hk (List.any_eq_true.2 ⟨a, ha, hs⟩)

theorem Statement.ofCode_of_not_keyword {code : Text} (h : isKeyword (firstWord code) = false) :
    ofCode code = (((NodeLine.ofCode? code).map node).or
      ((Edge.ofCode? code).map edge)).getD unrecognised := by
  simp only [isKeyword, exactKeywords, looseKeywords, List.contains_cons, List.contains_nil,
    List.any_cons, List.any_nil, Bool.or_eq_false_iff, beq_eq_false_iff_ne] at h
  obtain ⟨⟨hs, hm, hc, -⟩, ht, hd, he, -⟩ := h
  rw [ofCode, StyleClass.ofCode?_eq_none hs, ClassMembership.ofCode?_eq_none hm,
    isClick_eq_false hc, subgraphTitle?_eq_none ht, isDirection_eq_false hd, isEnd_eq_false he]
  rfl

end FlowchartView

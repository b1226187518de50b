import FlowchartView.Proofs.Diagram.Declarations
import FlowchartView.Proofs.Diagram.Legible

namespace FlowchartView

open Text

def headerId? (header : Text) : Option Id := (subgraphTitle? header).bind titleId?

/-- `sg` and the place, counted from one. -/
def numberedId (k : Nat) : Id := 's' :: 'g' :: Nat.toDigits 10 (k + 1)

def idInPlace (header : Text) (k : Nat) : Id := (headerId? header).getD (numberedId k)

theorem numberedId_inj {j k : Nat} (h : numberedId j = numberedId k) : j = k := by
  have hdigits : Nat.toDigits 10 (j + 1) = Nat.toDigits 10 (k + 1) :=
    (List.cons.inj (List.cons.inj h).2).2
  have hsame : j + 1 = k + 1 := calc
    j + 1 = Nat.ofDigitChars 10 (Nat.toDigits 10 (j + 1)) 0 := Nat.ofDigitChars_ten_toDigits.symm
    _ = Nat.ofDigitChars 10 (Nat.toDigits 10 (k + 1)) 0 := by rw [hdigits]
    _ = k + 1 := Nat.ofDigitChars_ten_toDigits
  omega

theorem idInPlace_eq_iff {header : Text} {j k : Nat} :
    idInPlace header j = idInPlace header k ↔ (headerId? header).isSome ∨ j = k := by
  rw [idInPlace, idInPlace]
  cases headerId? header with
  | some id => simp
  | none =>
    constructor
    · intro h
      exact .inr (numberedId_inj h)
    · rintro (h | rfl)
      · cases h
      · rfl

namespace Layout

def labels (l : Layout) : List (Id × Text) := l.subgraphs.map fun s ↦ (s.id, s.header)

def IsNumbered (l : Layout) : Prop :=
  ∀ k id header, l.labels[k]? = some (id, header) → id = idInPlace header k

theorem labels_step (l : Layout) {s : Statement} (h : s.header? = none) :
    (l.step s).labels = l.labels := by
  cases s with
  | subgraph header title => cases h
  | direction code => cases hc : l.current? <;> simp [labels, step, subgraphs, hc]
  | endSubgraph => simp [labels, step, subgraphs]
  | node n =>
    rw [step, register]
    split
    · rfl
    · split
      · next hc => simp [labels, subgraphs, hc]
      · rfl
  | _ => rfl

theorem IsNumbered.step {l : Layout} (h : l.IsNumbered) {code : Text} {s : Statement}
    (hs : Says code s) : (l.step s).IsNumbered := by
  cases hheader : s.header? with
  | none =>
    rw [IsNumbered, l.labels_step hheader]
    exact h
  | some header =>
    cases s <;> cases hheader
    next title =>
    obtain rfl := hs.eq_header
    have htitle : subgraphTitle? header = some title := by
      cases hs.readFrom with
      | subgraph ht => exact ht
    have hlabels : (l.step (.subgraph header title)).labels =
        l.labels ++ [(l.subgraphId title, header)] := List.map_append
    intro k id other hk
    rw [hlabels, List.getElem?_append] at hk
    split at hk
    -- The new label is the last one, and its number counts the labels before it.
    · exact h k id other hk
    · next hge =>
      have hlt := (List.getElem?_eq_some_iff.1 hk).1
      have hlength : l.labels.length = l.subgraphs.length := List.length_map _
      simp only [List.length_singleton] at hlt
      obtain rfl : k = l.subgraphs.length := by omega
      obtain ⟨rfl, rfl⟩ := Prod.mk.inj (List.mem_singleton.1 (List.mem_of_getElem? hk))
      rw [idInPlace, headerId?, htitle]
      rfl

theorem IsNumbered.run {statements : List Statement}
    (hs : ∀ s ∈ statements, s = .blank ∨ ∃ code, Says code s) {l : Layout} (h : l.IsNumbered) :
    (statements.foldl Layout.step l).IsNumbered := by
  induction statements generalizing l with
  | nil => exact h
  | cons s statements ih =>
    obtain ⟨hfirst, hrest⟩ := List.forall_mem_cons.1 hs
    refine ih hrest ?_
    rcases hfirst with rfl | ⟨code, hcode⟩
    · exact h
    · exact h.step hcode

end Layout

namespace Diagram

theorem id_eq_idInPlace {source : Text} {k : Nat} {s : Subgraph}
    (h : (ofText source).subgraphs[k]? = some s) :
    s.id = idInPlace s.header k := by
  have hempty : ({} : Layout).IsNumbered := by
    simp [Layout.IsNumbered, Layout.labels, Layout.subgraphs]
  have hrun : (Layout.ofStatements
      (Preamble.ofLines (Line.ofText source)).statements).IsNumbered :=
    hempty.run (says_statements_ofText source)
  refine hrun k s.id s.header ?_
  have hlabel : (ofText source).subgraphs[k]?.map (fun t ↦ (t.id, t.header)) =
      some (s.id, s.header) := by rw [h, Option.map_some]
  rwa [← List.getElem?_map] at hlabel

end Diagram

end FlowchartView

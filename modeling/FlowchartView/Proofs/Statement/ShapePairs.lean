import FlowchartView.Proofs.Statement.InlineLink
import Mathlib.Data.List.Basic

namespace FlowchartView

open Text

namespace Shape

/-- The shapes with slashes in their delimiters; at either end the slash leans either way. -/
def slanted : List Shape := [parallelogram, parallelogramAlt, trapezoid, trapezoidAlt]

/-- The shape that opens as `s` and closes as `e`, but not as `s`. -/
def crossing? (s e : Shape) : Option Shape :=
  catalog.find? fun i ↦ decide (i.opening = s.opening ∧ i.closing = e.closing ∧
    i.closing ≠ s.closing)

theorem of_crossing? {i s e : Shape} (h : s.crossing? e = some i) :
    i.opening = s.opening ∧ i.closing = e.closing ∧ i.closing ≠ s.closing := by
  rw [crossing?] at h
  simpa using List.find?_some h

theorem closing_eq_of_crossing?_eq_none {i s e : Shape} (h : s.crossing? e = none)
    (hopening : i.opening = s.opening) (hclosing : i.closing = e.closing) :
    i.closing = s.closing := by
  have hnot := List.find?_eq_none.1 h i (mem_catalog i)
  by_contra hne
  exact hnot (decide_eq_true ⟨hopening, hclosing, hne⟩)

theorem crossing?_eq_none_iff : ∀ s e : Shape,
    s.crossing? e = none ↔ s.closing = e.closing ∨ s ∉ slanted ∨ e ∉ slanted := by
  decide +kernel

theorem length_closing_le : ∀ s : Shape, s.closing.length ≤ 2 := by decide

theorem of_opening_prefix : ∀ i s : Shape, i.opening <+: s.opening → ¬i.closing <:+ s.closing →
    i.opening = s.opening ∧ i.closing.length = 2 := by decide +kernel

/-- The character that starts the closing, which is a slash where the shape is slanted. -/
def slash (s : Shape) : Char := s.closing.headD '/'

theorem closings_of_opening_eq : ∀ i s : Shape, i.opening = s.opening → i.closing ≠ s.closing →
    i.closing = [i.slash, ']'] ∧ s.closing = [s.slash, ']'] ∧ i.slash ≠ s.slash ∧
      s.slash ≠ ']' := by decide +kernel

theorem Fits.of_not_suffix {i s e : Shape} (h : i.Fits s e) (hclosing : ¬i.closing <:+ s.closing) :
    i.opening = s.opening ∧ i.closing = e.closing := by
  obtain ⟨hopening, hlength⟩ := of_opening_prefix i s h.1 hclosing
  have hle := h.2.length_le
  have he := e.length_closing_le
  exact ⟨hopening, h.2.eq_of_length (by omega)⟩

end Shape

theorem goesOnWithLink_bracket_eq_false {x y : Char} (hxy : x ≠ y) (hy : y ≠ ']') {t r : Text}
    (ht : ']' ∉ t) (hr : ']' ∉ r) : goesOnWithLink [x, ']'] (t ++ y :: ']' :: r) = false := by
  rw [Bool.eq_false_iff]
  intro h
  obtain ⟨u, v, heq, -⟩ := goesOnWithLink_iff.1 h
  have hone : (t ++ [y]) ++ ']' :: r = (u ++ [x]) ++ ']' :: v := by simpa using heq
  have hbefore : ']' ∉ t ++ [y] := by simp [ht, Ne.symm hy]
  obtain ⟨hcut, -⟩ := (List.append_cons_inj_of_notMem hbefore hr).1 hone
  have hlast : [y] = [x] := List.append_inj_right' hcut rfl
  exact hxy (List.singleton_inj.1 hlast).symm

namespace NodeLine

section

variable {a b : Id} {s : Shape} (e : Shape) (l : Link) {t u : Text} (ht : IsPlain t)
  (hu : IsPlain u)
include ht hu

/-- The shape that the outermost delimiters make finds no link, for the label holds the closing of
the first node and not its own. -/
theorem admits_linkedLabel (hb : isId b) {i : Shape} (hopening : i.opening = s.opening)
    (hclosing : i.closing ≠ s.closing) :
    i.admits (linkedLabel ⟨a, t, s⟩ l.text ⟨b, u, e⟩) := by
  obtain ⟨hi, hs, hne, hbracket⟩ := Shape.closings_of_opening_eq i s hopening hclosing
  have hplain : ∀ {v : Text}, IsPlain v → ']' ∉ v := fun hv h ↦
    hv.not_mem_delimiterChars _ h (by decide)
  have hrest : ']' ∉ l.text ++ (b ++ (e.opening ++ u)) := by
    have hlink : ']' ∉ l.text := l.not_mem_text (by decide) (by decide)
    have hid : ']' ∉ b := fun h ↦ absurd (isIdChar_of_mem_id hb _ h) (by decide)
    have hopen : ']' ∉ e.opening := by cases e <;> decide
    simp [hlink, hid, hopen, hplain hu]
  have hlabel : linkedLabel ⟨a, t, s⟩ l.text ⟨b, u, e⟩ =
      t ++ s.slash :: ']' :: (l.text ++ (b ++ (e.opening ++ u))) := by simp [linkedLabel, hs]
  rw [Shape.admits, hlabel, hi, goesOnWithLink_bracket_eq_false hne hbracket (hplain ht) hrest,
    Bool.not_false, Bool.or_true]

theorem enclosingShape?_linkedLabel (a : Id) (hb : isId b) (s : Shape) :
    enclosingShape? (s.opening ++ (linkedLabel ⟨a, t, s⟩ l.text ⟨b, u, e⟩ ++ e.closing)) =
      (s.crossing? e).map fun i ↦ (i, linkedLabel ⟨a, t, s⟩ l.text ⟨b, u, e⟩) := by
  have hsetOff := isSetOff_linkedLabel (n := ⟨a, t, s⟩) (m := ⟨b, u, e⟩) ht.isSetOff hu.isSetOff
    l.text
  cases hcross : s.crossing? e with
  | some i =>
    obtain ⟨hopening, hclosing, hne⟩ := Shape.of_crossing? hcross
    rw [← hopening, ← hclosing,
      enclosingShape?_eq_some hsetOff (admits_linkedLabel e l ht hu hb hopening hne)]
    rfl
  | none =>
    refine enclosingShape?_eq_none hsetOff fun i v w hv hw ↦ ?_
    have hsuffix : i.closing <:+ s.closing := by
      by_contra hnot
      have hfits : i.Fits s e := ⟨⟨v, hv⟩, ⟨w, hw⟩⟩
      obtain ⟨hopening, hclosing⟩ := hfits.of_not_suffix hnot
      have hsame := Shape.closing_eq_of_crossing?_eq_none hcross hopening hclosing
      exact hnot (hsame ▸ List.suffix_rfl)
    have hrest : v ⊆ delimiterChars := fun c hc ↦
      s.opening_subset (hv ▸ List.mem_append_right _ hc)
    exact admits_linkedLabel_eq_false hsuffix ht hb a l e u hrest w

/-- A link between two plain labels is read as a node only where slanted shapes that close
differently stand at its ends. -/
theorem ofLine?_linked_shapes (ha : IsNodeId a) (hb : isId b) :
    ofLine? (linked ⟨a, t, s⟩ l.text ⟨b, u, e⟩) =
      ((s.crossing? e).map fun i ↦ ⟨a, linkedLabel ⟨a, t, s⟩ l.text ⟨b, u, e⟩, i⟩) ∧
    (ofLine? (linked ⟨a, t, s⟩ l.text ⟨b, u, e⟩) = none ↔
      s.closing = e.closing ∨ s ∉ Shape.slanted ∨ e ∉ Shape.slanted) := by
  have hread : ofLine? (linked ⟨a, t, s⟩ l.text ⟨b, u, e⟩) =
      (s.crossing? e).map fun i ↦ ⟨a, linkedLabel ⟨a, t, s⟩ l.text ⟨b, u, e⟩, i⟩ := by
    rw [ofLine?_linked_of_percent_not_mem ha hb s l e ht.percent_not_mem hu.percent_not_mem,
      enclosingShape?_linkedLabel e l ht hu a hb s, Option.map_map]
    rfl
  refine ⟨hread, ?_⟩
  rw [hread, Option.map_eq_none_iff, Shape.crossing?_eq_none_iff]

end

/-- The lines `A[/x/] --> B[/y\]` and `A[/x/] --> B[/y/]`. -/
theorem ofLine?_linked_shapes_slanted :
    let arrow : Link := ⟨[' '], "-->".toList, [' '], List.forall_mem_singleton.2 rfl, rfl,
      List.forall_mem_singleton.2 rfl⟩
    let line := fun e ↦ linked ⟨['A'], ['x'], .parallelogram⟩ arrow.text ⟨['B'], ['y'], e⟩
    line .trapezoid = "A[/x/] --> B[/y\\]".toList ∧
    ofLine? (line .trapezoid) = some ⟨['A'], "x/] --> B[/y".toList, .trapezoid⟩ ∧
    ofLine? (line .parallelogram) = none := by
  intro arrow line
  have hread := fun e ↦ ofLine?_linked_shapes (a := ['A']) (b := ['B']) (s := .parallelogram) e
    arrow (isPlain_singleton (c := 'x') (by decide)) (isPlain_singleton (c := 'y') (by decide))
    ⟨by decide, by decide⟩ (by decide)
  exact ⟨by decide, (hread .trapezoid).1, (hread .parallelogram).2.2 (.inl rfl)⟩

end NodeLine

end FlowchartView

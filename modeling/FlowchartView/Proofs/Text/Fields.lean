import FlowchartView.Text.Piece

namespace FlowchartView.Text

variable {p : Char → Bool}

theorem pieces_append_cons {c : Char} (hc : p c) (s t : Text) :
    pieces p (s ++ c :: t) = pieces p s ++ pieces p t := by
  induction s with
  | nil => simp [pieces, hc]
  | cons d s ih =>
    rw [List.cons_append, pieces, pieces, ih]
    split
    · rfl
    · cases hs : pieces p s with
      | nil => exact absurd hs (pieces_ne_nil p s)
      | cons u r => rfl

theorem pieces_eq_singleton {s : Text} (h : ∀ c ∈ s, p c = false) : pieces p s = [s] := by
  induction s with
  | nil => rfl
  | cons c s ih =>
    obtain ⟨hc, hs⟩ := List.forall_mem_cons.1 h
    rw [pieces, if_neg (by simp [hc]), ih hs, consFirst]

theorem isInfix_of_pieces (s : Text) :
    (∀ u ∈ (pieces p s).head?, u <+: s) ∧ ∀ u ∈ pieces p s, u <:+: s := by
  induction s with
  | nil => simp [pieces]
  | cons c s ih =>
    obtain ⟨hfirst, hall⟩ := ih
    have hcons : ∀ u ∈ pieces p s, u <:+: c :: s := fun u hu ↦
      List.infix_cons_iff.2 (.inr (hall u hu))
    rw [pieces]
    split
    · constructor
      · rintro u ⟨⟩
        exact List.nil_prefix
      · exact List.forall_mem_cons.2 ⟨List.nil_infix, hcons⟩
    · cases hs : pieces p s with
      | nil => exact absurd hs (pieces_ne_nil p s)
      | cons v r =>
        rw [hs] at hfirst hcons
        have hv : c :: v <+: c :: s := List.cons_prefix_cons.2 ⟨rfl, hfirst v rfl⟩
        constructor
        · rintro u ⟨⟩
          exact hv
        · exact List.forall_mem_cons.2 ⟨hv.isInfix, fun u hu ↦ hcons u (List.mem_cons_of_mem v hu)⟩

theorem fields_append_cons {c : Char} (hc : p c) (s t : Text) :
    fields p (s ++ c :: t) = fields p s ++ fields p t := by
  rw [fields, pieces_append_cons hc, List.filter_append, ← fields, ← fields]

theorem fields_eq_singleton {s : Text} (hne : s ≠ []) (h : ∀ c ∈ s, p c = false) :
    fields p s = [s] := by
  simp [fields, pieces_eq_singleton h, hne]

theorem of_mem_fields {s u : Text} (h : u ∈ fields p s) :
    u ≠ [] ∧ (∀ c ∈ u, p c = false) ∧ u <:+: s := by
  obtain ⟨hu, hne⟩ := List.mem_filter.1 h
  exact ⟨by simpa using hne, separator_of_mem_pieces p s u hu, (isInfix_of_pieces s).2 u hu⟩

theorem fields_intercalate {c : Char} (hc : p c) {us : List Text} (hne : ∀ u ∈ us, u ≠ [])
    (h : ∀ u ∈ us, ∀ c ∈ u, p c = false) : fields p ([c].intercalate us) = us := by
  induction us with
  | nil => rfl
  | cons u us ih =>
    obtain ⟨hu, hneus⟩ := List.forall_mem_cons.1 hne
    obtain ⟨hup, hus⟩ := List.forall_mem_cons.1 h
    cases us with
    | nil => rw [List.intercalate_singleton, fields_eq_singleton hu hup]
    | cons v us =>
      rw [List.intercalate_cons_cons, List.append_assoc, List.singleton_append,
        fields_append_cons hc, fields_eq_singleton hu hup, ih hneus hus, List.singleton_append]

end FlowchartView.Text

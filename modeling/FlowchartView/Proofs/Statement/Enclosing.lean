import FlowchartView.Proofs.Statement.NodeLine

namespace FlowchartView

open Text

namespace Text

/-- What starts another text and lacks its character `c` ends before `c`. -/
theorem prefix_of_prefix_append_cons {k s r : Text} {c : Char} (hc : c ∉ k)
    (h : k <+: s ++ c :: r) : k <+: s := by
  induction k generalizing s with
  | nil => exact List.nil_prefix
  | cons a k ih =>
    rw [List.mem_cons, not_or] at hc
    cases s with
    | nil => exact absurd (List.cons_prefix_cons.1 h).1.symm hc.1
    | cons d s =>
      obtain ⟨hd, h⟩ := List.cons_prefix_cons.1 h
      exact List.cons_prefix_cons.2 ⟨hd, ih hc.2 h⟩

theorem suffix_of_suffix_append_cons {k s r : Text} {c : Char} (hc : c ∉ k)
    (h : k <:+ r ++ c :: s) : k <:+ s := by
  rw [← List.reverse_prefix] at h ⊢
  rw [List.reverse_append, List.reverse_cons, List.append_assoc] at h
  exact prefix_of_prefix_append_cons (by simpa using hc) h

end Text

def delimiterChars : Text := ['(', ')', '[', ']', '{', '}', '/', '\\', '>']

/-- The text begins and ends with characters that stand in no delimiter. -/
structure IsSetOff (t : Text) : Prop where
  head : ∃ c r, t = c :: r ∧ c ∉ delimiterChars
  last : ∃ r c, t = r ++ [c] ∧ c ∉ delimiterChars

theorem isSetOff_of_not_mem {t : Text} (hne : t ≠ []) (h : ∀ c ∈ t, c ∉ delimiterChars) :
    IsSetOff t := by
  constructor
  · obtain ⟨c, r, rfl⟩ := List.exists_cons_of_ne_nil hne
    exact ⟨c, r, rfl, h c List.mem_cons_self⟩
  · exact ⟨t.dropLast, _, (List.dropLast_concat_getLast hne).symm, h _ (List.getLast_mem hne)⟩

theorem IsSetOff.append {t u : Text} (ht : IsSetOff t) (hu : IsSetOff u) (m : Text) :
    IsSetOff (t ++ (m ++ u)) := by
  obtain ⟨c, r, rfl, hc⟩ := ht.head
  obtain ⟨r', d, rfl, hd⟩ := hu.last
  exact ⟨⟨c, _, rfl, hc⟩, ⟨c :: r ++ (m ++ r'), d, by simp, hd⟩⟩

namespace Shape

theorem opening_subset (s : Shape) : s.opening ⊆ delimiterChars := by cases s <;> decide

theorem closing_subset (s : Shape) : s.closing ⊆ delimiterChars := by cases s <;> decide

theorem opening_prefix_of_inside? {i o : Shape} {label r : Text} {c : Char}
    (hc : c ∉ delimiterChars) (h : i.inside? (o.opening ++ c :: r) = some label) :
    i.opening <+: o.opening := by
  obtain ⟨heq, -⟩ := inside?_eq_some_iff.1 h
  refine prefix_of_prefix_append_cons (r := r) (fun hi ↦ hc (i.opening_subset hi)) ?_
  rw [heq]
  exact List.prefix_append _ _

theorem closing_suffix_of_inside? {i e : Shape} {label r : Text} {c : Char}
    (hc : c ∉ delimiterChars) (h : i.inside? (r ++ c :: e.closing) = some label) :
    i.closing <:+ e.closing := by
  obtain ⟨heq, -⟩ := inside?_eq_some_iff.1 h
  refine suffix_of_suffix_append_cons (r := r) (fun hi ↦ hc (i.closing_subset hi)) ?_
  rw [heq, ← List.append_assoc]
  exact List.suffix_append _ _

/-- The delimiters of `i` stand inside those of `o` at the start and of `e` at the end. -/
def Fits (i o e : Shape) : Prop := i.opening <+: o.opening ∧ i.closing <:+ e.closing

instance (i o e : Shape) : Decidable (i.Fits o e) := inferInstanceAs (Decidable (_ ∧ _))

theorem fits_of_inside? {i o e : Shape} {t label : Text} (ht : IsSetOff t)
    (h : i.inside? (o.opening ++ (t ++ e.closing)) = some label) : i.Fits o e := by
  obtain ⟨c, r, hhead, hc⟩ := ht.head
  obtain ⟨r', d, hlast, hd⟩ := ht.last
  constructor
  · rw [hhead, List.cons_append] at h
    exact opening_prefix_of_inside? hc h
  · rw [hlast, List.append_assoc r', List.singleton_append, ← List.append_assoc] at h
    exact closing_suffix_of_inside? hd h

theorem Fits.exists_of_inside? {i o e : Shape} (hfits : i.Fits o e) {t label : Text}
    (h : i.inside? (o.opening ++ (t ++ e.closing)) = some label) :
    ∃ v w, i.opening ++ v = o.opening ∧ w ++ i.closing = e.closing ∧ label = v ++ (t ++ w) := by
  obtain ⟨⟨v, hv⟩, ⟨w, hw⟩⟩ := hfits
  obtain ⟨heq, -⟩ := inside?_eq_some_iff.1 h
  refine ⟨v, w, hv, hw, ?_⟩
  rw [← hv, ← hw, List.append_assoc, List.append_cancel_left_eq, ← List.append_assoc t,
    ← List.append_assoc v, List.append_cancel_right_eq] at heq
  exact heq.symm

theorem mem_longestFirst (s : Shape) : s ∈ longestFirst := longestFirst_eq_catalog ▸ mem_catalog s

/-- Each shape is tried before those that fit into it. -/
theorem pairwise_longestFirst : longestFirst.Pairwise fun i s ↦ ¬i.Fits s s := by decide

theorem longestFirst_eq_append (s : Shape) :
    ∃ l r, longestFirst = l ++ s :: r ∧ ∀ i ∈ l, ¬i.Fits s s := by
  obtain ⟨l, r, hsplit⟩ := List.append_of_mem s.mem_longestFirst
  have hpairwise := pairwise_longestFirst
  rw [hsplit, List.pairwise_append] at hpairwise
  exact ⟨l, r, hsplit, fun i hi ↦ hpairwise.2.2 i hi s List.mem_cons_self⟩

/-- The search ends at a shape when it passes over all that do not fit into it. -/
theorem findSome?_longestFirst {α : Type} {s : Shape} {f : Shape → Option α} {a : α}
    (hs : f s = some a) (h : ∀ i : Shape, ¬i.Fits s s → f i = none) :
    longestFirst.findSome? f = some a := by
  obtain ⟨l, r, hsplit, hl⟩ := s.longestFirst_eq_append
  exact List.findSome?_eq_some_iff.2 ⟨l, s, r, hsplit, hs, fun i hi ↦ h i (hl i hi)⟩

end Shape

open Shape

theorem enclosingShape?_eq_none {o e : Shape} {t : Text} (ht : IsSetOff t)
    (h : ∀ (i : Shape) (v w : Text), i.opening ++ v = o.opening → w ++ i.closing = e.closing →
      i.admits (v ++ (t ++ w)) = false) :
    enclosingShape? (o.opening ++ (t ++ e.closing)) = none := by
  refine List.findSome?_eq_none_iff.2 fun i _ ↦ ?_
  rw [Option.map_eq_none_iff, Option.filter_eq_none_iff]
  intro label hlabel
  obtain ⟨v, w, hv, hw, rfl⟩ := (fits_of_inside? ht hlabel).exists_of_inside? hlabel
  simp [h i v w hv hw]

theorem enclosingShape?_eq_some {s : Shape} {t : Text} (ht : IsSetOff t) (hadmits : s.admits t) :
    enclosingShape? (s.opening ++ (t ++ s.closing)) = some (s, t) := by
  have hinside : s.inside? (s.opening ++ (t ++ s.closing)) = some t := by
    obtain ⟨c, u, hu, -⟩ := ht.head
    exact inside?_eq_some_iff.2 ⟨rfl, by simp [hu]⟩
  refine findSome?_longestFirst (s := s) ?_ fun i hi ↦ ?_
  · simp [hinside, hadmits]
  rw [Option.map_eq_none_iff, Option.filter_eq_none_iff]
  intro label hlabel
  exact absurd (fits_of_inside? ht hlabel) hi

theorem enclosingShape?_of_head {s : Shape} (hs : ∀ i : Shape, i.opening <+: s.opening → i = s)
    {c : Char} (hc : c ∉ delimiterChars) (r : Text) : enclosingShape? (s.opening ++ c :: r) =
      ((s.inside? (s.opening ++ c :: r)).filter s.admits).map fun label ↦ (s, label) := by
  have hother : ∀ i : Shape, i ≠ s → i.inside? (s.opening ++ c :: r) = none := by
    intro i hi
    refine Option.eq_none_iff_forall_ne_some.2 fun label hlabel ↦ hi (hs i ?_)
    exact opening_prefix_of_inside? hc hlabel
  cases hin : (s.inside? (s.opening ++ c :: r)).filter s.admits with
  | none =>
    refine List.findSome?_eq_none_iff.2 fun i _ ↦ ?_
    by_cases hi : i = s
    · rw [hi, hin, Option.map_none]
    · rw [hother i hi, Option.filter_none, Option.map_none]
  | some label =>
    refine findSome?_longestFirst (s := s) ?_ fun i hi ↦ ?_
    · rw [hin, Option.map_some]
    have hne : i ≠ s := by
      rintro rfl
      exact hi ⟨List.prefix_rfl, List.suffix_rfl⟩
    rw [hother i hne, Option.filter_none, Option.map_none]

end FlowchartView

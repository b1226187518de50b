import FlowchartView.Proofs.Statement.InlineLink

namespace FlowchartView

open Text

namespace Shape

def Encloses (s : Shape) (label t : Text) : Prop :=
  t = s.opening ++ (label ++ s.closing) ∧ label ≠ []

def IsFirstAround (s : Shape) (label t : Text) : Prop :=
  s.Encloses label t ∧
    ∃ l r, longestFirst = l ++ s :: r ∧ ∀ i ∈ l, ∀ inner, ¬i.Encloses inner t

/-- The label does not stand in quotes, and somewhere it closes the shape and goes on with a link to
another id. -/
structure Rejects (s : Shape) (label : Text) : Prop where
  ne_inQuotes : ∀ u, label ≠ inQuotes u
  link : ∃ (u : Text) (l : Link) (c : Char) (r : Text),
    label = u ++ (s.closing ++ (l.text ++ c :: r)) ∧ isAsciiLetter c

theorem encloses_iff {s : Shape} {label t : Text} :
    s.Encloses label t ↔ s.inside? t = some label := inside?_eq_some_iff.symm

theorem inside?_eq_none_iff {s : Shape} {t : Text} :
    s.inside? t = none ↔ ∀ label, ¬s.Encloses label t := by
  simp only [encloses_iff]
  exact Option.eq_none_iff_forall_ne_some

theorem rejects_iff {s : Shape} {label : Text} : s.Rejects label ↔ s.admits label = false := by
  have hquotes : inDoubleQuotes label = false ↔ ∀ u, label ≠ inQuotes u := by
    rw [Bool.eq_false_iff, ne_eq, inDoubleQuotes_iff, not_exists]
  have hlink : goesOnWithLink s.closing label ↔ ∃ (u : Text) (l : Link) (c : Char) (r : Text),
      label = u ++ (s.closing ++ (l.text ++ c :: r)) ∧ isAsciiLetter c := by
    rw [goesOnWithLink_iff]
    constructor
    · rintro ⟨u, v, rfl, hv⟩
      obtain ⟨l, c, r, rfl, hc⟩ := startsLink_iff.1 hv
      exact ⟨u, l, c, r, rfl, hc⟩
    · rintro ⟨u, l, c, r, rfl, hc⟩
      exact ⟨u, _, rfl, startsLink_iff.2 ⟨l, c, r, rfl, hc⟩⟩
  rw [admits, Bool.or_eq_false_iff, Bool.not_eq_false', hquotes, hlink]
  exact ⟨fun h ↦ ⟨h.ne_inQuotes, h.link⟩, fun h ↦ ⟨h.1, h.2⟩⟩

instance (s : Shape) (label : Text) : Decidable (s.Rejects label) := decidable_of_iff' _ rejects_iff

theorem fits_or_fits : ∀ i s : Shape, i.opening <+: s.opening ∨ s.opening <+: i.opening →
    i.closing <:+ s.closing ∨ s.closing <:+ i.closing → i.Fits s s ∨ s.Fits i i := by
  decide +kernel

theorem eq_of_fits_of_opening_eq : ∀ i s : Shape, i.Fits s s → i.opening = s.opening → i = s := by
  decide +kernel

variable {i s : Shape} {inner label t : Text}

theorem Encloses.opening_prefix (h : s.Encloses label t) : s.opening <+: t := ⟨_, h.1.symm⟩

theorem Encloses.closing_suffix (h : s.Encloses label t) : s.closing <:+ t :=
  ⟨s.opening ++ label, by rw [h.1, List.append_assoc]⟩

theorem Encloses.fits_or_fits (hi : i.Encloses inner t) (hs : s.Encloses label t) :
    i.Fits s s ∨ s.Fits i i :=
  Shape.fits_or_fits i s (List.prefix_or_prefix_of_prefix hi.opening_prefix hs.opening_prefix)
    (List.suffix_or_suffix_of_suffix hi.closing_suffix hs.closing_suffix)

theorem IsFirstAround.fits (hs : s.IsFirstAround label t) (hi : i.Encloses inner t) :
    i.Fits s s := by
  obtain ⟨hs, l, r, hsplit, hbefore⟩ := hs
  rcases hi.fits_or_fits hs with hfits | hfits
  · exact hfits
  -- A shape into which `s` fits is `s` or is tried before it, and none of those encloses the text.
  have hmem : i ∈ l ++ s :: r := hsplit ▸ i.mem_longestFirst
  have hpairwise := pairwise_longestFirst
  rw [hsplit, List.pairwise_append, List.pairwise_cons] at hpairwise
  rcases List.mem_append.1 hmem with hl | hr
  · exact absurd hi (hbefore i hl inner)
  rcases List.mem_cons.1 hr with rfl | hr
  · exact hfits
  · exact absurd hfits (hpairwise.2.1.1 i hr)

/-- The shorter delimiters leave the label whole, and with it the closing in front of the link. What
they leave of the longer opening is no quote. -/
theorem Rejects.of_fits (h : s.Rejects label) (hs : s.Encloses label t) (hi : i.Encloses inner t)
    (hfits : i.Fits s s) : i.Rejects inner := by
  obtain ⟨v, w, hv, hw, rfl⟩ := hfits.exists_of_inside? (hs.1 ▸ encloses_iff.1 hi)
  obtain ⟨u, l, c, r, hlabel, hc⟩ := h.link
  constructor
  · intro q hq
    cases v with
    | nil =>
      -- The openings are the same, and so are the shapes and their labels.
      obtain rfl := eq_of_fits_of_opening_eq i s hfits (by simpa using hv)
      have hw : w = [] := by simpa using hw
      exact h.ne_inQuotes q (by simpa [hw] using hq)
    | cons d v =>
      have hd : d = '"' := (List.cons.inj hq).1
      have hmem : d ∈ s.opening := hv ▸ List.mem_append_right _ List.mem_cons_self
      exact absurd (s.opening_subset hmem) (hd ▸ by decide)
  · exact ⟨v ++ (u ++ w), l, c, r ++ w, by simp [hlabel, ← hw], hc⟩

/-- The search that stops at the first shape around the text, whatever its label is. -/
def outermost? (t : Text) : Option (Shape × Text) :=
  longestFirst.findSome? fun s ↦ (s.inside? t).map fun label ↦ (s, label)

theorem outermost?_eq_some_iff : outermost? t = some (s, label) ↔ s.IsFirstAround label t := by
  rw [outermost?, List.findSome?_eq_some_iff]
  simp only [Option.map_eq_none_iff, inside?_eq_none_iff]
  constructor
  · rintro ⟨l, i, r, hsplit, hi, hl⟩
    obtain ⟨inner, hinner, heq⟩ := Option.map_eq_some_iff.1 hi
    obtain ⟨rfl, rfl⟩ := Prod.mk.inj heq
    exact ⟨encloses_iff.2 hinner, l, r, hsplit, hl⟩
  · rintro ⟨hs, l, r, hsplit, hl⟩
    exact ⟨l, s, r, hsplit, by rw [encloses_iff.1 hs, Option.map_some], hl⟩

theorem outermost?_eq_none_iff :
    outermost? t = none ↔ ∀ (s : Shape) (label : Text), ¬s.Encloses label t := by
  simp only [outermost?, List.findSome?_eq_none_iff, Option.map_eq_none_iff, inside?_eq_none_iff,
    mem_longestFirst, forall_const]

instance (s : Shape) (label t : Text) : Decidable (s.IsFirstAround label t) :=
  decidable_of_iff _ outermost?_eq_some_iff

end Shape

open Shape

theorem enclosingShape?_eq_filter (t : Text) :
    enclosingShape? t = (outermost? t).filter fun m ↦ m.1.admits m.2 := by
  cases hfirst : outermost? t with
  | none =>
    refine List.findSome?_eq_none_iff.2 fun i _ ↦ ?_
    rw [inside?_eq_none_iff.2 (outermost?_eq_none_iff.1 hfirst i), Option.filter_none,
      Option.map_none]
  | some m =>
    obtain ⟨s, label⟩ := m
    have hfirst := outermost?_eq_some_iff.1 hfirst
    rw [Option.filter_some]
    cases hadmits : s.admits label with
    | true =>
      refine findSome?_longestFirst (s := s) ?_ fun i hi ↦ ?_
      · rw [encloses_iff.1 hfirst.1, Option.filter_some, if_pos hadmits, Option.map_some]
      · rw [inside?_eq_none_iff.2 fun inner hinner ↦ hi (hfirst.fits hinner), Option.filter_none,
          Option.map_none]
    | false =>
      refine List.findSome?_eq_none_iff.2 fun i _ ↦ ?_
      rw [Option.map_eq_none_iff, Option.filter_eq_none_iff]
      intro inner hinner
      have hi := encloses_iff.2 hinner
      simp [rejects_iff.1 ((rejects_iff.2 hadmits).of_fits hfirst.1 hi (hfirst.fits hi))]

/-- The first shape around a text is the answer unless it rejects its label, and then there is no
answer, for all the shapes around the text reject theirs. -/
theorem enclosingShape?_stops_at_first (t : Text) :
    (enclosingShape? t = none ↔ (∀ (s : Shape) (label : Text), ¬s.Encloses label t) ∨
      ∃ (s : Shape) (label : Text), s.IsFirstAround label t ∧ s.Rejects label) ∧
    (∀ (s : Shape) (label : Text), enclosingShape? t = some (s, label) ↔
      s.IsFirstAround label t ∧ ¬s.Rejects label) ∧
    ∀ (s : Shape) (label : Text), s.IsFirstAround label t → s.Rejects label →
      ∀ (i : Shape) (inner : Text), i.Encloses inner t → i.Rejects inner := by
  refine ⟨?_, fun s label ↦ ?_, fun s label hfirst hrejects i inner hi ↦ ?_⟩
  · rw [enclosingShape?_eq_filter]
    constructor
    · intro hnone
      cases hfirst : outermost? t with
      | none => exact .inl (outermost?_eq_none_iff.1 hfirst)
      | some m =>
        have hadmits := Option.filter_eq_none_iff.1 hnone m hfirst
        rw [Bool.not_eq_true] at hadmits
        exact .inr ⟨m.1, m.2, outermost?_eq_some_iff.1 hfirst, rejects_iff.2 hadmits⟩
    · rintro (hnot | ⟨s, label, hfirst, hrejects⟩)
      · rw [outermost?_eq_none_iff.2 hnot, Option.filter_none]
      · rw [outermost?_eq_some_iff.2 hfirst, Option.filter_some, rejects_iff.1 hrejects]
        rfl
  · rw [enclosingShape?_eq_filter, Option.filter_eq_some_iff, outermost?_eq_some_iff, rejects_iff,
      Bool.not_eq_false]
  · exact hrejects.of_fits hfirst.1 hi (hfirst.fits hi)

/-- The text `[/x\] --> B[/y\]`, as a trapezoid and as a rectangle. -/
theorem enclosingShape?_stops_at_first_slanted :
    let label := "x\\] --> B[/y".toList
    let t := '[' :: '/' :: (label ++ ['\\', ']'])
    Shape.trapezoid.IsFirstAround label t ∧ Shape.trapezoid.Rejects label ∧
    Shape.rectangle.Encloses ('/' :: (label ++ ['\\'])) t ∧
    Shape.rectangle.Rejects ('/' :: (label ++ ['\\'])) ∧ enclosingShape? t = none := by
  intro label t
  have hfirst : Shape.trapezoid.IsFirstAround label t := by decide
  have hrejects : Shape.trapezoid.Rejects label := by decide
  have hrectangle : Shape.rectangle.Encloses ('/' :: (label ++ ['\\'])) t := ⟨rfl, by simp⟩
  obtain ⟨hnone, -, hall⟩ := enclosingShape?_stops_at_first t
  exact ⟨hfirst, hrejects, hrectangle, hall _ _ hfirst hrejects _ _ hrectangle,
    hnone.2 (.inr ⟨_, _, hfirst, hrejects⟩)⟩

end FlowchartView

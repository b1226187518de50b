import FlowchartView.Proofs.Text.Ids
import FlowchartView.Statement.ClassLine
import FlowchartView.Statement.NodeLine

namespace FlowchartView

open Text

namespace Text

theorem dropWhile_append_cons {p : Char → Bool} {c : Char} (hc : p c = false) (s r : Text) :
    (s ++ c :: r).dropWhile p = s.dropWhile p ++ c :: r := by
  rw [List.dropWhile_append, List.dropWhile_cons_of_neg (by simp [hc])]
  split
  · next hs => rw [List.isEmpty_iff.1 hs, List.nil_append]
  · rfl

theorem takeWhile_append_cons {p : Char → Bool} {c : Char} (hc : p c = false) (s r : Text) :
    (s ++ c :: r).takeWhile p = s.takeWhile p := by
  induction s with
  | nil => simp [hc]
  | cons d s ih => rw [List.cons_append, List.takeWhile_cons, List.takeWhile_cons, ih]

theorem trimStart_append_cons {c : Char} (hc : isBlank c = false) (s r : Text) :
    trimStart (s ++ c :: r) = trimStart s ++ c :: r := dropWhile_append_cons hc s r

theorem trimEnd_append_cons {c : Char} (hc : isBlank c = false) (s r : Text) :
    trimEnd (s ++ c :: r) = s ++ c :: trimEnd r := by
  have hreverse : (s ++ c :: r).reverse = r.reverse ++ c :: s.reverse := by simp
  rw [trimEnd, trimEnd, hreverse, dropWhile_append_cons hc]
  simp

/-- A keyword does not reach across a character that it does not hold. -/
theorem after?_append_cons {k : Text} {c : Char} (hc : c ∉ k) (s r : Text) :
    after? k (s ++ c :: r) = (after? k s).map (· ++ c :: r) := by
  induction k generalizing s with
  | nil => rfl
  | cons a k ih =>
    rw [List.mem_cons, not_or] at hc
    cases s with
    | nil => simp [after?, hc.1]
    | cons d s => by_cases hd : d = a <;> simp [after?, hd, ih hc.2]

theorem before?_append_cons {k : Text} {c : Char} (hc : c ∉ k) (s r : Text) :
    before? k (s ++ c :: r) = (before? k r).map (s ++ c :: ·) := by
  have hreverse : (s ++ c :: r).reverse = r.reverse ++ c :: s.reverse := by simp
  rw [before?, before?, hreverse, after?_append_cons (by simpa using hc), Option.map_map,
    Option.map_map]
  congr 1
  funext t
  simp

end Text

theorem of_isLinkChar {c : Char} (h : isLinkChar c) :
    isBlank c = false ∧ isAsciiLetter c = false ∧ isIdSeparator c = false ∧ c ≠ '%' ∧
      ['t', 'b', 'l', 'r'].all (!sameLetter · c) := by
  simp only [isLinkChar, Bool.or_eq_true, beq_iff_eq] at h
  rcases h with (((rfl | rfl) | rfl) | rfl) | rfl <;> decide

theorem of_isOperator {s : Text} (h : isOperator s) : 2 ≤ s.length ∧ ∀ c ∈ s, isLinkChar c := by
  rwa [isOperator, Bool.and_eq_true, decide_eq_true_eq, List.all_eq_true] at h

theorem not_isLinkChar_of_isBlank {c : Char} (h : isBlank c) : isLinkChar c = false := by
  cases hlink : isLinkChar c with
  | false => rfl
  | true =>
    rw [(of_isLinkChar hlink).1] at h
    cases h

theorem not_isLinkChar_of_isAsciiLetter {c : Char} (h : isAsciiLetter c) :
    isLinkChar c = false := by
  cases hlink : isLinkChar c with
  | false => rfl
  | true =>
    rw [(of_isLinkChar hlink).2.1] at h
    cases h

/-- An operator and the blanks around it, as it stands between two nodes. -/
structure Link where
  before : Text
  operator : Text
  after : Text
  isBlank_before : ∀ c ∈ before, isBlank c
  isOperator_operator : isOperator operator
  isBlank_after : ∀ c ∈ after, isBlank c

namespace Link

def text (l : Link) : Text := l.before ++ (l.operator ++ l.after)

variable (l : Link)

theorem of_mem_text {c : Char} (hc : c ∈ l.text) : isBlank c ∨ isLinkChar c := by
  rw [text, List.mem_append, List.mem_append] at hc
  rcases hc with hc | hc | hc
  · exact .inl (l.isBlank_before c hc)
  · exact .inr ((of_isOperator l.isOperator_operator).2 c hc)
  · exact .inl (l.isBlank_after c hc)

theorem not_mem_text {c : Char} (hblank : isBlank c = false) (hlink : isLinkChar c = false) :
    c ∉ l.text := by
  intro hc
  have h := l.of_mem_text hc
  simp [hblank, hlink] at h

theorem not_isBlank_of_mem_head? : ∀ c ∈ (l.operator ++ l.after).head?, isBlank c = false := by
  intro c hc
  obtain ⟨hlength, hop⟩ := of_isOperator l.isOperator_operator
  cases ho : l.operator with
  | nil => simp [ho] at hlength
  | cons o op =>
    rw [ho, List.cons_append, List.head?_cons] at hc
    exact Option.some.inj hc ▸ (of_isLinkChar (hop o (by simp [ho]))).1

theorem takeLink?_text : takeLink? l.text = some (l.operator, []) := by
  obtain ⟨hlength, hop⟩ := of_isOperator l.isOperator_operator
  have hhead := trimStart_eq_self l.not_isBlank_of_mem_head?
  have hafter : ∀ c ∈ l.after.head?, isLinkChar c = false := fun c hc ↦
    not_isLinkChar_of_isBlank (l.isBlank_after c (List.mem_of_mem_head? hc))
  have hend : trimStart l.after = [] := by
    rw [← List.append_nil l.after, trimStart_append l.isBlank_after]
    rfl
  rw [takeLink?, text, trimStart_append l.isBlank_before, hhead,
    takeWhile_append_of_head hop hafter, dropWhile_append_of_head hop hafter, hend,
    if_pos hlength]

end Link

theorem exists_text_of_takeLink? {s op rest : Text} (h : takeLink? s = some (op, rest)) :
    ∃ l : Link, l.operator = op ∧ s = l.text ++ rest := by
  have hop := isOperator_of_takeLink? h
  obtain ⟨-, h⟩ := Option.ite_none_right_eq_some.1 h
  obtain ⟨rfl, rfl⟩ := Prod.mk.inj (Option.some.inj h)
  refine ⟨⟨s.takeWhile isBlank, _, ((trimStart s).dropWhile isLinkChar).takeWhile isBlank,
    List.all_eq_true.1 List.all_takeWhile, hop, List.all_eq_true.1 List.all_takeWhile⟩, rfl, ?_⟩
  have hblanks : ∀ t : Text, t.takeWhile isBlank ++ trimStart t = t := fun _ ↦
    List.takeWhile_append_dropWhile
  rw [Link.text, List.append_assoc, List.append_assoc, hblanks, List.takeWhile_append_dropWhile,
    hblanks]

section

variable {c : Char} (hblank : isBlank c = false) (hlink : isLinkChar c = false)
include hblank hlink

theorem takeLink?_append_cons (s r : Text) :
    takeLink? (s ++ c :: r) = (takeLink? s).map fun l ↦ (l.1, l.2 ++ c :: r) := by
  rw [takeLink?, takeLink?, trimStart_append_cons hblank, takeWhile_append_cons hlink,
    dropWhile_append_cons hlink, trimStart_append_cons hblank]
  split <;> rfl

theorem startsLink_text_append (l : Link) (r : Text) :
    startsLink (l.text ++ c :: r) = isAsciiLetter c := by
  rw [startsLink, takeLink?_append_cons hblank hlink, l.takeLink?_text]
  rfl

variable (hletter : isAsciiLetter c = false)
include hletter

theorem startsLink_append_cons (s r : Text) : startsLink (s ++ c :: r) = startsLink s := by
  rw [startsLink, startsLink, takeLink?_append_cons hblank hlink]
  cases takeLink? s with
  | none => rfl
  | some l =>
    obtain ⟨op, rest⟩ := l
    cases rest with
    | nil => exact hletter
    | cons d rest => rfl

theorem goesOnWithLink_append_cons {k : Text} (hne : k ≠ []) (hc : c ∉ k) (s r : Text) :
    goesOnWithLink k (s ++ c :: r) = (goesOnWithLink k s || goesOnWithLink k r) := by
  induction s with
  | nil =>
    obtain ⟨a, k, rfl⟩ := List.exists_cons_of_ne_nil hne
    have hca : c ≠ a := fun h ↦ hc (h ▸ List.mem_cons_self)
    simp [goesOnWithLink, after?, hca]
  | cons d s ih =>
    have hafter := after?_append_cons hc (d :: s) r
    rw [List.cons_append] at hafter ⊢
    rw [goesOnWithLink, goesOnWithLink, ih, hafter, Option.any_map, Bool.or_assoc]
    congr 2
    exact funext fun t ↦ startsLink_append_cons hblank hlink hletter t r

end

theorem takeLink?_text_append_id (l : Link) {id : Id} (hid : isId id) (r : Text) :
    takeLink? (l.text ++ (id ++ r)) = some (l.operator, id ++ r) := by
  cases id with
  | nil => cases hid
  | cons c id =>
    rw [isId, Bool.and_eq_true] at hid
    have hblank := not_isBlank_of_isIdChar (isIdChar_of_isAsciiLetter hid.1)
    rw [List.cons_append, takeLink?_append_cons hblank (not_isLinkChar_of_isAsciiLetter hid.1),
      l.takeLink?_text, Option.map_some, List.nil_append]

theorem Link.eq_of_text_eq {l m : Link} (h : l.text = m.text) (hop : l.operator = m.operator) :
    l = m := by
  have hbefore : ∀ n : Link, n.text.takeWhile isBlank = n.before := fun n ↦
    takeWhile_append_of_head n.isBlank_before n.not_isBlank_of_mem_head?
  have hb : l.before = m.before := by rw [← hbefore l, h, hbefore m]
  have ha : l.after = m.after := by
    rw [text, text, hb, hop] at h
    exact List.append_cancel_left (List.append_cancel_left h)
  cases l
  cases m
  cases hb
  cases hop
  cases ha
  rfl

/-- The letter of an id ends a link, and so fixes both. -/
theorem Link.eq_of_append_eq {l m : Link} {a b : Id} (ha : isId a) (hb : isId b)
    (h : l.text ++ a = m.text ++ b) : l = m ∧ a = b := by
  have hl := takeLink?_text_append_id l ha []
  have hm := takeLink?_text_append_id m hb []
  rw [List.append_nil] at hl hm
  rw [h, hm] at hl
  obtain ⟨hop, hab⟩ := Prod.mk.inj (Option.some.inj hl)
  rw [hab] at h
  exact ⟨eq_of_text_eq (List.append_cancel_right h) hop.symm, hab.symm⟩

theorem startsLink_iff {t : Text} :
    startsLink t ↔ ∃ (l : Link) (c : Char) (r : Text), t = l.text ++ c :: r ∧ isAsciiLetter c := by
  constructor
  · intro h
    rw [startsLink] at h
    split at h
    · next op c r hlink =>
      obtain ⟨l, -, rfl⟩ := exists_text_of_takeLink? hlink
      exact ⟨l, c, r, rfl, h⟩
    · cases h
  · rintro ⟨l, c, r, rfl, hc⟩
    have hblank := not_isBlank_of_isIdChar (isIdChar_of_isAsciiLetter hc)
    rw [startsLink_text_append hblank (not_isLinkChar_of_isAsciiLetter hc), hc]

theorem startsLink_text_append_id (l : Link) {id : Id} (hid : isId id) (r : Text) :
    startsLink (l.text ++ (id ++ r)) := by
  cases id with
  | nil => cases hid
  | cons c id => exact startsLink_iff.2 ⟨l, c, id ++ r, rfl, (Bool.and_eq_true_iff.1 hid).1⟩

/-- The label goes on with a link where it can be cut behind the closing delimiter. -/
theorem goesOnWithLink_iff {k t : Text} :
    goesOnWithLink k t ↔ ∃ u v, t = u ++ (k ++ v) ∧ startsLink v := by
  induction t with
  | nil =>
    constructor
    · rintro ⟨⟩
    · rintro ⟨u, v, h, hv⟩
      obtain ⟨-, -, rfl⟩ : u = [] ∧ k = [] ∧ v = [] := by simpa using h
      cases hv
  | cons c s ih =>
    rw [goesOnWithLink, Bool.or_eq_true, ih, Option.any_eq_true]
    constructor
    · rintro (⟨v, hv, hs⟩ | ⟨u, v, rfl, hs⟩)
      · have hcut := after?_eq_some_iff.1 hv
        exact ⟨[], v, hcut, hs⟩
      · exact ⟨c :: u, v, rfl, hs⟩
    · rintro ⟨u, v, h, hs⟩
      cases u with
      | nil => exact .inl ⟨v, after?_eq_some_iff.2 h, hs⟩
      | cons d u => exact .inr ⟨u, v, (List.cons.inj h).2, hs⟩

theorem goesOnWithLink_append_closing {c : Char} {s : Text} (hc : c ∉ s) (r : Text) :
    goesOnWithLink [c] (s ++ c :: r) = (startsLink r || goesOnWithLink [c] r) := by
  induction s with
  | nil => simp [goesOnWithLink, after?]
  | cons d s ih =>
    rw [List.mem_cons, not_or] at hc
    rw [List.cons_append, goesOnWithLink, ih hc.2]
    simp [after?, Ne.symm hc.1]

theorem goesOnWithLink_eq_false {k t : Text} {c : Char} (hk : c ∈ k) (ht : c ∉ t) :
    goesOnWithLink k t = false := by
  rw [Bool.eq_false_iff]
  intro h
  obtain ⟨u, v, rfl, -⟩ := goesOnWithLink_iff.1 h
  exact ht (by simp [hk])

end FlowchartView

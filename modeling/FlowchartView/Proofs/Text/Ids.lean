import FlowchartView.Proofs.Text.Blank
import FlowchartView.Text.Word

namespace FlowchartView.Text

theorem isIdChar_of_isAsciiLetter {c : Char} (h : isAsciiLetter c) : isIdChar c := by
  have hascii : isAscii c := by
    have hcases : (decide ('A'.val ≤ c.val ∧ c.val ≤ 'Z'.val) ||
        (decide ('a'.val ≤ c.val) && decide (c.val ≤ 'z'.val))) = true := h
    simp only [Bool.or_eq_true, Bool.and_eq_true, decide_eq_true_eq, UInt32.le_iff_toNat_le]
      at hcases
    have hn : c.toNat = c.val.toNat := rfl
    have hZ : 'Z'.val.toNat = 90 := rfl
    have hz : 'z'.val.toNat = 122 := rfl
    rw [isAscii, decide_eq_true_eq]
    omega
  simp [isIdChar, isWordChar, isLetter, hascii, h]

theorem isIdChar_of_mem_id {id : Id} (h : isId id) : ∀ c ∈ id, isIdChar c := by
  cases id with
  | nil => simp [isId] at h
  | cons c s =>
    simp only [isId, Bool.and_eq_true, List.all_eq_true] at h
    exact List.forall_mem_cons.2 ⟨isIdChar_of_isAsciiLetter h.1, h.2⟩

theorem ne_nil_of_isId {id : Id} (h : isId id) : id ≠ [] := by
  rintro rfl
  cases h

theorem not_isBlank_of_isIdChar {c : Char} (h : isIdChar c) : isBlank c = false := by
  cases hc : isBlank c with
  | false => rfl
  | true =>
    rw [isIdChar_of_isBlank hc] at h
    cases h

theorem isWord_of_isId {id : Id} (h : isId id) : IsWord id :=
  fun c hc ↦ not_isBlank_of_isIdChar (isIdChar_of_mem_id h c hc)

theorem trimStart_append_id {id : Id} (h : isId id) (s : Text) : trimStart (id ++ s) = id ++ s := by
  refine trimStart_eq_self fun c hc ↦ ?_
  rw [List.head?_append, List.head?_eq_some_head (ne_nil_of_isId h), Option.some_or] at hc
  exact isWord_of_isId h c (Option.some.inj hc ▸ List.head_mem _)

theorem percent_not_mem_id {id : Id} (h : isId id) : '%' ∉ id := by
  intro hp
  have hc := isIdChar_of_mem_id h _ hp
  revert hc
  decide

theorem takeWhile_append_of_head {p : Char → Bool} {s t : Text} (hs : ∀ c ∈ s, p c)
    (ht : ∀ c ∈ t.head?, p c = false) : (s ++ t).takeWhile p = s := by
  have htake : t.takeWhile p = [] := by
    cases t with
    | nil => rfl
    | cons c t => simp [ht c rfl]
  rw [List.takeWhile_append_of_pos hs, htake, List.append_nil]

theorem dropWhile_append_of_head {p : Char → Bool} {s t : Text} (hs : ∀ c ∈ s, p c)
    (ht : ∀ c ∈ t.head?, p c = false) : (s ++ t).dropWhile p = t := by
  have hdrop : t.dropWhile p = t := by
    cases t with
    | nil => rfl
    | cons c t => simp [ht c rfl]
  rw [List.dropWhile_append_of_pos hs, hdrop]

theorem takeId?_append {id rest : Text} (hid : isId id)
    (hrest : ∀ c ∈ rest.head?, isIdChar c = false) : takeId? (id ++ rest) = some (id, rest) := by
  cases id with
  | nil => simp [isId] at hid
  | cons c s =>
    simp only [isId, Bool.and_eq_true, List.all_eq_true] at hid
    rw [List.cons_append, takeId?, if_pos hid.1, takeWhile_append_of_head hid.2 hrest,
      dropWhile_append_of_head hid.2 hrest]

end FlowchartView.Text

import FlowchartView.Proofs.Text.Blank
import FlowchartView.Text.Line

namespace FlowchartView

open Text

namespace Text

def IsOneLine (s : Text) : Prop := ∀ c ∈ s, isLineBreak c = false

instance (s : Text) : Decidable (IsOneLine s) :=
  decidable_of_iff (s.all (!isLineBreak ·)) (by simp [IsOneLine])

theorem isOneLine_append {s t : Text} : IsOneLine (s ++ t) ↔ IsOneLine s ∧ IsOneLine t :=
  List.forall_mem_append

theorem IsOneLine.of_isInfix {s t : Text} (h : IsOneLine t) (hs : s <:+: t) : IsOneLine s :=
  fun c hc ↦ h c (hs.mem hc)

theorem IsWord.isOneLine {s : Text} (h : IsWord s) : IsOneLine s := by
  intro c hc
  cases hb : isLineBreak c with
  | false => rfl
  | true =>
    have hblank := isBlank_of_isLineBreak hb
    rw [h c hc] at hblank
    cases hblank

theorem splitLines_cons {c : Char} {s : Text} (h : c ≠ '\r') : splitLines (c :: s) =
    if isLineBreak c then [] :: splitLines s else consFirst c (splitLines s) := by
  rw [splitLines]
  rintro u rfl
  exact absurd rfl h

theorem splitLines_append_lineFeed {s : Text} (hs : IsOneLine s) (t : Text) :
    splitLines (s ++ '\n' :: t) = s :: splitLines t := by
  induction s with
  | nil => rw [List.nil_append, splitLines_cons (by decide), if_pos (by decide)]
  | cons c s ih =>
    have hc : isLineBreak c = false := hs c List.mem_cons_self
    have hreturn : c ≠ '\r' := by
      rintro rfl
      cases hc
    have hrest := ih fun d hd ↦ hs d (List.mem_cons_of_mem c hd)
    rw [List.cons_append, splitLines_cons hreturn, if_neg (by simp [hc]), hrest, consFirst]

theorem joinLines_cons (s : Text) (lines : List Text) :
    joinLines (s :: lines) = s ++ '\n' :: joinLines lines := by
  simp [joinLines]

theorem splitLines_joinLines {lines : List Text} (h : ∀ s ∈ lines, IsOneLine s) :
    splitLines (joinLines lines) = lines := by
  induction lines with
  | nil => rfl
  | cons s lines ih =>
    have hs : IsOneLine s := h s List.mem_cons_self
    have hrest := ih fun t ht ↦ h t (List.mem_cons_of_mem s ht)
    rw [joinLines_cons, splitLines_append_lineFeed hs, hrest]

theorem splitLines_return (s : Text) : splitLines ('\r' :: s) =
    if s.head? = some '\n' then splitLines s else [] :: splitLines s := by
  rcases s with _ | ⟨c, s⟩
  · rfl
  · by_cases hc : c = '\n'
    · subst hc
      rw [splitLines, List.head?_cons, if_pos rfl, splitLines_cons (by decide), if_pos (by decide)]
    · rw [if_neg (by simpa using hc), splitLines, if_pos (by decide)]
      rintro u - ⟨rfl, -⟩
      exact hc rfl

/-- Whatever stands in front of a line feed, what follows it has its lines to itself. -/
theorem exists_splitLines_append_lineFeed (s t : Text) :
    ∃ first more, splitLines (s ++ '\n' :: t) = first :: (more ++ splitLines t) := by
  induction s with
  | nil => exact ⟨[], [], by rw [List.nil_append, splitLines_cons (by decide)]; rfl⟩
  | cons c s ih =>
    obtain ⟨first, more, hrest⟩ := ih
    rw [List.cons_append]
    by_cases hreturn : c = '\r'
    · subst hreturn
      rw [splitLines_return, hrest]
      split
      · exact ⟨first, more, rfl⟩
      · exact ⟨[], first :: more, rfl⟩
    · rw [splitLines_cons hreturn, hrest]
      split
      · exact ⟨[], first :: more, rfl⟩
      · exact ⟨c :: first, more, rfl⟩

theorem mem_splitLines_joinLines {lines : List Text} {line : Text} (h : line ∈ lines)
    (hone : IsOneLine line) : line ∈ splitLines (joinLines lines) := by
  induction lines with
  | nil => cases h
  | cons s lines ih =>
    rw [joinLines_cons]
    rcases List.mem_cons.1 h with rfl | h
    · rw [splitLines_append_lineFeed hone]
      exact List.mem_cons_self
    · obtain ⟨first, more, hsplit⟩ := exists_splitLines_append_lineFeed s (joinLines lines)
      rw [hsplit]
      exact List.mem_cons_of_mem _ (List.mem_append_right _ (ih h))

/-- However the lines of a text end, they are the same when line feeds end them. -/
theorem splitLines_toLineFeeds (t : Text) : splitLines (toLineFeeds t) = splitLines t := by
  fun_induction toLineFeeds t with
  | case1 => rfl
  | case2 s ih => rw [splitLines_cons (by decide), if_pos (by decide), splitLines, ih]
  | case3 c s hpair ih =>
    by_cases hc : c = '\r'
    -- No line feed follows this one, so that it is a break of its own on both sides.
    · subst hc
      rw [if_pos rfl, splitLines_cons (by decide), if_pos (by decide), splitLines,
        if_pos (by decide), ih]
      exact hpair
    · rw [if_neg hc, splitLines_cons hc, splitLines_cons hc, ih]

/-- Only the second of these carriage returns has a line feed behind it. -/
example : splitLines (toLineFeeds "a\r\r\nb\r".toList) = [['a'], [], ['b']] := by decide

end Text

namespace Line

theorem map_text_numberFrom (n : Nat) (texts : List Text) :
    (numberFrom n texts).map Line.text = texts := by
  induction texts generalizing n with
  | nil => rfl
  | cons s texts ih => rw [numberFrom, List.map_cons, ih]

theorem numberFrom_append (n : Nat) (texts more : List Text) :
    numberFrom n (texts ++ more) = numberFrom n texts ++ numberFrom (n + texts.length) more := by
  induction texts generalizing n with
  | nil => rfl
  | cons s texts ih =>
    rw [List.cons_append, numberFrom, ih, numberFrom, List.length_cons, List.cons_append,
      Nat.add_right_comm, Nat.add_assoc]

theorem getElem?_numberFrom (n i : Nat) (texts : List Text) :
    (numberFrom n texts)[i]? = texts[i]?.map (⟨n + i, ·⟩) := by
  induction texts generalizing n i with
  | nil => rfl
  | cons s texts ih =>
    cases i with
    | zero => rfl
    | succ i =>
      rw [numberFrom, List.getElem?_cons_succ, List.getElem?_cons_succ, ih, Nat.add_right_comm]
      rfl

theorem take_numberFrom (n k : Nat) (texts : List Text) :
    (numberFrom n texts).take k = numberFrom n (texts.take k) := by
  induction texts generalizing n k with
  | nil => simp [numberFrom]
  | cons s texts ih =>
    cases k with
    | zero => rfl
    | succ k => rw [numberFrom, List.take_succ_cons, List.take_succ_cons, numberFrom, ih]

end Line

end FlowchartView

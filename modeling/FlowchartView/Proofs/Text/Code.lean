import FlowchartView.Proofs.Statement.Reading
import FlowchartView.Proofs.Text.Lines

namespace FlowchartView

open Text

namespace Text

theorem isBlank_percent : isBlank '%' = false := by decide

theorem infix_percents_of_append_cons {s t : Text} {c : Char} (hc : c ≠ '%')
    (h : ['%', '%'] <:+: s ++ c :: t) : ['%', '%'] <:+: s ∨ ['%', '%'] <:+: t := by
  induction s with
  | nil =>
    rcases List.infix_cons_iff.1 h with h | h
    · exact absurd (List.cons_prefix_cons.1 h).1.symm hc
    · exact .inr h
  | cons d s ih =>
    rcases List.infix_cons_iff.1 h with h | h
    · obtain ⟨hd, h⟩ := List.cons_prefix_cons.1 h
      cases s with
      | nil => exact absurd (List.cons_prefix_cons.1 h).1.symm hc
      | cons e s =>
        obtain ⟨he, -⟩ := List.cons_prefix_cons.1 h
        exact .inl ⟨[], s, by rw [← hd, ← he]; rfl⟩
    · exact (ih h).imp_left fun h ↦ List.infix_cons_iff.2 (.inr h)

theorem not_infix_percents {s : Text} (h : '%' ∉ s) : ¬['%', '%'] <:+: s :=
  fun hs ↦ h (hs.mem List.mem_cons_self)

theorem infix_percents_of_append_left {s t : Text} (hs : '%' ∉ s)
    (h : ['%', '%'] <:+: s ++ t) : ['%', '%'] <:+: t := by
  rcases List.eq_nil_or_concat s with rfl | ⟨s, c, rfl⟩
  · exact h
  · simp only [List.concat_eq_append, List.mem_append, List.mem_singleton, not_or] at hs
    rw [List.concat_eq_append, List.append_assoc] at h
    have hor := infix_percents_of_append_cons (Ne.symm hs.2) h
    exact hor.resolve_left (not_infix_percents hs.1)

theorem infix_percents_of_append_right {s t : Text} (ht : '%' ∉ t)
    (h : ['%', '%'] <:+: s ++ t) : ['%', '%'] <:+: s := by
  cases t with
  | nil => rwa [List.append_nil] at h
  | cons c t =>
    rw [List.mem_cons, not_or] at ht
    have hor := infix_percents_of_append_cons (Ne.symm ht.1) h
    exact hor.resolve_right (not_infix_percents ht.2)

theorem append_of_skipBlanks? {s t : Text} (h : skipBlanks? s = some t) :
    ∃ w, w ≠ [] ∧ (∀ c ∈ w, isBlank c) ∧ s = w ++ t := by
  cases s with
  | nil => cases h
  | cons b s =>
    obtain ⟨hb, hs⟩ := Option.ite_none_right_eq_some.1 h
    refine ⟨b :: s.takeWhile isBlank, by simp, ?_, ?_⟩
    · exact List.forall_mem_cons.2 ⟨hb, List.all_eq_true.1 List.all_takeWhile⟩
    · rw [← Option.some.inj hs, trimStart, List.cons_append, List.takeWhile_append_dropWhile]

theorem skipBlanks?_ne_nil {s t : Text} (h : skipBlanks? s = some t)
    (hs : ∀ c ∈ s.getLast?, isBlank c = false) : t ≠ [] := by
  rintro rfl
  obtain ⟨w, hne, hw, rfl⟩ := append_of_skipBlanks? h
  rw [List.append_nil] at hs
  have hlast := hs _ (List.getLast?_eq_some_getLast hne)
  rw [hw _ (List.getLast_mem hne)] at hlast
  cases hlast

end Text

theorem beforeComment_eq_self {s : Text} (h : ¬['%', '%'] <:+: s) : beforeComment s = s := by
  fun_induction beforeComment s with
  | case1 => rfl
  | case2 s => exact absurd ⟨[], s, rfl⟩ h
  | case3 c s _ ih => rw [ih fun hs ↦ h (List.infix_cons_iff.2 (.inr hs))]

theorem beforeComment_isPrefix (s : Text) : beforeComment s <+: s := by
  fun_induction beforeComment s with
  | case1 => exact List.nil_prefix
  | case2 s => exact List.nil_prefix
  | case3 c s _ ih => exact List.cons_prefix_cons.2 ⟨rfl, ih⟩

theorem not_infix_beforeComment (s : Text) : ¬['%', '%'] <:+: beforeComment s := by
  fun_induction beforeComment s with
  | case1 => simp
  | case2 s => simp
  | case3 c s hne ih =>
    intro h
    rcases List.infix_cons_iff.1 h with h | h
    · obtain ⟨hc, h⟩ := List.cons_prefix_cons.1 h
      obtain ⟨u, hu⟩ := h.trans (beforeComment_isPrefix s)
      exact hne u hc.symm hu.symm
    · exact ih h

theorem beforeComment_append {w : Text} (hw : '%' ∉ w) (s : Text) :
    beforeComment (w ++ s) = w ++ beforeComment s := by
  induction w with
  | nil => rfl
  | cons c w ih =>
    rw [List.mem_cons, not_or] at hw
    rw [List.cons_append, beforeComment, ih hw.2, List.cons_append]
    rintro u rfl
    exact absurd rfl hw.1

/-- What a line may have left: one line without comment, and no blank at either end. -/
structure IsCode (code : Text) : Prop where
  isTrimmed : IsTrimmed code
  uncommented : ¬['%', '%'] <:+: code
  isOneLine : IsOneLine code

theorem IsCode.codeOf_eq {code : Text} (h : IsCode code) : codeOf code = code := by
  rw [codeOf, beforeComment_eq_self h.uncommented, trim_eq_self h.isTrimmed]

theorem isCode_codeOf {line : Text} (h : IsOneLine line) : IsCode (codeOf line) where
  isTrimmed := isTrimmed_codeOf line
  uncommented hs := not_infix_beforeComment line (hs.trans (trim_isInfix _))
  isOneLine := h.of_isInfix ((trim_isInfix _).trans (beforeComment_isPrefix line).isInfix)

theorem percent_not_mem_blanks {w : Text} (hw : ∀ c ∈ w, isBlank c) : '%' ∉ w := by
  intro h
  have hblank := hw _ h
  rw [isBlank_percent] at hblank
  cases hblank

theorem codeOf_append {w : Text} (hw : ∀ c ∈ w, isBlank c) (s : Text) :
    codeOf (w ++ s) = codeOf s := by
  rw [codeOf, beforeComment_append (percent_not_mem_blanks hw), trim, trimStart_append hw, ← trim,
    ← codeOf]

section

variable {s t : Text} (ht : ∀ c ∈ beforeComment t, isBlank c)
  (hseam : s.getLast? = some '%' → t.head? ≠ some '%')
include ht hseam

theorem exists_beforeComment_append :
    ∃ w, (∀ c ∈ w, isBlank c) ∧ beforeComment (s ++ t) = beforeComment s ++ w := by
  fun_induction beforeComment s with
  | case1 => exact ⟨_, ht, rfl⟩
  | case2 s => exact ⟨[], by simp, rfl⟩
  | case3 c s hne ih =>
    -- A second percent sign would stand in `s` or, across the seam, in `t`.
    have hrest : ∀ u, c = '%' → s ++ t = '%' :: u → False := by
      intro u hc hu
      cases s with
      | nil => exact hseam (congrArg some hc) (by rw [← List.nil_append t, hu, List.head?_cons])
      | cons d s =>
        obtain ⟨rfl, -⟩ := List.cons.inj hu
        exact hne s hc rfl
    have hlast : s.getLast? = some '%' → (c :: s).getLast? = some '%' := by
      intro hs
      rw [List.getLast?_cons, hs, Option.getD_some]
    obtain ⟨w, hw, hs⟩ := ih fun h ↦ hseam (hlast h)
    refine ⟨w, hw, ?_⟩
    rw [List.cons_append, beforeComment, hs, List.cons_append]
    exact hrest

/-- Blanks behind a code, up to a comment, do not count, unless a comment begins across the
seam. -/
theorem codeOf_append_of_blank : codeOf (s ++ t) = codeOf s := by
  obtain ⟨w, hw, hs⟩ := exists_beforeComment_append ht hseam
  rw [codeOf, hs, trim_append_blanks hw, ← codeOf]

end

def holdsCode (line : Text) : Bool :=
  !(trim line).isEmpty && !(['%', '%'].isPrefixOf (trim line))

theorem codeOf_trimStart (line : Text) : codeOf (trimStart line) = codeOf line := by
  have hw : ∀ c ∈ line.takeWhile isBlank, isBlank c := List.all_eq_true.1 List.all_takeWhile
  have happend := codeOf_append hw (trimStart line)
  rw [trimStart, List.takeWhile_append_dropWhile] at happend
  exact happend.symm

theorem isEmpty_codeOf (line : Text) : (codeOf line).isEmpty = !holdsCode line := by
  have hhead := head?_trimStart line
  rw [holdsCode, ← codeOf_trimStart, ← trim_trimStart]
  generalize trimStart line = s at hhead
  cases s with
  | nil => rfl
  | cons c s =>
    have hc : isBlank c = false := hhead c rfl
    by_cases hcomment : ∃ u, c :: s = '%' :: '%' :: u
    · obtain ⟨u, hu⟩ := hcomment
      rw [hu, trim_cons isBlank_percent, trimEnd_cons isBlank_percent]
      rfl
    · have hbefore : beforeComment (c :: s) = c :: beforeComment s := by
        rw [beforeComment]
        rintro u rfl rfl
        exact hcomment ⟨u, rfl⟩
      have hprefix : ['%', '%'].isPrefixOf (c :: trimEnd s) = false := by
        rw [Bool.eq_false_iff]
        intro h
        have h' : ['%', '%'] <+: c :: s := (List.isPrefixOf_iff_prefix.1 h).trans
          (List.cons_prefix_cons.2 ⟨rfl, trimEnd_isPrefix s⟩)
        obtain ⟨u, hu⟩ := h'
        exact hcomment ⟨u, hu.symm⟩
      rw [codeOf, hbefore, trim_cons hc, trim_cons hc, hprefix]
      rfl

theorem Statement.ofLine_eq_blank_iff (t : Text) :
    Statement.ofLine t = .blank ↔ holdsCode t = false := by
  have hne : Statement.ofCode (codeOf t) ≠ .blank := by
    intro h
    have hread := Statement.readFrom_ofCode (codeOf t)
    rw [h] at hread
    cases hread
  rw [Statement.ofLine, isEmpty_codeOf]
  cases holdsCode t with
  | true => simpa using hne
  | false => simp

/-- A code with something in it that reads as the statement. -/
structure Says (code : Text) (s : Statement) : Prop where
  isCode : IsCode code
  ne_nil : code ≠ []
  ofCode_eq : Statement.ofCode code = s

theorem Says.ofLine_append {code : Text} {s : Statement} (h : Says code s) {w : Text}
    (hw : ∀ c ∈ w, isBlank c) : Statement.ofLine (w ++ code) = s := by
  rw [Statement.ofLine, codeOf_append hw, h.isCode.codeOf_eq]
  simp [h.ne_nil, h.ofCode_eq]

theorem says_codeOf {line : Text} (h : IsOneLine line) :
    Statement.ofLine line = .blank ∨ Says (codeOf line) (Statement.ofLine line) := by
  rw [Statement.ofLine]
  split
  · exact .inl rfl
  · next hne => exact .inr ⟨isCode_codeOf h, by simpa using hne, rfl⟩

end FlowchartView

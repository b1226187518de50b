import FlowchartView.Text.Blank

namespace FlowchartView.Text

def IsWord (s : Text) : Prop := ∀ c ∈ s, isBlank c = false

instance (s : Text) : Decidable (IsWord s) :=
  decidable_of_iff (s.all (!isBlank ·)) (by simp [IsWord])

theorem isTrimmed_append {s t : Text} (hs : s ≠ []) (ht : t ≠ [])
    (hsb : IsWord s) (htb : IsWord t) (m : Text) :
    IsTrimmed (s ++ (m ++ t)) := by
  constructor
  · intro c hc
    rw [List.head?_append, List.head?_eq_some_head hs, Option.some_or] at hc
    exact hsb c (Option.some.inj hc ▸ List.head_mem hs)
  · intro c hc
    rw [List.getLast?_append, List.getLast?_append, List.getLast?_eq_some_getLast ht,
      Option.some_or, Option.some_or] at hc
    exact htb c (Option.some.inj hc ▸ List.getLast_mem ht)

theorem IsTrimmed.getLast?_of_append {s t : Text} (h : IsTrimmed (s ++ t)) :
    ∀ c ∈ t.getLast?, isBlank c = false := by
  intro c hc
  refine h.2 c ?_
  rw [List.getLast?_append, Option.mem_def.1 hc, Option.some_or]
  rfl

theorem trimStart_append {w : Text} (hw : ∀ c ∈ w, isBlank c) (s : Text) :
    trimStart (w ++ s) = trimStart s := List.dropWhile_append_of_pos hw

theorem trim_append_blanks {w : Text} (hw : ∀ c ∈ w, isBlank c) (s : Text) :
    trim (s ++ w) = trim s := by
  have hend : ∀ t : Text, trimEnd (t ++ w) = trimEnd t := by
    intro t
    have hreverse : ∀ c ∈ w.reverse, isBlank c := fun c hc ↦ hw c (List.mem_reverse.1 hc)
    rw [trimEnd, List.reverse_append, List.dropWhile_append_of_pos hreverse, trimEnd]
  have hnone : trimStart w = [] := by
    rw [← List.append_nil w, trimStart_append hw]
    rfl
  rw [trim, trim, trimStart, trimStart, List.dropWhile_append]
  split
  · next hs =>
    rw [List.isEmpty_iff.1 hs, ← trimStart, hnone]
  · exact hend _

theorem trim_trimStart (s : Text) : trim (trimStart s) = trim s := by
  rw [trim, trimStart_eq_self (head?_trimStart s), trim]

theorem trimEnd_cons {c : Char} (hc : isBlank c = false) (s : Text) :
    trimEnd (c :: s) = c :: trimEnd s := by
  rw [trimEnd, trimEnd, List.reverse_cons, List.dropWhile_append]
  split
  · next hs => simp [List.isEmpty_iff.1 hs, hc]
  · rw [List.reverse_append]
    rfl

theorem trim_cons {c : Char} (hc : isBlank c = false) (s : Text) :
    trim (c :: s) = c :: trimEnd s := by
  have hstart : trimStart (c :: s) = c :: s := List.dropWhile_cons_of_neg (by simp [hc])
  rw [trim, hstart, trimEnd_cons hc]

theorem trimEnd_isPrefix (s : Text) : trimEnd s <+: s := by
  obtain ⟨w, hw, -⟩ := trimEnd_append_blanks s
  exact ⟨w, hw.symm⟩

theorem trim_isInfix (s : Text) : trim s <:+: s := by
  exact (trimEnd_isPrefix _).isInfix.trans (List.dropWhile_suffix isBlank).isInfix

end FlowchartView.Text

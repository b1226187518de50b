namespace FlowchartView

variable {α : Type} [DecidableEq α]

/-- The members in order of first occurrence. -/
def distinct : List α → List α
  | [] => []
  | a :: l => a :: (distinct l).filter (· ≠ a)

@[simp] theorem mem_distinct {a : α} {l : List α} : a ∈ distinct l ↔ a ∈ l := by
  induction l with
  | nil => simp [distinct]
  | cons b l ih => by_cases h : a = b <;> simp [distinct, ih, h]

theorem nodup_distinct (l : List α) : (distinct l).Nodup := by
  induction l with
  | nil => simp [distinct]
  | cons a l ih => exact List.nodup_cons.2 ⟨by simp, ih.sublist List.filter_sublist⟩

theorem distinct_sublist (l : List α) : (distinct l).Sublist l := by
  induction l with
  | nil => exact .slnil
  | cons a l ih => exact (List.filter_sublist.trans ih).cons_cons a

theorem distinct_eq_self {l : List α} (h : l.Nodup) : distinct l = l := by
  induction l with
  | nil => rfl
  | cons a l ih =>
    obtain ⟨ha, hl⟩ := List.nodup_cons.1 h
    rw [distinct, ih hl, List.filter_eq_self.2]
    intro b hb
    simpa using fun hab : b = a ↦ ha (hab ▸ hb)

theorem distinct_map {β : Type} [DecidableEq β] {f : α → β} {l : List α}
    (h : ∀ a ∈ l, ∀ b ∈ l, f a = f b → a = b) : distinct (l.map f) = (distinct l).map f := by
  induction l with
  | nil => rfl
  | cons a l ih =>
    have hl : ∀ b ∈ l, ∀ c ∈ l, f b = f c → b = c := fun b hb c hc ↦
      h b (List.mem_cons_of_mem a hb) c (List.mem_cons_of_mem a hc)
    rw [List.map_cons, distinct, distinct, List.map_cons, ih hl, List.filter_map]
    congr 2
    refine List.filter_congr fun b hb ↦ ?_
    have hab := h b (List.mem_cons_of_mem a (mem_distinct.1 hb)) a List.mem_cons_self
    exact decide_eq_decide.2 (not_congr ⟨hab, congrArg f⟩)

theorem filter_distinct (p : α → Bool) (l : List α) :
    (distinct l).filter p = distinct (l.filter p) := by
  induction l with
  | nil => rfl
  | cons a l ih =>
    rw [distinct, List.filter_cons, List.filter_filter, List.filter_cons]
    by_cases h : p a
    · simp only [h, if_true, distinct, ← ih, List.filter_filter]
      congr 2
      funext b
      exact Bool.and_comm _ _
    · simp only [h, if_false, ← ih, Bool.false_eq_true]
      refine List.filter_congr fun b _ ↦ ?_
      by_cases hb : b = a
      · simp [hb, h]
      · simp [hb]

theorem distinct_append (l m : List α) :
    distinct (l ++ m) = distinct l ++ (distinct m).filter (· ∉ l) := by
  induction l with
  | nil => exact (List.filter_eq_self.2 (by simp)).symm
  | cons a l ih =>
    simp only [List.cons_append, distinct, ih, List.filter_append, List.filter_filter]
    congr 2
    refine List.filter_congr fun b _ ↦ ?_
    by_cases hb : b = a <;> simp [hb]

theorem distinct_append_of_disjoint {l m : List α} (hl : l.Nodup) (h : ∀ b ∈ m, b ∉ l) :
    distinct (l ++ m) = l ++ distinct m := by
  rw [distinct_append, distinct_eq_self hl, List.filter_eq_self.2]
  exact fun b hb ↦ decide_eq_true (h b (mem_distinct.1 hb))

theorem distinct_distinct_append (l m : List α) :
    distinct (distinct l ++ m) = distinct (l ++ m) := by
  rw [distinct_append, distinct_eq_self (nodup_distinct l), distinct_append]
  simp only [mem_distinct]

theorem distinct_isPrefix_append (l m : List α) : distinct l <+: distinct (l ++ m) :=
  ⟨_, (distinct_append l m).symm⟩

theorem pairwise_idxOf_distinct (l : List α) :
    (distinct l).Pairwise fun b c ↦ l.idxOf b < l.idxOf c := by
  induction l with
  | nil => exact .nil
  | cons a l ih =>
    have hlater : ∀ b ∈ (distinct l).filter (· ≠ a), (a :: l).idxOf b = l.idxOf b + 1 := by
      intro b hb
      have hne : a ≠ b := by
        rintro rfl
        simp at hb
      rw [List.idxOf_cons, beq_false_of_ne hne, cond_false]
    rw [distinct, List.pairwise_cons]
    constructor
    · intro b hb
      rw [List.idxOf_cons_self, hlater b hb]
      exact Nat.succ_pos _
    · refine (ih.filter _).imp_of_mem fun hb hc h ↦ ?_
      rw [hlater _ hb, hlater _ hc]
      exact Nat.succ_lt_succ h

end FlowchartView

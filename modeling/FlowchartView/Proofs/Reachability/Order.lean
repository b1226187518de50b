import FlowchartView.Proofs.Reachability.Search
import Mathlib.Data.List.Basic
import Mathlib.Data.Nat.Find
import Mathlib.Order.Bounds.Defs

namespace FlowchartView

variable {α : Type}

inductive ReachesIn (arcs : List (α × α)) : ℕ → α → α → Prop
  | refl (a : α) : ReachesIn arcs 0 a a
  | step {n : ℕ} {a b c : α} : ReachesIn arcs n a b → (b, c) ∈ arcs → ReachesIn arcs (n + 1) a c

def IsDistance (arcs : List (α × α)) (a b : α) (n : ℕ) : Prop :=
  IsLeast {m | ReachesIn arcs m a b} n

section

variable {arcs : List (α × α)} {a b : α}

theorem ReachesIn.reaches {n : ℕ} (h : ReachesIn arcs n a b) : Reaches arcs a b := by
  induction h with
  | refl => exact .refl _
  | step _ hbc ih => exact ih.step hbc

theorem Reaches.exists_reachesIn (h : Reaches arcs a b) : ∃ n, ReachesIn arcs n a b := by
  induction h with
  | refl => exact ⟨0, .refl a⟩
  | step _ hbc ih =>
    obtain ⟨n, hn⟩ := ih
    exact ⟨n + 1, hn.step hbc⟩

theorem Reaches.exists_isDistance (h : Reaches arcs a b) : ∃ n, IsDistance arcs a b n := by
  classical
  have hpath := h.exists_reachesIn
  exact ⟨Nat.find hpath, Nat.find_spec hpath, fun _ hm ↦ Nat.find_min' hpath hm⟩

end

variable [DecidableEq α] {arcs : List (α × α)} {a b c : α}

/-- What a search comes to when those found are the start and the successors of those left. -/
theorem search_eq_distinct {all : List (α × α)} (left : List α) {found queue : List α}
    (harcs : ∀ b ∉ left, successors arcs b = successors all b)
    (hfound : found = distinct (a :: left.flatMap (successors all)))
    (hqueue : found = left ++ queue) :
    search arcs found queue =
      distinct (a :: (search arcs found queue).flatMap (successors all)) := by
  fun_induction search arcs found queue generalizing left with
  | case1 arcs found => rwa [← List.append_nil left, ← hqueue] at hfound
  | case2 arcs found b queue ih =>
    have hnodup : (left ++ b :: queue).Nodup := by
      rw [← hqueue, hfound]
      exact nodup_distinct _
    have hb : b ∉ left := fun h ↦
      (List.nodup_append.1 hnodup).2.2 b h b List.mem_cons_self rfl
    refine ih (left ++ [b]) ?_ ?_ ?_
    · intro c hc
      rw [List.mem_append, List.mem_singleton, not_or] at hc
      rw [successors_unspent, if_neg hc.2, harcs c hc.1]
    · have hmem : ∀ c, c ∈ found ↔ c ∈ a :: left.flatMap (successors all) := by
        intro c
        rw [hfound, mem_distinct]
      have hfresh : fresh arcs found b =
          (distinct (successors all b)).filter (· ∉ a :: left.flatMap (successors all)) := by
        simp only [fresh, harcs b hb, filter_distinct, hmem]
      rw [hfresh, List.flatMap_append, List.flatMap_singleton, ← List.cons_append,
        distinct_append, ← hfound]
    · rw [hqueue, List.append_assoc, List.append_assoc]
      rfl

theorem closure_eq_distinct (arcs : List (α × α)) (a : α) :
    closure arcs a = distinct (a :: (closure arcs a).flatMap (successors arcs)) :=
  search_eq_distinct [] (fun _ _ ↦ rfl) (by simp [distinct]) rfl

theorem closure_eq_cons (arcs : List (α × α)) (a : α) : closure arcs a =
    a :: (distinct ((closure arcs a).flatMap (successors arcs))).filter (· ≠ a) :=
  closure_eq_distinct arcs a

theorem nodup_closure (arcs : List (α × α)) (a : α) : (closure arcs a).Nodup := by
  rw [closure_eq_distinct]
  exact nodup_distinct _

theorem head?_closure (arcs : List (α × α)) (a : α) : (closure arcs a).head? = some a := by
  rw [closure_eq_cons, List.head?_cons]

theorem idxOf_closure_self (arcs : List (α × α)) (a : α) : (closure arcs a).idxOf a = 0 := by
  rw [closure_eq_cons, List.idxOf_cons_self]

/-- How `b` is found when the members of `order` are left in turn: the place of the first with an
arc to `b`, and the place of this arc among those that leave it. -/
def discovery? (arcs : List (α × α)) (order : List α) (b : α) : Option (ℕ × ℕ) :=
  (order.find? fun a ↦ decide ((a, b) ∈ arcs)).map fun a ↦
    (order.idxOf a, (successors arcs a).idxOf b)

/-- Both are found, and `b` at an earlier place or, at the same place, over an earlier arc. -/
def FoundBefore (arcs : List (α × α)) (order : List α) (b c : α) : Prop :=
  ∃ j ∈ discovery? arcs order b, ∃ k ∈ discovery? arcs order c, Prod.Lex (· < ·) (· < ·) j k

section

variable (order : List α)

theorem discovery?_cons_of_mem (h : (a, b) ∈ arcs) :
    discovery? arcs (a :: order) b = some (0, (successors arcs a).idxOf b) := by
  simp [discovery?, h]

theorem discovery?_cons_of_not_mem (h : (a, b) ∉ arcs) :
    discovery? arcs (a :: order) b =
      (discovery? arcs order b).map fun k ↦ (k.1 + 1, k.2) := by
  rw [discovery?, List.find?_cons_of_neg (by simpa using h), discovery?, Option.map_map]
  refine Option.map_congr fun c hc ↦ ?_
  have hne : a ≠ c := by
    rintro rfl
    simpa [h] using List.find?_some hc
  simp [List.idxOf_cons_ne _ hne]

theorem FoundBefore.cons (hb : (a, b) ∉ arcs) (hc : (a, c) ∉ arcs)
    (h : FoundBefore arcs order b c) : FoundBefore arcs (a :: order) b c := by
  obtain ⟨j, hj, k, hk, hlt⟩ := h
  rw [FoundBefore, discovery?_cons_of_not_mem order hb, discovery?_cons_of_not_mem order hc]
  refine ⟨_, Option.mem_map_of_mem _ hj, _, Option.mem_map_of_mem _ hk, ?_⟩
  rcases Prod.lex_def.1 hlt with hlt | ⟨heq, hlt⟩
  · exact .left _ _ (Nat.succ_lt_succ hlt)
  · exact heq ▸ .right _ hlt

end

theorem exists_of_discovery? {order : List α} {k : ℕ × ℕ} (h : k ∈ discovery? arcs order b) :
    ∃ a ∈ order, (a, b) ∈ arcs ∧ order.idxOf a = k.1 := by
  obtain ⟨a, ha, rfl⟩ := Option.map_eq_some_iff.1 h
  exact ⟨a, List.mem_of_find?_eq_some ha, by simpa using List.find?_some ha, rfl⟩

theorem exists_discovery? {order : List α} (ha : a ∈ order) (hab : (a, b) ∈ arcs) :
    ∃ k ∈ discovery? arcs order b, k.1 ≤ order.idxOf a := by
  induction order with
  | nil => cases ha
  | cons c order ih =>
    by_cases hcb : (c, b) ∈ arcs
    · exact ⟨_, discovery?_cons_of_mem order hcb, Nat.zero_le _⟩
    · have hca : c ≠ a := fun h ↦ hcb (h ▸ hab)
      obtain ⟨k, hk, hle⟩ := ih (List.mem_of_ne_of_mem hca.symm ha)
      rw [discovery?_cons_of_not_mem order hcb, List.idxOf_cons_ne _ hca]
      exact ⟨_, Option.mem_map_of_mem _ hk, Nat.succ_le_succ hle⟩

theorem pairwise_foundBefore (arcs : List (α × α)) (order : List α) :
    (distinct (order.flatMap (successors arcs))).Pairwise (FoundBefore arcs order) := by
  induction order with
  | nil => exact .nil
  | cons a order ih =>
    have hnot : ∀ b ∈ (distinct (order.flatMap (successors arcs))).filter (· ∉ successors arcs a),
        (a, b) ∉ arcs := by
      intro b hb
      have hb := List.of_mem_filter hb
      rwa [decide_eq_true_eq, mem_successors] at hb
    rw [List.flatMap_cons, distinct_append, List.pairwise_append]
    refine ⟨?_, ?_, ?_⟩
    · refine (pairwise_idxOf_distinct _).imp_of_mem fun {b c} hb hc h ↦ ?_
      rw [mem_distinct, mem_successors] at hb hc
      exact ⟨_, discovery?_cons_of_mem order hb, _, discovery?_cons_of_mem order hc, .right 0 h⟩
    · exact (ih.filter _).imp_of_mem fun hb hc h ↦ h.cons order (hnot _ hb) (hnot _ hc)
    · intro b hb c hc
      rw [mem_distinct, mem_successors] at hb
      obtain ⟨d, hd, hdc⟩ := List.mem_flatMap.1 (mem_distinct.1 (List.mem_of_mem_filter hc))
      obtain ⟨k, hk, -⟩ := exists_discovery? hd (mem_successors.1 hdc)
      refine ⟨_, discovery?_cons_of_mem order hb, (k.1 + 1, k.2), ?_, .left _ _ (Nat.succ_pos _)⟩
      rw [discovery?_cons_of_not_mem order (hnot c hc)]
      exact Option.mem_map_of_mem _ hk

structure IsBreadthFirst (arcs : List (α × α)) (a : α) (order : List α) : Prop where
  exists_discovery : ∀ b ∈ order, b ≠ a → ∃ k, discovery? arcs order b = some k
  foundBefore : order.Pairwise fun b c ↦ b ≠ a → FoundBefore arcs order b c
  distance_le : order.Pairwise fun b c ↦
    ∃ m n, IsDistance arcs a b m ∧ IsDistance arcs a c n ∧ m ≤ n

theorem exists_discovery?_closure (hb : b ∈ closure arcs a) (hne : b ≠ a) :
    ∃ k, discovery? arcs (closure arcs a) b = some k := by
  rw [closure_eq_cons] at hb
  have hrest := List.mem_of_mem_filter (List.mem_of_ne_of_mem hne hb)
  obtain ⟨c, hc, hcb⟩ := List.mem_flatMap.1 (mem_distinct.1 hrest)
  obtain ⟨k, hk, -⟩ := exists_discovery? hc (mem_successors.1 hcb)
  exact ⟨k, hk⟩

theorem pairwise_closure {R : α → α → Prop}
    (h : (distinct ((closure arcs a).flatMap (successors arcs))).Pairwise R) :
    (closure arcs a).Pairwise fun b c ↦ b ≠ a → R b c := by
  rw [closure_eq_cons, List.pairwise_cons]
  refine ⟨fun _ _ hne ↦ (hne rfl).elim, ?_⟩
  exact List.Pairwise.imp (fun {b c} hR (_ : b ≠ a) ↦ hR) (h.filter _)

theorem foundBefore_closure (arcs : List (α × α)) (a : α) :
    (closure arcs a).Pairwise fun b c ↦ b ≠ a → FoundBefore arcs (closure arcs a) b c :=
  pairwise_closure (pairwise_foundBefore arcs (closure arcs a))

theorem rel_of_idxOf_lt {R : α → α → Prop} {l : List α} (h : l.Pairwise R) (hc : c ∈ l)
    (hlt : l.idxOf b < l.idxOf c) : R b c := by
  have hclt := List.idxOf_lt_length_of_mem hc
  have hblt := Nat.lt_trans hlt hclt
  have hrel := List.pairwise_iff_getElem.1 h _ _ hblt hclt hlt
  rwa [List.getElem_idxOf, List.getElem_idxOf] at hrel

theorem exists_predecessor_idxOf_le (hb : b ∈ closure arcs a) (hne : b ≠ a)
    (hle : (closure arcs a).idxOf b ≤ (closure arcs a).idxOf c) {d : α} (hd : d ∈ closure arcs a)
    (hdc : (d, c) ∈ arcs) :
    ∃ e ∈ closure arcs a, (e, b) ∈ arcs ∧ (closure arcs a).idxOf e ≤ (closure arcs a).idxOf d := by
  by_cases hbc : b = c
  · exact ⟨d, hd, hbc ▸ hdc, Nat.le_refl _⟩
  have hc : c ∈ closure arcs a := mem_closure.2 ((mem_closure.1 hd).step hdc)
  have hlt : (closure arcs a).idxOf b < (closure arcs a).idxOf c :=
    Nat.lt_of_le_of_ne hle fun heq ↦ hbc ((List.idxOf_inj hb).1 heq)
  obtain ⟨j, hj, k, hk, hjk⟩ := rel_of_idxOf_lt (foundBefore_closure arcs a) hc hlt hne
  obtain ⟨e, he, heb, hej⟩ := exists_of_discovery? hj
  obtain ⟨i, hi, hid⟩ := exists_discovery? hd hdc
  obtain rfl : k = i := Option.mem_unique hk hi
  have hjle : j.1 ≤ k.1 := by
    rcases Prod.lex_def.1 hjk with hlt | ⟨heq, -⟩
    · exact Nat.le_of_lt hlt
    · exact Nat.le_of_eq heq
  exact ⟨e, he, heb, by omega⟩

/-- By induction on the path: what stands before its end is no farther from the start. -/
theorem exists_reachesIn_le {n : ℕ} (hb : b ∈ closure arcs a) (hn : ReachesIn arcs n a c)
    (hle : (closure arcs a).idxOf b ≤ (closure arcs a).idxOf c) :
    ∃ m ≤ n, ReachesIn arcs m a b := by
  induction n generalizing b c with
  | zero =>
    cases hn
    rw [idxOf_closure_self, Nat.le_zero, ← idxOf_closure_self arcs a] at hle
    exact ⟨0, Nat.le_refl 0, (List.idxOf_inj hb).1 hle ▸ .refl b⟩
  | succ n ih =>
    by_cases hba : b = a
    · exact ⟨0, Nat.zero_le _, hba ▸ .refl b⟩
    obtain ⟨d, hd, hdc⟩ : ∃ d, ReachesIn arcs n a d ∧ (d, c) ∈ arcs := by
      cases hn with
      | step hd hdc => exact ⟨_, hd, hdc⟩
    obtain ⟨e, he, heb, hed⟩ :=
      exists_predecessor_idxOf_le hb hba hle (mem_closure.2 hd.reaches) hdc
    obtain ⟨m, hm, hpath⟩ := ih he hd hed
    exact ⟨m + 1, Nat.succ_le_succ hm, hpath.step heb⟩

theorem distance_closure (arcs : List (α × α)) (a : α) : (closure arcs a).Pairwise fun b c ↦
    ∃ m n, IsDistance arcs a b m ∧ IsDistance arcs a c n ∧ m ≤ n := by
  have hnodup := nodup_closure arcs a
  refine List.pairwise_iff_getElem.2 fun i j hi hj hij ↦ ?_
  obtain ⟨m, hm⟩ := (mem_closure.1 (List.getElem_mem hi)).exists_isDistance
  obtain ⟨n, hn⟩ := (mem_closure.1 (List.getElem_mem hj)).exists_isDistance
  refine ⟨m, n, hm, hn, ?_⟩
  have hle : (closure arcs a).idxOf (closure arcs a)[i] ≤
      (closure arcs a).idxOf (closure arcs a)[j] := by
    rw [hnodup.idxOf_getElem, hnodup.idxOf_getElem]
    exact Nat.le_of_lt hij
  obtain ⟨k, hk, hpath⟩ := exists_reachesIn_le (List.getElem_mem hi) hn.1 hle
  exact Nat.le_trans (hm.2 hpath) hk

theorem isBreadthFirst_closure (arcs : List (α × α)) (a : α) :
    IsBreadthFirst arcs a (closure arcs a) where
  exists_discovery _ hb hne := exists_discovery?_closure hb hne
  foundBefore := foundBefore_closure arcs a
  distance_le := distance_closure arcs a

end FlowchartView

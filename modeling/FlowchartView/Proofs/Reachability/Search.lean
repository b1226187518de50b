import FlowchartView.Reachability.Search

namespace FlowchartView

variable {α : Type} {arcs : List (α × α)} {a b c : α}

theorem Reaches.head (hab : (a, b) ∈ arcs) (h : Reaches arcs b c) : Reaches arcs a c := by
  induction h with
  | refl => exact .step (.refl a) hab
  | step _ hcd ih => exact .step ih hcd

theorem Reaches.mono {more : List (α × α)} (hsub : arcs ⊆ more) (h : Reaches arcs a b) :
    Reaches more a b := by
  induction h with
  | refl => exact .refl a
  | step _ hbc ih => exact .step ih (hsub hbc)

theorem Reaches.swap (h : Reaches arcs a b) : Reaches (arcs.map Prod.swap) b a := by
  induction h with
  | refl => exact .refl a
  | step _ hbc ih => exact .head (List.mem_map_of_mem hbc) ih

theorem reaches_map_swap : Reaches (arcs.map Prod.swap) a b ↔ Reaches arcs b a := by
  constructor
  · intro h
    have hswap := h.swap
    rwa [List.map_map, Prod.swap_swap_eq, List.map_id] at hswap
  · exact Reaches.swap

variable [DecidableEq α]

theorem mem_successors : b ∈ successors arcs a ↔ (a, b) ∈ arcs := by
  rw [successors, List.mem_map]
  refine ⟨?_, fun h ↦ ⟨(a, b), by simpa using h, rfl⟩⟩
  rintro ⟨⟨x, y⟩, hxy, rfl⟩
  obtain ⟨hmem, hx⟩ := List.mem_filter.1 hxy
  exact of_decide_eq_true hx ▸ hmem

theorem mem_fresh {found : List α} :
    b ∈ fresh arcs found a ↔ (a, b) ∈ arcs ∧ b ∉ found := by
  rw [fresh, mem_distinct, List.mem_filter, decide_eq_true_eq, mem_successors]

theorem mem_unspent {e : α × α} : e ∈ unspent arcs a ↔ e ∈ arcs ∧ e.1 ≠ a := by
  rw [unspent, List.mem_filter, decide_eq_true_eq]

theorem successors_unspent (arcs : List (α × α)) (a b : α) :
    successors (unspent arcs a) b = if b = a then [] else successors arcs b := by
  rw [successors, unspent, List.filter_filter]
  split
  · next h =>
    subst h
    simp
  · next h =>
    congr 1
    refine List.filter_congr fun e _ ↦ ?_
    by_cases he : e.1 = b <;> simp [he, h]

theorem successors_distinct (arcs : List (α × α)) (a : α) :
    successors (distinct arcs) a = distinct (successors arcs a) := by
  rw [successors, filter_distinct, successors, distinct_map]
  intro e he f hf hsnd
  have hfst : ∀ {g : α × α}, g ∈ arcs.filter (·.1 = a) → g.1 = a := fun hg ↦ by
    simpa using (List.mem_filter.1 hg).2
  exact Prod.ext ((hfst he).trans (hfst hf).symm) hsnd

theorem successors_flatMap {β : Type} (f : β → List (α × α)) (l : List β) (a : α) :
    successors (l.flatMap f) a = l.flatMap fun b ↦ successors (f b) a := by
  simp only [successors, List.filter_flatMap, List.map_flatMap]

theorem subset_search (arcs : List (α × α)) (found queue : List α) :
    found ⊆ search arcs found queue := by
  fun_induction search arcs found queue with
  | case1 => exact fun _ h ↦ h
  | case2 arcs found a queue ih => exact fun _ h ↦ ih (List.mem_append_left _ h)

theorem reaches_of_mem_search {found queue : List α} (h : c ∈ search arcs found queue) :
    c ∈ found ∨ ∃ a ∈ queue, Reaches arcs a c := by
  fun_induction search arcs found queue with
  | case1 => exact .inl h
  | case2 arcs found a queue ih =>
    have hfresh : ∀ {b}, b ∈ fresh arcs found a → Reaches arcs a b := fun hb ↦
      .step (.refl a) (mem_fresh.1 hb).1
    rcases ih h with hc | ⟨b, hb, hbc⟩
    · exact (List.mem_append.1 hc).imp_right fun hc ↦ ⟨a, List.mem_cons_self, hfresh hc⟩
    · right
      have hbc : Reaches arcs b c := hbc.mono List.filter_sublist.subset
      rcases List.mem_append.1 hb with hb | hb
      · exact ⟨b, List.mem_cons_of_mem a hb, hbc⟩
      · have hab := (mem_fresh.1 hb).1
        exact ⟨a, List.mem_cons_self, hbc.head hab⟩

/-- No arc leads out of what was found, as long as the arcs that are left leave from the queue or
from what is not found yet. -/
theorem search_closed {found queue : List α}
    (hqueue : ∀ e ∈ arcs, e.1 ∈ found → e.1 ∈ queue) (hbc : (b, c) ∈ arcs)
    (hb : b ∈ search arcs found queue) : c ∈ search arcs found queue := by
  fun_induction search arcs found queue with
  | case1 => cases hqueue _ hbc hb
  | case2 arcs found a queue ih =>
    by_cases hba : b = a
    · refine subset_search _ _ _ (List.mem_append.2 ?_)
      rw [mem_fresh, ← hba]
      by_cases hc : c ∈ found
      · exact .inl hc
      · exact .inr ⟨hbc, hc⟩
    · refine ih ?_ (mem_unspent.2 ⟨hbc, hba⟩) hb
      intro e he hfound
      obtain ⟨he, hea⟩ := mem_unspent.1 he
      rcases List.mem_append.1 hfound with hfound | hfresh
      · have hmem := List.mem_of_ne_of_mem hea (hqueue e he hfound)
        exact List.mem_append_left _ hmem
      · exact List.mem_append_right _ hfresh

theorem mem_closure : b ∈ closure arcs a ↔ Reaches arcs a b := by
  constructor
  · intro h
    rcases reaches_of_mem_search h with hb | ⟨x, hx, hxb⟩
    · rw [List.mem_singleton.1 hb]
      exact .refl a
    · exact List.mem_singleton.1 hx ▸ hxb
  · intro h
    induction h with
    | refl => exact subset_search _ _ _ List.mem_cons_self
    | step _ hbc ih => exact search_closed (fun _ _ he ↦ he) hbc ih

/-- A search asks for the successors of what its queue reaches, and for no others. -/
theorem search_congr {arcs others : List (α × α)} {found queue : List α}
    (h : ∀ a ∈ queue, ∀ b, Reaches arcs a b → successors arcs b = successors others b) :
    search arcs found queue = search others found queue := by
  fun_induction search arcs found queue generalizing others with
  | case1 => rw [search]
  | case2 arcs found a queue ih =>
    have hfresh : fresh arcs found a = fresh others found a := by
      rw [fresh, fresh, h a List.mem_cons_self a (.refl a)]
    have hnext : ∀ c ∈ queue ++ fresh arcs found a, ∀ b, Reaches (unspent arcs a) c b →
        successors (unspent arcs a) b = successors (unspent others a) b := by
      intro c hc b hcb
      have hcb : Reaches arcs c b := hcb.mono List.filter_sublist.subset
      have hb : successors arcs b = successors others b := by
        rcases List.mem_append.1 hc with hc | hc
        · exact h c (List.mem_cons_of_mem a hc) b hcb
        · exact h a List.mem_cons_self b (hcb.head (mem_fresh.1 hc).1)
      rw [successors_unspent, successors_unspent, hb]
    rw [ih hnext, search, hfresh]

theorem closure_congr {arcs others : List (α × α)}
    (h : ∀ b, Reaches arcs a b → successors arcs b = successors others b) :
    closure arcs a = closure others a :=
  search_congr fun _ hc ↦ List.mem_singleton.1 hc ▸ h

theorem closure_eq_singleton (h : ∀ b, (a, b) ∉ arcs) : closure arcs a = [a] := by
  have hnone : successors arcs a = [] :=
    List.eq_nil_iff_forall_not_mem.2 fun b hb ↦ h b (mem_successors.1 hb)
  simp [closure, search, fresh, hnone, distinct]

end FlowchartView

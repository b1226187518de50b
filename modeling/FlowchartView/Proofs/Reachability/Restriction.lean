import FlowchartView.Proofs.Reachability.Edges

namespace FlowchartView

section

variable {α : Type} [DecidableEq α] {arcs : List (α × α)} {a : α}

theorem successors_filter {p : α × α → Bool} (h : ∀ c, (a, c) ∈ arcs → p (a, c)) :
    successors (arcs.filter p) a = successors arcs a := by
  rw [successors, successors, List.filter_filter]
  congr 1
  refine List.filter_congr fun e he ↦ ?_
  by_cases hea : e.1 = a
  · subst hea
    simp [h e.2 he]
  · simp [hea]

theorem closure_filter {p : α × α → Bool}
    (h : ∀ b c, Reaches arcs a b → (b, c) ∈ arcs → p (b, c)) :
    closure (arcs.filter p) a = closure arcs a :=
  (closure_congr fun b hb ↦ (successors_filter fun c hc ↦ h b c hb hc).symm).symm

def staysWithin (kept : List α) (e : α × α) : Bool := decide (e.1 ∈ kept ∧ e.2 ∈ kept)

theorem staysWithin_iff {kept : List α} {e : α × α} :
    staysWithin kept e ↔ e.1 ∈ kept ∧ e.2 ∈ kept := decide_eq_true_iff

theorem staysWithin_swap (kept : List α) (e : α × α) :
    staysWithin kept e.swap = staysWithin kept e := decide_eq_decide.2 and_comm

theorem closure_filter_staysWithin (arcs : List (α × α)) (a : α) :
    closure (arcs.filter (staysWithin (closure arcs a))) a = closure arcs a :=
  closure_filter fun _ _ hb hbc ↦
    staysWithin_iff.2 ⟨mem_closure.2 hb, mem_closure.2 (hb.step hbc)⟩

end

def edgesWithin (kept : List Id) (edges : List Edge) : List Edge :=
  edges.filter fun e ↦ staysWithin kept (e.left, e.right)

namespace Edge

theorem staysWithin_of_mem_arcs {kept : List Id} {e : Edge} {f : Id × Id} (hf : f ∈ e.arcs) :
    staysWithin kept f = staysWithin kept (e.left, e.right) := by
  rcases mem_arcs.1 hf with ⟨-, hleft, hright⟩ | ⟨-, hright, hleft⟩
  · exact congrArg (staysWithin kept) (Prod.ext hleft hright)
  · rw [← staysWithin_swap]
    exact congrArg (staysWithin kept) (Prod.ext hleft hright)

theorem filter_arcs (kept : List Id) (e : Edge) : e.arcs.filter (staysWithin kept) =
    if staysWithin kept (e.left, e.right) then e.arcs else [] := by
  rw [List.filter_congr fun _ hf ↦ staysWithin_of_mem_arcs hf]
  cases staysWithin kept (e.left, e.right)
  · exact List.filter_eq_nil_iff.2 fun _ _ ↦ Bool.false_ne_true
  · exact List.filter_eq_self.2 fun _ _ ↦ rfl

end Edge

namespace Reachability

theorem flatMap_arcs_edgesWithin (kept : List Id) (edges : List Edge) :
    (edgesWithin kept edges).flatMap Edge.arcs =
      (edges.flatMap Edge.arcs).filter (staysWithin kept) := by
  rw [List.filter_flatMap]
  simp only [Edge.filter_arcs]
  induction edges with
  | nil => rfl
  | cons e edges ih =>
    rw [edgesWithin] at ih
    rw [edgesWithin, List.filter_cons, List.flatMap_cons, ← ih]
    split <;> rfl

theorem arcs_ofEdges_edgesWithin (kept : List Id) (edges : List Edge) (ids others : List Id) :
    (ofEdges (edgesWithin kept edges) others).arcs =
      (ofEdges edges ids).arcs.filter (staysWithin kept) := by
  rw [ofEdges, ofEdges, flatMap_arcs_edgesWithin, filter_distinct]

theorem descendants_edgesWithin (edges : List Edge) (ids others : List Id) (a : Id) :
    (ofEdges (edgesWithin ((ofEdges edges ids).descendants a) edges) others).descendants a =
      (ofEdges edges ids).descendants a := by
  rw [descendants, arcs_ofEdges_edgesWithin _ edges ids]
  exact closure_filter_staysWithin _ a

theorem ancestors_edgesWithin (edges : List Edge) (ids others : List Id) (a : Id) :
    (ofEdges (edgesWithin ((ofEdges edges ids).ancestors a) edges) others).ancestors a =
      (ofEdges edges ids).ancestors a := by
  have hswap : ∀ kept : List Id, staysWithin kept ∘ Prod.swap = staysWithin kept := fun kept ↦
    funext (staysWithin_swap kept)
  rw [ancestors, arcs_ofEdges_edgesWithin _ edges ids, ← hswap, ← List.filter_map]
  exact closure_filter_staysWithin _ a

/-- The edges between the descendants of an id, or between its ancestors, give the same answer as
all edges do. The ids that an index is given beside its edges play no part. -/
theorem closures_edgesWithin (edges : List Edge) (ids others : List Id) (a : Id) :
    (ofEdges (edgesWithin ((ofEdges edges ids).descendants a) edges) others).descendants a =
        (ofEdges edges ids).descendants a ∧
      (ofEdges (edgesWithin ((ofEdges edges ids).ancestors a) edges) others).ancestors a =
        (ofEdges edges ids).ancestors a :=
  ⟨descendants_edgesWithin edges ids others a, ancestors_edgesWithin edges ids others a⟩

end Reachability

end FlowchartView

import FlowchartView.Proofs.Reachability.Edges
import FlowchartView.Proofs.Reachability.Order

namespace FlowchartView

/-- The list starts with `a` and holds once each the ids with `R`, and no others. -/
structure ListsFrom (a : Id) (R : Id → Prop) (l : List Id) : Prop where
  head?_eq : l.head? = some a
  nodup : l.Nodup
  mem_iff : ∀ b, b ∈ l ↔ R b

theorem listsFrom_closure {arcs : List (Id × Id)} {a : Id} {R : Id → Prop}
    (hR : ∀ b, b ∈ closure arcs a ↔ R b) : ListsFrom a R (closure arcs a) where
  head?_eq := head?_closure arcs a
  nodup := nodup_closure arcs a
  mem_iff := hR

namespace Reachability

variable {edges : List Edge} {ids : List Id} {a b : Id}

theorem mem_ids_of_mem_arcs (h : (a, b) ∈ (ofEdges edges ids).arcs) :
    a ∈ (ofEdges edges ids).ids ∧ b ∈ (ofEdges edges ids).ids := by
  obtain ⟨e, he, hab⟩ := List.mem_flatMap.1 (mem_distinct.1 h)
  have hends : ∀ c ∈ e.endpoints, c ∈ (ofEdges edges ids).ids := fun c hc ↦
    mem_distinct.2 (List.mem_append_right _ (List.mem_flatMap.2 ⟨e, he, hc⟩))
  have hleft := hends e.left (Edge.mem_endpoints.2 (.inl rfl))
  have hright := hends e.right (Edge.mem_endpoints.2 (.inr rfl))
  rcases Edge.mem_arcs.1 hab with ⟨-, rfl, rfl⟩ | ⟨-, rfl, rfl⟩
  · exact ⟨hleft, hright⟩
  · exact ⟨hright, hleft⟩

theorem descendants_of_not_mem (h : a ∉ (ofEdges edges ids).ids) :
    (ofEdges edges ids).descendants a = [a] :=
  closure_eq_singleton fun _ hab ↦ h (mem_ids_of_mem_arcs hab).1

theorem ancestors_of_not_mem (h : a ∉ (ofEdges edges ids).ids) :
    (ofEdges edges ids).ancestors a = [a] := by
  refine closure_eq_singleton fun b hab ↦ h ?_
  obtain ⟨⟨c, d⟩, hcd, heq⟩ := List.mem_map.1 hab
  cases heq
  exact (mem_ids_of_mem_arcs hcd).2

theorem listsFrom_ofEdges (edges : List Edge) (ids : List Id) (a : Id) :
    ListsFrom a (LeadsTo edges a ·) ((ofEdges edges ids).descendants a) ∧
    ListsFrom a (LeadsTo edges · a) ((ofEdges edges ids).ancestors a) ∧
    (a ∉ (ofEdges edges ids).ids →
      (ofEdges edges ids).descendants a = [a] ∧ (ofEdges edges ids).ancestors a = [a]) ∧
    ∀ b, b ∈ (ofEdges edges ids).descendants a ↔ a ∈ (ofEdges edges ids).ancestors b := by
  refine ⟨listsFrom_closure fun b ↦ mem_descendants, listsFrom_closure fun b ↦ mem_ancestors,
    fun h ↦ ⟨descendants_of_not_mem h, ancestors_of_not_mem h⟩, fun b ↦ ?_⟩
  rw [mem_descendants, mem_ancestors]

theorem listsFrom_ofEdges_unknown :
    let edges : List Edge := [⟨['A'], "-->".toList, ['B']⟩, ⟨['B'], "<--".toList, ['A']⟩]
    ['Z'] ∉ (ofEdges edges []).ids ∧
    (ofEdges edges []).descendants ['Z'] = [['Z']] ∧
    (ofEdges edges []).ancestors ['Z'] = [['Z']] := by
  intro edges
  have hmem : ['Z'] ∉ (ofEdges edges []).ids := by decide
  exact ⟨hmem, (listsFrom_ofEdges edges [] ['Z']).2.2.1 hmem⟩

/-- The answers of an index come breadth first along the arcs that its edges give, each arc in its
first place; ancestors along the same arcs taken backwards. -/
theorem isBreadthFirst_ofEdges (edges : List Edge) (ids : List Id) (a : Id) :
    IsBreadthFirst (distinct (edges.flatMap Edge.arcs)) a ((ofEdges edges ids).descendants a) ∧
    IsBreadthFirst ((distinct (edges.flatMap Edge.arcs)).map Prod.swap) a
      ((ofEdges edges ids).ancestors a) :=
  ⟨isBreadthFirst_closure _ a, isBreadthFirst_closure _ a⟩

end Reachability

end FlowchartView

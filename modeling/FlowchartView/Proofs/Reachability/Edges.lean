import FlowchartView.Proofs.Reachability.Search
import FlowchartView.Reachability.Basic

namespace FlowchartView

/-- Edges lead from one id to the other, if need be over further ids: with `>` in its operator an
edge leads from left to right, with `<` from right to left. -/
inductive LeadsTo (edges : List Edge) : Id → Id → Prop
  | refl (a : Id) : LeadsTo edges a a
  | right {a : Id} {e : Edge} :
      LeadsTo edges a e.left → e ∈ edges → '>' ∈ e.operator → LeadsTo edges a e.right
  | left {a : Id} {e : Edge} :
      LeadsTo edges a e.right → e ∈ edges → '<' ∈ e.operator → LeadsTo edges a e.left

namespace Edge

variable {e : Edge} {a b : Id}

theorem pointsRight_iff : e.pointsRight ↔ '>' ∈ e.operator := List.contains_iff_mem

theorem pointsLeft_iff : e.pointsLeft ↔ '<' ∈ e.operator := List.contains_iff_mem

theorem mem_arcs : (a, b) ∈ e.arcs ↔
    ('>' ∈ e.operator ∧ a = e.left ∧ b = e.right) ∨
      ('<' ∈ e.operator ∧ a = e.right ∧ b = e.left) := by
  rw [arcs, List.mem_append, ← pointsRight_iff, ← pointsLeft_iff]
  cases e.pointsRight <;> cases e.pointsLeft <;> simp

theorem arc_right {edges : List Edge} (he : e ∈ edges) (hop : '>' ∈ e.operator) :
    (e.left, e.right) ∈ edges.flatMap arcs :=
  List.mem_flatMap.2 ⟨e, he, mem_arcs.2 (.inl ⟨hop, rfl, rfl⟩)⟩

theorem arc_left {edges : List Edge} (he : e ∈ edges) (hop : '<' ∈ e.operator) :
    (e.right, e.left) ∈ edges.flatMap arcs :=
  List.mem_flatMap.2 ⟨e, he, mem_arcs.2 (.inr ⟨hop, rfl, rfl⟩)⟩

end Edge

namespace LeadsTo

variable {edges : List Edge} {a b c : Id}

theorem arc (h : LeadsTo edges a b) (hbc : (b, c) ∈ edges.flatMap Edge.arcs) :
    LeadsTo edges a c := by
  obtain ⟨e, he, hbc⟩ := List.mem_flatMap.1 hbc
  rcases Edge.mem_arcs.1 hbc with ⟨hop, rfl, rfl⟩ | ⟨hop, rfl, rfl⟩
  · exact h.right he hop
  · exact h.left he hop

theorem iff_reaches : LeadsTo edges a b ↔ Reaches (edges.flatMap Edge.arcs) a b := by
  constructor
  · intro h
    induction h with
    | refl => exact .refl a
    | right _ he hop ih => exact .step ih (Edge.arc_right he hop)
    | left _ he hop ih => exact .step ih (Edge.arc_left he hop)
  · intro h
    induction h with
    | refl => exact .refl a
    | step _ hbc ih => exact ih.arc hbc

theorem of_arc (hab : (a, b) ∈ edges.flatMap Edge.arcs) (h : LeadsTo edges b c) :
    LeadsTo edges a c :=
  iff_reaches.2 (.head hab (iff_reaches.1 h))

end LeadsTo

namespace Reachability

variable {edges : List Edge} {ids : List Id} {a b : Id}

theorem reaches_arcs_ofEdges : Reaches (ofEdges edges ids).arcs a b ↔ LeadsTo edges a b := by
  rw [LeadsTo.iff_reaches]
  exact ⟨.mono fun _ ↦ mem_distinct.1, .mono fun _ ↦ mem_distinct.2⟩

theorem mem_descendants : b ∈ (ofEdges edges ids).descendants a ↔ LeadsTo edges a b := by
  rw [descendants, mem_closure, reaches_arcs_ofEdges]

theorem mem_ancestors : b ∈ (ofEdges edges ids).ancestors a ↔ LeadsTo edges b a := by
  rw [ancestors, mem_closure, reaches_map_swap, reaches_arcs_ofEdges]

end Reachability

end FlowchartView

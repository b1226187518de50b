import FlowchartView.Proofs.Reachability.Edges
import Mathlib.Data.Prod.Basic

namespace FlowchartView

namespace Edge

def mirroredChar (c : Char) : Char := if c = '<' then '>' else if c = '>' then '<' else c

def mirrored (e : Edge) : Edge := { e with operator := e.operator.map mirroredChar }

theorem mirroredChar_mirroredChar (c : Char) : mirroredChar (mirroredChar c) = c := by
  by_cases hl : c = '<'
  · simp [mirroredChar, hl]
  · by_cases hr : c = '>' <;> simp [mirroredChar, hl, hr]

theorem mem_operator_mirrored (e : Edge) (c : Char) :
    c ∈ e.mirrored.operator ↔ mirroredChar c ∈ e.operator := by
  rw [mirrored, List.mem_map]
  constructor
  · rintro ⟨d, hd, rfl⟩
    rwa [mirroredChar_mirroredChar]
  · exact fun h ↦ ⟨_, h, mirroredChar_mirroredChar c⟩

theorem pointsRight_mirrored (e : Edge) : e.mirrored.pointsRight = e.pointsLeft := by
  rw [Bool.eq_iff_iff, pointsRight_iff, pointsLeft_iff, mem_operator_mirrored]
  rfl

theorem pointsLeft_mirrored (e : Edge) : e.mirrored.pointsLeft = e.pointsRight := by
  rw [Bool.eq_iff_iff, pointsRight_iff, pointsLeft_iff, mem_operator_mirrored]
  rfl

/-- Of the two arcs of an edge no more than one leaves a given id, unless they are the same arc. -/
theorem successors_arcs_mirrored (e : Edge) (a : Id) :
    successors e.mirrored.arcs a = successors (e.arcs.map Prod.swap) a := by
  have hleft : e.mirrored.left = e.left := rfl
  have hright : e.mirrored.right = e.right := rfl
  rw [arcs, arcs, pointsRight_mirrored, pointsLeft_mirrored, hleft, hright]
  cases e.pointsRight <;> cases e.pointsLeft
  case true.true =>
    by_cases hl : e.left = a <;> by_cases hr : e.right = a <;> simp [successors, hl, hr]
  all_goals rfl

end Edge

namespace Reachability

/-- What leads to an id is what mirrored edges lead to from it, in the same order. The ids that an
index is given beside its edges play no part. -/
theorem ancestors_eq_descendants_mirrored (edges : List Edge) (ids others : List Id) (a : Id) :
    (ofEdges edges ids).ancestors a =
      (ofEdges (edges.map Edge.mirrored) others).descendants a := by
  refine closure_congr fun b _ ↦ ?_
  calc successors ((distinct (edges.flatMap Edge.arcs)).map Prod.swap) b
    _ = distinct (successors ((edges.flatMap Edge.arcs).map Prod.swap) b) := by
      rw [← distinct_map fun _ _ _ _ h ↦ Prod.swap_injective h, successors_distinct]
    _ = distinct (edges.flatMap fun e ↦ successors (e.arcs.map Prod.swap) b) := by
      rw [List.map_flatMap, successors_flatMap]
    _ = distinct ((edges.map Edge.mirrored).flatMap fun e ↦ successors e.arcs b) := by
      simp only [List.flatMap_map, Edge.successors_arcs_mirrored]
    _ = successors (distinct ((edges.map Edge.mirrored).flatMap Edge.arcs)) b := by
      rw [← successors_flatMap, ← successors_distinct]

end Reachability

end FlowchartView

import FlowchartView.Distinct

namespace FlowchartView

variable {α : Type}

inductive Reaches (arcs : List (α × α)) : α → α → Prop
  | refl (a : α) : Reaches arcs a a
  | step {a b c : α} : Reaches arcs a b → (b, c) ∈ arcs → Reaches arcs a c

variable [DecidableEq α]

def successors (arcs : List (α × α)) (a : α) : List α :=
  (arcs.filter (·.1 = a)).map Prod.snd

def fresh (arcs : List (α × α)) (found : List α) (a : α) : List α :=
  distinct ((successors arcs a).filter (· ∉ found))

def unspent (arcs : List (α × α)) (a : α) : List (α × α) := arcs.filter (·.1 ≠ a)

theorem length_fresh_add_length_unspent_le (arcs : List (α × α)) (found : List α) (a : α) :
    (fresh arcs found a).length + (unspent arcs a).length ≤ arcs.length := by
  have h : (fresh arcs found a).length ≤ (successors arcs a).length :=
    ((distinct_sublist _).trans List.filter_sublist).length_le
  have hs := List.length_eq_countP_add_countP (fun e : α × α ↦ decide (e.1 = a)) (l := arcs)
  simp only [successors, List.length_map] at h
  simp only [List.countP_eq_length_filter, decide_eq_true_eq] at hs
  simp only [unspent, ne_eq]
  omega

/-- Completes the vertices found, in order of discovery. Those in the queue still have to be left,
and the arcs out of a vertex that was left are spent. -/
def search (arcs : List (α × α)) (found : List α) : List α → List α
  | [] => found
  | a :: queue =>
    search (unspent arcs a) (found ++ fresh arcs found a) (queue ++ fresh arcs found a)
termination_by queue => arcs.length + queue.length
decreasing_by
  have h := length_fresh_add_length_unspent_le arcs found a
  simp only [List.length_append, List.length_cons]
  omega

def closure (arcs : List (α × α)) (a : α) : List α := search arcs [a] [a]

end FlowchartView

import FlowchartView.Proofs.OrderedMap
import FlowchartView.Visibility

namespace FlowchartView.Visibility

variable {v : Visibility} {id : Id}

def storedIds (v : Visibility) : List Id := v.flags.keys

theorem holds_iff : v.holds id ↔ id ∈ v.storedIds := OrderedMap.contains_iff

theorem mem_storedIds : id ∈ v.storedIds ↔ (v.flags.find? id).isSome :=
  OrderedMap.contains_iff.symm

theorem nodup_storedIds (v : Visibility) : v.storedIds.Nodup := v.flags.nodup_keys

theorem storedIds_ofIds (ids : List Id) : (ofIds ids).storedIds = distinct ids :=
  OrderedMap.keys_ofKeys ids true

theorem holds_ofDiagram {d : Diagram} : (ofDiagram d).holds id ↔ id ∈ d.allIds := by
  rw [holds_iff, ofDiagram, storedIds_ofIds, mem_distinct]

theorem mem_visibleIds_iff : id ∈ v.visibleIds ↔ v.flags.find? id = some true := by
  simp [visibleIds, ← OrderedMap.mem_entries]

theorem mem_hiddenIds_iff : id ∈ v.hiddenIds ↔ v.flags.find? id = some false := by
  simp [hiddenIds, ← OrderedMap.mem_entries]

theorem mem_visibleIds : id ∈ v.visibleIds ↔ v.holds id ∧ v.isVisible id := by
  rw [mem_visibleIds_iff, holds, OrderedMap.contains, isVisible]
  cases v.flags.find? id <;> simp

theorem storedIds_set (v : Visibility) (id : Id) (b : Bool) :
    (v.set id b).storedIds = distinct (v.storedIds ++ [id]) := by
  have hone : distinct [id] = [id] := rfl
  rw [distinct_append, distinct_eq_self v.nodup_storedIds, hone]
  by_cases hid : id ∈ v.storedIds
  · rw [List.filter_cons_of_neg (by simpa using hid), List.filter_nil, List.append_nil]
    exact (OrderedMap.keys_insert _ _ _).trans (if_pos hid)
  · rw [List.filter_cons_of_pos (by simpa using hid), List.filter_nil]
    exact (OrderedMap.keys_insert _ _ _).trans (if_neg hid)

theorem storedIds_setAll (v : Visibility) (ids : List Id) (b : Bool) :
    (v.setAll ids b).storedIds = distinct (v.storedIds ++ ids) := by
  induction ids generalizing v with
  | nil => rw [List.append_nil, distinct_eq_self v.nodup_storedIds, setAll, List.foldl_nil]
  | cons id ids ih =>
    rw [setAll, List.foldl_cons, ← setAll, ih, storedIds_set, distinct_distinct_append,
      List.append_assoc, List.singleton_append]

theorem holds_setAll {ids : List Id} {b : Bool} :
    (v.setAll ids b).holds id ↔ v.holds id ∨ id ∈ ids := by
  rw [holds_iff, holds_iff, storedIds_setAll, mem_distinct, List.mem_append]

theorem holds_hideAll : v.hideAll.holds id ↔ v.holds id := by
  rw [holds_iff, holds_iff, storedIds, hideAll, OrderedMap.keys_mapValues, storedIds]

/-- An id without a flag cannot be hidden this way. -/
theorem isVisible_hideAll (v : Visibility) (id : Id) : v.hideAll.isVisible id = !v.holds id := by
  rw [isVisible, hideAll, OrderedMap.find?_mapValues, holds, OrderedMap.contains]
  cases v.flags.find? id <;> rfl

/-- The ids that a command gives a flag, whether or not they had one. -/
def Change.targets (r : Reachability) : Change → List Id
  | .set id _ => [id]
  | .showAll | .hideAll => []
  | .showDescendants id => r.descendants id
  | .showAncestors id => r.ancestors id

theorem storedIds_apply (v : Visibility) (r : Reachability) (c : Change) :
    (v.apply r c).storedIds = distinct (v.storedIds ++ c.targets r) := by
  have hkeep : distinct (v.storedIds ++ []) = v.storedIds := by
    rw [List.append_nil, distinct_eq_self v.nodup_storedIds]
  cases c with
  | set id b => exact v.storedIds_set id b
  | showAll => exact (OrderedMap.keys_mapValues _ _).trans hkeep.symm
  | hideAll => exact (OrderedMap.keys_mapValues _ _).trans hkeep.symm
  | showDescendants id => exact v.storedIds_setAll _ true
  | showAncestors id => exact v.storedIds_setAll _ true

theorem storedIds_applyAll (v : Visibility) (r : Reachability) (changes : List Change) :
    (v.applyAll r changes).storedIds =
      distinct (v.storedIds ++ changes.flatMap (·.targets r)) := by
  induction changes generalizing v with
  | nil => rw [List.flatMap_nil, List.append_nil, distinct_eq_self v.nodup_storedIds]; rfl
  | cons c changes ih =>
    rw [applyAll, List.foldl_cons, ← applyAll, ih, storedIds_apply, distinct_distinct_append,
      List.append_assoc, List.flatMap_cons]

theorem holds_applyAll {r : Reachability} {changes : List Change} :
    (v.applyAll r changes).holds id ↔ v.holds id ∨ ∃ c ∈ changes, id ∈ c.targets r := by
  rw [holds_iff, holds_iff, storedIds_applyAll, mem_distinct, List.mem_append, List.mem_flatMap]

/-- Where everything was hidden first, what is shown next is all that is visible. -/
theorem mem_visibleIds_setAll_hideAll {ids : List Id} :
    id ∈ (v.hideAll.setAll ids true).visibleIds ↔ id ∈ ids := by
  rw [mem_visibleIds, holds_setAll, holds_hideAll, isVisible_setAll, isVisible_hideAll]
  by_cases hid : id ∈ ids <;> simp [hid]

end FlowchartView.Visibility

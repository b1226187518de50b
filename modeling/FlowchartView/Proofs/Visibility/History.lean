import FlowchartView.Proofs.Visibility

namespace FlowchartView.Visibility

namespace Change

def flag : Change → Bool
  | .set _ visible => visible
  | .hideAll => false
  | .showAll | .showDescendants _ | .showAncestors _ => true

/-- The ids that a command writes a flag to, given those that have one. Showing or hiding all of
them reaches no other id. -/
def touches (r : Reachability) (stored : List Id) : Change → List Id
  | .showAll | .hideAll => stored
  | c => c.targets r

def IsLocal (c : Change) : Prop := c ≠ .showAll ∧ c ≠ .hideAll

end Change

theorem touches_of_isLocal {c : Change} (h : c.IsLocal) (r : Reachability) (stored : List Id) :
    c.touches r stored = c.targets r := by
  cases c with
  | showAll => exact absurd rfl h.1
  | hideAll => exact absurd rfl h.2
  | _ => rfl

/-- Run from `v`, the commands never touch the id. -/
def Spares (r : Reachability) (id : Id) : Visibility → List Change → Prop
  | _, [] => True
  | v, c :: changes => id ∉ c.touches r v.storedIds ∧ Spares r id (v.apply r c) changes

/-- Run from `v`, the commands touch the id, and `c` is the last of them to do so. -/
def TouchedLastBy (r : Reachability) (id : Id) (v : Visibility) (changes : List Change)
    (c : Change) : Prop :=
  ∃ earlier later, changes = earlier ++ c :: later ∧
    id ∈ c.touches r (v.applyAll r earlier).storedIds ∧
    Spares r id (v.applyAll r (earlier ++ [c])) later

section

variable (v : Visibility) (r : Reachability) (id : Id)

theorem find?_mapValues_flags (b : Bool) : (v.flags.mapValues fun _ ↦ b).find? id =
    if id ∈ v.storedIds then some b else v.flags.find? id := by
  simp only [OrderedMap.find?_mapValues, mem_storedIds]
  cases v.flags.find? id <;> rfl

theorem find?_apply (c : Change) : (v.apply r c).flags.find? id =
    if id ∈ c.touches r v.storedIds then some c.flag else v.flags.find? id := by
  cases c with
  | set other b =>
    rw [apply, set, OrderedMap.find?_insert]
    simp only [Change.touches, Change.targets, List.mem_singleton, Change.flag, eq_comm]
  | showAll => exact v.find?_mapValues_flags id true
  | hideAll => exact v.find?_mapValues_flags id false
  | showDescendants other => exact v.find?_setAll _ true id
  | showAncestors other => exact v.find?_setAll _ true id

theorem spares_or_touchedLastBy (changes : List Change) :
    (Spares r id v changes ∧ (v.applyAll r changes).flags.find? id = v.flags.find? id) ∨
      ∃ c, TouchedLastBy r id v changes c ∧
        (v.applyAll r changes).flags.find? id = some c.flag := by
  induction changes generalizing v with
  | nil => exact .inl ⟨trivial, rfl⟩
  | cons c changes ih =>
    have hfind := v.find?_apply r id c
    rw [applyAll, List.foldl_cons, ← applyAll]
    -- Where the later commands touch the id, `c` does not count any more.
    rcases ih (v.apply r c) with ⟨hspares, hsame⟩ | ⟨d, ⟨earlier, later, rfl, hd, hlater⟩, hflag⟩
    · by_cases hc : id ∈ c.touches r v.storedIds
      · rw [if_pos hc] at hfind
        exact .inr ⟨c, ⟨[], changes, rfl, hc, hspares⟩, hsame.trans hfind⟩
      · rw [if_neg hc] at hfind
        exact .inl ⟨⟨hc, hspares⟩, hsame.trans hfind⟩
    · exact .inr ⟨d, ⟨c :: earlier, later, rfl, hd, hlater⟩, hflag⟩

theorem split_storedIds : (v.visibleIds ++ v.hiddenIds).Perm v.storedIds := by
  rw [visibleIds, hiddenIds, ← List.map_append]
  exact (List.filter_append_perm _ v.flags.entries).map Prod.fst

end

/-- The visibility is what the commands made of one that shows `ids`. -/
structure IsDecidedBy (v : Visibility) (r : Reachability) (ids : List Id)
    (changes : List Change) : Prop where
  flag : ∀ id ∈ v.storedIds,
    (∃ c, TouchedLastBy r id (ofIds ids) changes c ∧ v.flags.find? id = some c.flag) ∨
      (id ∈ ids ∧ Spares r id (ofIds ids) changes ∧ v.flags.find? id = some true)
  not_stored : ∀ id, id ∉ v.storedIds → v.isVisible id
  storedIds : v.storedIds = distinct (ids ++ changes.flatMap (·.targets r))
  grows : ∀ earlier later, changes = earlier ++ later →
    ((ofIds ids).applyAll r earlier).storedIds <+: v.storedIds
  visibleIds : v.visibleIds.Sublist v.storedIds ∧
    ∀ id, id ∈ v.visibleIds ↔ v.flags.find? id = some true
  hiddenIds : v.hiddenIds.Sublist v.storedIds ∧
    ∀ id, id ∈ v.hiddenIds ↔ v.flags.find? id = some false
  disjoint : v.visibleIds.Disjoint v.hiddenIds
  split : (v.visibleIds ++ v.hiddenIds).Perm v.storedIds ∧ v.storedIds.Nodup

theorem storedIds_applyAll_ofIds (r : Reachability) (ids : List Id) (changes : List Change) :
    ((ofIds ids).applyAll r changes).storedIds =
      distinct (ids ++ changes.flatMap (·.targets r)) := by
  rw [storedIds_applyAll, storedIds_ofIds, distinct_distinct_append]

/-- Whatever is commanded, the last command to touch an id decides its flag. -/
theorem isDecidedBy_applyAll (r : Reachability) (ids : List Id) (changes : List Change) :
    ((ofIds ids).applyAll r changes).IsDecidedBy r ids changes where
  flag id hid := by
    rcases spares_or_touchedLastBy (ofIds ids) r id changes with ⟨hspares, hsame⟩ | htouched
    · rw [mem_storedIds, hsame, ofIds, OrderedMap.find?_ofKeys] at hid
      rw [hsame, ofIds, OrderedMap.find?_ofKeys]
      by_cases hmem : id ∈ ids
      · exact .inr ⟨hmem, hspares, if_pos hmem⟩
      · rw [if_neg hmem] at hid
        cases hid
    · exact .inl htouched
  not_stored id hid := by
    rw [mem_storedIds, Bool.not_eq_true, Option.isSome_eq_false_iff,
      Option.isNone_iff_eq_none] at hid
    rw [isVisible, hid]
    rfl
  storedIds := storedIds_applyAll_ofIds r ids changes
  grows := by
    rintro earlier later rfl
    rw [storedIds_applyAll_ofIds, storedIds_applyAll_ofIds, List.flatMap_append,
      ← List.append_assoc]
    exact distinct_isPrefix_append _ _
  visibleIds := ⟨List.filter_sublist.map _, fun _ ↦ mem_visibleIds_iff⟩
  hiddenIds := ⟨List.filter_sublist.map _, fun _ ↦ mem_hiddenIds_iff⟩
  disjoint id hvisible hhidden := by
    rw [mem_visibleIds_iff] at hvisible
    rw [mem_hiddenIds_iff, hvisible] at hhidden
    cases hhidden
  split := ⟨split_storedIds _, nodup_storedIds _⟩

end FlowchartView.Visibility

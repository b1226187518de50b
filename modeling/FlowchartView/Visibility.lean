import FlowchartView.Reachability.Basic

namespace FlowchartView

structure Visibility where
  flags : OrderedMap Id Bool

namespace Visibility

def ofIds (ids : List Id) : Visibility := ⟨.ofKeys ids true⟩

def ofDiagram (d : Diagram) : Visibility := ofIds d.allIds

/-- An id without a flag of its own is visible. -/
def isVisible (v : Visibility) (id : Id) : Bool := (v.flags.find? id).getD true

def holds (v : Visibility) (id : Id) : Bool := v.flags.contains id

def set (v : Visibility) (id : Id) (visible : Bool) : Visibility := ⟨v.flags.insert id visible⟩

def setAll (v : Visibility) (ids : List Id) (visible : Bool) : Visibility :=
  ids.foldl (fun w id ↦ w.set id visible) v

def showAll (v : Visibility) : Visibility := ⟨v.flags.mapValues fun _ ↦ true⟩

def hideAll (v : Visibility) : Visibility := ⟨v.flags.mapValues fun _ ↦ false⟩

def visibleIds (v : Visibility) : List Id := (v.flags.entries.filter (·.2)).map Prod.fst

def hiddenIds (v : Visibility) : List Id := (v.flags.entries.filter (!·.2)).map Prod.fst

def summary (v : Visibility) : String :=
  s!"VisibilityState(visible={v.visibleIds.length}, hidden={v.hiddenIds.length})"

inductive Change
  | set (id : Id) (visible : Bool)
  | showAll
  | hideAll
  | showDescendants (id : Id)
  | showAncestors (id : Id)
deriving DecidableEq, Repr

def apply (r : Reachability) (v : Visibility) : Change → Visibility
  | .set id visible => v.set id visible
  | .showAll => v.showAll
  | .hideAll => v.hideAll
  | .showDescendants id => v.setAll (r.descendants id) true
  | .showAncestors id => v.setAll (r.ancestors id) true

def applyAll (r : Reachability) (v : Visibility) (changes : List Change) : Visibility :=
  changes.foldl (apply r) v

theorem isVisible_set (v : Visibility) (id other : Id) (b : Bool) :
    (v.set id b).isVisible other = if id = other then b else v.isVisible other := by
  rw [isVisible, set, OrderedMap.find?_insert]
  split <;> rfl

theorem find?_setAll (v : Visibility) (ids : List Id) (b : Bool) (other : Id) :
    (v.setAll ids b).flags.find? other =
      if other ∈ ids then some b else v.flags.find? other := by
  induction ids generalizing v with
  | nil => rfl
  | cons id ids ih =>
    rw [setAll, List.foldl_cons, ← setAll, ih, set, OrderedMap.find?_insert]
    by_cases h : other ∈ ids
    · simp [h]
    · by_cases hid : id = other
      · simp [hid]
      · simp [h, hid, Ne.symm hid]

theorem isVisible_setAll (v : Visibility) (ids : List Id) (b : Bool) (other : Id) :
    (v.setAll ids b).isVisible other = if other ∈ ids then b else v.isVisible other := by
  rw [isVisible, find?_setAll]
  split <;> rfl

end Visibility

end FlowchartView

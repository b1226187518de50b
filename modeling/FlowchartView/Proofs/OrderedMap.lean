import FlowchartView.OrderedMap
import Mathlib.Data.List.Basic

namespace FlowchartView.OrderedMap

variable {κ β : Type} [DecidableEq κ]

theorem lookUp_eq_some_iff {k : κ} {v : β} {es : List (κ × β)} (h : (es.map Prod.fst).Nodup) :
    lookUp k es = some v ↔ (k, v) ∈ es := by
  induction es with
  | nil => simp [lookUp]
  | cons e es ih =>
    obtain ⟨hfirst, hrest⟩ := List.nodup_cons.1 h
    rw [lookUp, List.mem_cons, Prod.ext_iff]
    by_cases hk : e.1 = k
    · have hnot : (k, v) ∉ es := fun hmem ↦ hfirst (hk ▸ List.mem_map_of_mem hmem)
      simp [hk, hnot, eq_comm]
    · simp [hk, ih hrest, Ne.symm hk]

theorem mem_entries {m : OrderedMap κ β} {k : κ} {v : β} :
    (k, v) ∈ m.entries ↔ m.find? k = some v := (lookUp_eq_some_iff m.nodup_keys).symm

theorem find?_filter (p : κ → Bool) (m : OrderedMap κ β) (k : κ) :
    (m.filter p).find? k = if p k then m.find? k else none := by
  refine Option.ext fun v ↦ ?_
  have hmem : (k, v) ∈ (m.filter p).entries ↔ (k, v) ∈ m.entries ∧ p k := List.mem_filter
  rw [← mem_entries, hmem, mem_entries]
  cases p k <;> simp

theorem find?_ofKeys (keys : List κ) (v : β) (k : κ) :
    (ofKeys keys v).find? k = if k ∈ keys then some v else none := by
  refine Option.ext fun w ↦ ?_
  have hmem : (k, w) ∈ (ofKeys keys v).entries ↔ k ∈ keys ∧ v = w := by simp [ofKeys]
  rw [← mem_entries, hmem]
  split <;> simp [*]

theorem filterMap_find?_keys (m : OrderedMap κ β) : m.keys.filterMap m.find? = m.values := by
  rw [keys, values, List.filterMap_map, List.filterMap_eq_map_iff_forall_eq_some]
  exact fun e he ↦ mem_entries.1 he

end FlowchartView.OrderedMap

import FlowchartView.Proofs.Diagram.Placement
import FlowchartView.Proofs.OrderedMap

namespace FlowchartView

open Text

theorem Layout.mem_places_iff {l : Layout} {id : Id} {c : Option Id} : (id, c) ∈ l.places ↔
    (∃ s ∈ l.subgraphs, id ∈ s.members ∧ c = some s.id) ∨ (id ∈ l.topLevel ∧ c = none) := by
  simp [places, eq_comm]

namespace Diagram

/-- Each registered node is listed once, by the container that it names, and nothing else is
listed. -/
structure IsPartitioned (d : Diagram) : Prop where
  keyed : ∀ id n, d.nodes.find? id = some n → n.id = id
  count_placedIds : ∀ id, d.placedIds.count id = if d.nodes.contains id then 1 else 0
  members : ∀ s ∈ d.subgraphs, (d.nodesOf s.members).map Node.id = s.members ∧
    ∀ n ∈ d.nodesOf s.members, n.container? = some s.id
  topLevel : (d.nodesOf d.topLevel).map Node.id = d.topLevel
  container?_eq_none_iff : ∀ id n, d.nodes.find? id = some n →
    (n.container? = none ↔ id ∈ d.topLevel)
  placedNodes : d.placedNodes.Perm d.nodes.values
  render : ∀ v style, ∃ text, d.render v style = .ok text

namespace IsSound

variable {d : Diagram} (h : d.IsSound)
include h

theorem exists_of_mem_placedIds {id : Id} (hid : id ∈ d.placedIds) :
    ∃ n, d.nodes.find? id = some n := by
  have hcontains := (h.mem_placedIds id).1 hid
  rwa [OrderedMap.contains, Option.isSome_iff_exists] at hcontains

theorem map_id_nodesOf {ids : List Id} (hids : ids ⊆ d.placedIds) :
    (d.nodesOf ids).map Node.id = ids := by
  induction ids with
  | nil => rfl
  | cons id ids ih =>
    obtain ⟨hid, hrest⟩ := List.cons_subset.1 hids
    obtain ⟨n, hn⟩ := h.exists_of_mem_placedIds hid
    rw [nodesOf, List.filterMap_cons, hn, ← nodesOf]
    simp only [List.map_cons, h.keyed id n hn, ih hrest]

theorem perm_keys : d.placedIds.Perm d.nodes.keys := by
  refine (List.perm_ext_iff_of_nodup h.nodup d.nodes.nodup_keys).2 fun id ↦ ?_
  rw [h.mem_placedIds, OrderedMap.contains_iff]
  rfl

theorem perm_values : d.placedNodes.Perm d.nodes.values := by
  rw [← OrderedMap.filterMap_find?_keys]
  exact h.perm_keys.filterMap _

theorem count_placedIds (id : Id) :
    d.placedIds.count id = if d.nodes.contains id then 1 else 0 := by
  have hcount := h.nodup.count (a := id)
  rw [hcount]
  simp only [h.mem_placedIds]

end IsSound

theorem container?_ofText {source : Text} {id : Id} {n : Node}
    (hn : (ofText source).nodes.find? id = some n) {c : Option Id} : n.container? = c ↔
      (∃ s ∈ (ofText source).subgraphs, id ∈ s.members ∧ c = some s.id) ∨
        (id ∈ (ofText source).topLevel ∧ c = none) := by
  have hl := Layout.isSound_ofStatements
    (Preamble.ofLines (Line.numberFrom 1 (splitLines source))).statements
  have hplace := hl.mem_places id c
  rw [Layout.mem_places_iff] at hplace
  refine Iff.trans ⟨fun hc ↦ ⟨n, hn, hc⟩, ?_⟩ hplace.symm
  rintro ⟨m, hm, hc⟩
  rw [← hc, Option.some.inj (hn.symm.trans hm)]

theorem isPartitioned_ofText (source : Text) : (ofText source).IsPartitioned where
  keyed := (isSound_ofText source).keyed
  count_placedIds := (isSound_ofText source).count_placedIds
  members s hs := by
    have hplaced : s.members ⊆ (ofText source).placedIds := fun id hid ↦
      List.mem_append_left _ (List.mem_flatMap.2 ⟨s, hs, hid⟩)
    refine ⟨(isSound_ofText source).map_id_nodesOf hplaced, fun n hn ↦ ?_⟩
    obtain ⟨id, hid, hn⟩ := List.mem_filterMap.1 hn
    exact (container?_ofText hn).2 (.inl ⟨s, hs, hid, rfl⟩)
  topLevel := (isSound_ofText source).map_id_nodesOf fun _ hid ↦ List.mem_append_right _ hid
  container?_eq_none_iff id n hn := by
    rw [container?_ofText hn]
    simp
  placedNodes := (isSound_ofText source).perm_values
  render v style := ⟨_, (isSound_ofText source).render_eq v style⟩

end Diagram

end FlowchartView

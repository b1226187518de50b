import FlowchartView.Diagram.Reading
import FlowchartView.Drawing.Basic

namespace FlowchartView

open Text

namespace Layout

def places (l : Layout) : List (Id × Option Id) :=
  (l.subgraphs.flatMap fun s ↦ s.members.map (·, some s.id)) ++ l.topLevel.map (·, none)

def placedIds (l : Layout) : List Id := l.subgraphs.flatMap Subgraph.members ++ l.topLevel

def containerFor (l : Layout) (id : Id) : Option Id :=
  match l.nodes.find? id with
  | some old => old.container?
  | none => l.current?.map Subgraph.id

theorem map_fst_places (l : Layout) : l.places.map Prod.fst = l.placedIds := by
  simp [places, placedIds, List.map_flatMap, Function.comp_def]

def entryFor (l : Layout) (n : NodeLine) : Node :=
  ⟨n.id, n.label, some n.shape, l.containerFor n.id⟩

theorem nodes_register (l : Layout) (n : NodeLine) :
    (l.register n).nodes = l.nodes.insert n.id (l.entryFor n) := by
  rw [register, entryFor, containerFor]
  cases l.nodes.find? n.id with
  | some old => rfl
  | none => cases l.current? <;> rfl

theorem register_of_known {l : Layout} {n : NodeLine} {old : Node}
    (h : l.nodes.find? n.id = some old) :
    l.register n = { l with nodes := l.nodes.insert n.id (l.entryFor n) } := by
  simp [register, h, entryFor, containerFor]

theorem register_of_current {l : Layout} {n : NodeLine} {s : Subgraph}
    (h : l.nodes.find? n.id = none) (hs : l.current? = some s) :
    l.register n = { l with
      current? := some { s with members := s.members ++ [n.id] }
      nodes := l.nodes.insert n.id (l.entryFor n) } := by
  simp [register, h, hs, entryFor, containerFor]

theorem register_of_no_current {l : Layout} {n : NodeLine}
    (h : l.nodes.find? n.id = none) (hs : l.current? = none) :
    l.register n = { l with
      topLevel := l.topLevel ++ [n.id]
      nodes := l.nodes.insert n.id (l.entryFor n) } := by
  simp [register, h, hs, entryFor, containerFor]

theorem places_register_of_known {l : Layout} {n : NodeLine} {old : Node}
    (h : l.nodes.find? n.id = some old) : (l.register n).places = l.places := by
  rw [register_of_known h]
  rfl

theorem places_register_of_new {l : Layout} {n : NodeLine} (h : l.nodes.find? n.id = none) :
    (l.register n).places.Perm ((n.id, l.containerFor n.id) :: l.places) := by
  rw [containerFor, h]
  cases hs : l.current? with
  | some s =>
    rw [register_of_current h hs]
    simp only [places, subgraphs, hs, Option.toList_some, List.flatMap_append,
      List.flatMap_singleton, List.map_append, List.map_cons, List.map_nil, List.append_assoc,
      List.singleton_append, Option.map_some]
    rw [← List.append_assoc, ← List.append_assoc]
    exact List.perm_middle
  | none =>
    rw [register_of_no_current h hs]
    simp only [places, subgraphs, List.map_append, List.map_cons, List.map_nil, Option.map_none]
    rw [← List.append_assoc]
    exact List.perm_append_comm

/-- Every registered node stands in one place, the container it names. -/
structure IsSound (l : Layout) : Prop where
  keyed : ∀ id n, l.nodes.find? id = some n → n.id = id
  nodup : l.placedIds.Nodup
  mem_places : ∀ id c, (id, c) ∈ l.places ↔ ∃ n, l.nodes.find? id = some n ∧ n.container? = c

theorem IsSound.of_eq {l m : Layout} (h : l.IsSound) (hnodes : m.nodes = l.nodes)
    (hplaces : m.places = l.places) : m.IsSound where
  keyed := hnodes ▸ h.keyed
  nodup := by rw [← map_fst_places, hplaces, map_fst_places]; exact h.nodup
  mem_places := by rw [hnodes, hplaces]; exact h.mem_places

theorem IsSound.mem_placedIds {l : Layout} (h : l.IsSound) (id : Id) :
    id ∈ l.placedIds ↔ l.nodes.contains id := by
  rw [← map_fst_places, OrderedMap.contains, Option.isSome_iff_exists, List.mem_map]
  constructor
  · rintro ⟨⟨_, c⟩, hmem, rfl⟩
    obtain ⟨n, hn, -⟩ := (h.mem_places _ c).1 hmem
    exact ⟨n, hn⟩
  · rintro ⟨n, hn⟩
    exact ⟨(id, n.container?), (h.mem_places id _).2 ⟨n, hn, rfl⟩, rfl⟩

theorem IsSound.register {l : Layout} (h : l.IsSound) (n : NodeLine) : (l.register n).IsSound := by
  have hkeyed : ∀ id m, (l.register n).nodes.find? id = some m → m.id = id := by
    intro id m hm
    rw [nodes_register, OrderedMap.find?_insert] at hm
    split at hm
    · next hid => exact Option.some.inj hm ▸ hid
    · exact h.keyed id m hm
  cases hold : l.nodes.find? n.id with
  | some old =>
    have hplaces := places_register_of_known hold
    refine ⟨hkeyed, ?_, fun id c ↦ ?_⟩
    · rw [← map_fst_places, hplaces, map_fst_places]
      exact h.nodup
    · rw [hplaces, h.mem_places, nodes_register, OrderedMap.find?_insert]
      split
      · next hid => simp [← hid, hold, entryFor, containerFor]
      · rfl
  | none =>
    have hplaces := places_register_of_new hold
    refine ⟨hkeyed, ?_, fun id c ↦ ?_⟩
    · rw [← map_fst_places, (hplaces.map Prod.fst).nodup_iff, List.map_cons, map_fst_places,
        List.nodup_cons, h.mem_placedIds]
      simp [OrderedMap.contains, hold, h.nodup]
    · rw [hplaces.mem_iff, List.mem_cons, h.mem_places, nodes_register, OrderedMap.find?_insert]
      split
      · next hid => simp [← hid, hold, entryFor, eq_comm]
      · next hid => simp [Ne.symm hid]

theorem IsSound.step {l : Layout} (h : l.IsSound) (s : Statement) : (l.step s).IsSound := by
  cases s with
  | node n => exact h.register n
  | subgraph header title => exact h.of_eq rfl (by simp [Layout.step, places, subgraphs])
  | direction code =>
    refine h.of_eq rfl ?_
    cases hs : l.current? <;> simp [Layout.step, places, subgraphs, hs]
  | endSubgraph => exact h.of_eq rfl (by simp [Layout.step, places, subgraphs])
  | _ => exact h

theorem isSound_ofStatements (statements : List Statement) : (ofStatements statements).IsSound := by
  have hempty : IsSound {} := ⟨by simp, by simp [placedIds, subgraphs], by simp [places, subgraphs]⟩
  have hrun : ∀ l : Layout, l.IsSound → (statements.foldl Layout.step l).IsSound := by
    induction statements with
    | nil => exact fun l hl ↦ hl
    | cons s statements ih => exact fun l hl ↦ ih _ (hl.step s)
  exact hrun {} hempty

end Layout

def Node.unplaced (n : Node) : Node := { n with container? := none }

def NodeLine.node (n : NodeLine) : Node := ⟨n.id, n.label, some n.shape, none⟩

namespace Layout

theorem find?_foldl_step (statements : List Statement) (l : Layout) (id : Id) :
    ((statements.foldl step l).nodes.find? id).map Node.unplaced =
      (((statements.filterMap Statement.node?).reverse.find? (·.id = id)).map NodeLine.node).or
        ((l.nodes.find? id).map Node.unplaced) := by
  induction statements generalizing l with
  | nil => rfl
  | cons s statements ih =>
    rw [List.foldl_cons, ih]
    cases s with
    | node n =>
      have hstep : ((l.step (.node n)).nodes.find? id).map Node.unplaced =
          (([n].find? (·.id = id)).map NodeLine.node).or
            ((l.nodes.find? id).map Node.unplaced) := by
        rw [step, nodes_register, OrderedMap.find?_insert]
        by_cases hid : n.id = id <;> simp [hid, entryFor, Node.unplaced, NodeLine.node]
      have hdeclared : (Statement.node n :: statements).filterMap Statement.node? =
          n :: statements.filterMap Statement.node? := List.filterMap_cons_some rfl
      rw [hdeclared, List.reverse_cons, List.find?_append, hstep, Option.map_or, Option.or_assoc]
    | _ => rfl

end Layout

namespace Diagram

def IsKeyed (d : Diagram) : Prop := ∀ id n, d.nodes.find? id = some n → n.id = id

theorem IsKeyed.id_mem_allIds {d : Diagram} (hk : d.IsKeyed) {ids : List Id} {n : Node}
    (hn : n ∈ d.nodesOf ids) : n.id ∈ d.allIds := by
  obtain ⟨id, -, hfind⟩ := List.mem_filterMap.1 hn
  have hcontains : d.nodes.contains id := by
    rw [OrderedMap.contains, hfind]
    rfl
  rw [hk id n hfind]
  exact mem_allIds.2 (.inl hcontains)

/-- Containers may list an id several times, but none that has no node. -/
structure IsDrawable (d : Diagram) : Prop where
  keyed : d.IsKeyed
  registered : ∀ id ∈ d.placedIds, d.nodes.contains id

theorem IsDrawable.render_eq {d : Diagram} (h : d.IsDrawable) (v : Visibility) (style : Style) :
    d.render v style = .ok (d.draw v style) := by
  have hnone : d.unregistered? = none := by
    rw [unregistered?, List.find?_eq_none]
    intro id hid
    simp [h.registered id hid]
  rw [render, hnone]

/-- The containers list every registered node once and nothing else. -/
structure IsSound (d : Diagram) : Prop where
  keyed : ∀ id n, d.nodes.find? id = some n → n.id = id
  nodup : d.placedIds.Nodup
  mem_placedIds : ∀ id, id ∈ d.placedIds ↔ d.nodes.contains id

theorem isSound_ofText (source : Text) : (ofText source).IsSound := by
  have hl := Layout.isSound_ofStatements
    (Preamble.ofLines (Line.numberFrom 1 (splitLines source))).statements
  exact ⟨hl.keyed, hl.nodup, hl.mem_placedIds⟩

theorem IsSound.isDrawable {d : Diagram} (h : d.IsSound) : d.IsDrawable :=
  ⟨h.keyed, fun id hid ↦ (h.mem_placedIds id).1 hid⟩

theorem IsSound.render_eq {d : Diagram} (h : d.IsSound) (v : Visibility) (style : Style) :
    d.render v style = .ok (d.draw v style) := h.isDrawable.render_eq v style

end Diagram

end FlowchartView

import FlowchartView.Proofs.Drawing.Containers

namespace FlowchartView

namespace Diagram

/-- `r` has the visible nodes of `d` in their containers, up to the ids of subgraphs and to
subgraphs without members. -/
structure IsViewOf (r d : Diagram) (v : Visibility) : Prop where
  nodes : ∀ id, (r.nodes.find? id).map Node.unplaced =
    if v.isVisible id then (d.nodes.find? id).map Node.unplaced else none
  topLevel : r.topLevel = d.topLevel.filter v.isVisible
  frames : FlowchartView.frames r.subgraphs =
    FlowchartView.frames (d.subgraphs.map (·.restrict v))

theorem subgraphSection_congr {r d : Diagram} {w u : Visibility} {style : Style} {s t : Subgraph}
    (hheader : s.header = t.header) (hdirection : s.direction? = t.direction?)
    (hlines : (r.shownNodes w s.members).map Node.line =
      (d.shownNodes u t.members).map Node.line) :
    r.subgraphSection w style s = d.subgraphSection u style t := by
  rw [subgraphSection, subgraphSection]
  cases hr : r.shownNodes w s.members with
  | nil =>
    rw [hr, List.map_nil, eq_comm, List.map_eq_nil_iff] at hlines
    rw [hlines]
  | cons n nodes =>
    rw [hr] at hlines
    obtain ⟨m, rest, hd, -⟩ := List.map_eq_cons_iff.1 hlines.symm
    rw [hd] at hlines ⊢
    simp only [hheader, hdirection, hlines]

theorem setApart_frames (r : Diagram) (w : Visibility) (style : Style)
    (subgraphs : List Subgraph) :
    setApart ((frames subgraphs).map (r.subgraphSection w style)) =
      setApart (subgraphs.map (r.subgraphSection w style)) := by
  induction subgraphs with
  | nil => rfl
  | cons s subgraphs ih =>
    by_cases hmembers : s.members = []
    · have hempty : r.subgraphSection w style s = [] := by
        rw [subgraphSection, hmembers]
        rfl
      rw [frames_cons_of_nil hmembers, ih, List.map_cons, hempty, setApart_nil_cons]
    · have hname : r.subgraphSection w style s.unnamed = r.subgraphSection w style s := rfl
      have hsplit : ∀ sections, setApart (r.subgraphSection w style s :: sections) =
          setApart [r.subgraphSection w style s] ++ setApart sections := setApart_append [_]
      rw [frames_cons hmembers, List.map_cons, List.map_cons, hname, hsplit, ih, ← hsplit]

namespace IsViewOf

variable {r d : Diagram} {v : Visibility} (h : r.IsViewOf d v)
include h

theorem contains_eq (id : Id) :
    r.nodes.contains id = (v.isVisible id && d.nodes.contains id) := by
  have hid := congrArg Option.isSome (h.nodes id)
  rw [Option.isSome_map] at hid
  rw [OrderedMap.contains, OrderedMap.contains, hid]
  cases v.isVisible id <;> simp

theorem exists_find? {id : Id} {n : Node} (hn : d.nodes.find? id = some n)
    (hv : v.isVisible id) : ∃ m, r.nodes.find? id = some m ∧ m.unplaced = n.unplaced := by
  have hid := h.nodes id
  rwa [if_pos hv, hn, Option.map_some, Option.map_eq_some_iff] at hid

theorem placedIds_eq : r.placedIds = d.placedIds.filter v.isVisible := by
  have hrestrict : (d.subgraphs.map (·.restrict v)).flatMap Subgraph.members =
      (d.subgraphs.flatMap Subgraph.members).filter v.isVisible := by
    induction d.subgraphs with
    | nil => rfl
    | cons s subgraphs ih =>
      rw [List.map_cons, List.flatMap_cons, ih, List.flatMap_cons, List.filter_append]
      rfl
  rw [placedIds, placedIds, List.filter_append, h.topLevel, ← flatMap_members_frames, h.frames,
    flatMap_members_frames, hrestrict]

variable (hk : d.IsKeyed) {w u : Visibility}
  (hu : ∀ id, u.isVisible id = (v.isVisible id && w.isVisible id))
include hk hu

theorem shownNodes_eq (ids : List Id) :
    (r.shownNodes w (ids.filter v.isVisible)).map Node.unplaced =
      (d.shownNodes u ids).map Node.unplaced := by
  induction ids with
  | nil => rfl
  | cons id ids ih =>
    rw [shownNodes_cons, List.map_append, ← ih]
    cases hv : v.isVisible id with
    | false =>
      rw [List.filter_cons_of_neg (by simp [hv])]
      cases hn : d.nodes.find? id with
      | none => rfl
      | some n => simp [Option.filter_some, hk id n hn, hu, hv]
    | true =>
      rw [List.filter_cons_of_pos hv, shownNodes_cons, List.map_append]
      cases hn : d.nodes.find? id with
      | none =>
        have hid := h.nodes id
        rw [hv, if_pos rfl, hn, Option.map_none, Option.map_eq_none_iff] at hid
        rw [hid]
        rfl
      | some n =>
        obtain ⟨m, hm, hmn⟩ := h.exists_find? hn hv
        have hmid : m.id = id := by
          have hids : m.unplaced.id = n.unplaced.id := congrArg Node.id hmn
          exact hids.trans (hk id n hn)
        simp only [hm, Option.filter_some, hmid, hk id n hn, hu, hv, Bool.true_and]
        cases w.isVisible id <;> simp [hmn]

omit hk hu in
theorem placedNodes_eq (hs : d.IsSound) : r.placedNodes.map Node.unplaced =
    (d.placedNodes.filter fun n ↦ v.isVisible n.id).map Node.unplaced := by
  have hall : ∀ id, (⟨.empty⟩ : Visibility).isVisible id = true := fun _ ↦ rfl
  have hand : ∀ id, v.isVisible id = (v.isVisible id && (⟨.empty⟩ : Visibility).isVisible id) :=
    fun id ↦ by rw [hall, Bool.and_true]
  have hnodes : r.placedNodes = r.shownNodes ⟨.empty⟩ r.placedIds :=
    (List.filter_eq_self.2 fun n _ ↦ hall n.id).symm
  rw [hnodes, h.placedIds_eq, h.shownNodes_eq hs.keyed hand]
  rfl

theorem map_line_shownNodes (ids : List Id) :
    (r.shownNodes w (ids.filter v.isVisible)).map Node.line =
      (d.shownNodes u ids).map Node.line := by
  have hlines := congrArg (List.map Node.line) (h.shownNodes_eq hk hu ids)
  rwa [List.map_map, List.map_map] at hlines

theorem map_id_shownNodes (ids : List Id) :
    (r.shownNodes w (ids.filter v.isVisible)).map Node.id =
      (d.shownNodes u ids).map Node.id := by
  have hids := congrArg (List.map Node.id) (h.shownNodes_eq hk hu ids)
  rwa [List.map_map, List.map_map] at hids

theorem setApart_subgraphs (style : Style) :
    setApart (r.subgraphs.map (r.subgraphSection w style)) =
      setApart (d.subgraphs.map (d.subgraphSection u style)) := by
  have hsection : (r.subgraphSection w style ∘ fun s ↦ s.restrict v) =
      d.subgraphSection u style := funext fun s ↦
    subgraphSection_congr rfl rfl (h.map_line_shownNodes hk hu s.members)
  rw [← setApart_frames r w style, h.frames, setApart_frames, List.map_map, hsection]

omit h hk in
theorem shownMemberships_eq (hmemberships : r.memberships = d.shownMemberships v) :
    r.shownMemberships w = d.shownMemberships u := by
  have hfilter : ∀ ids : List Id,
      (ids.filter v.isVisible).filter w.isVisible = ids.filter u.isVisible := by
    intro ids
    rw [List.filter_filter]
    exact List.filter_congr fun id _ ↦ by rw [hu, Bool.and_comm]
  have hkeep : ∀ memberships : List ClassMembership,
      ((((memberships.map fun a ↦ { a with ids := a.ids.filter v.isVisible }).filter
        fun a ↦ !a.ids.isEmpty).map fun a ↦ { a with ids := a.ids.filter w.isVisible }).filter
          fun a ↦ !a.ids.isEmpty) =
      (memberships.map fun a ↦ { a with ids := a.ids.filter u.isVisible }).filter
        fun a ↦ !a.ids.isEmpty := by
    intro memberships
    induction memberships with
    | nil => rfl
    | cons a memberships ih =>
      simp only [List.map_cons, List.filter_cons, ← hfilter]
      simp only [← hfilter] at ih
      by_cases hids : a.ids.filter v.isVisible = []
      · simp only [hids, List.isEmpty_nil, Bool.not_true, Bool.false_eq_true, if_false, ih,
          List.filter_nil]
      · simp [hids, ih, List.filter_cons]
  rw [shownMemberships, hmemberships, shownMemberships, hkeep]
  rfl

variable (hedges : r.edges = d.shownEdges v)

omit h hk in
include hedges in
theorem shownEdges_eq : r.shownEdges w = d.shownEdges u := by
  rw [shownEdges, hedges, shownEdges, shownEdges, List.filter_filter]
  refine List.filter_congr fun e _ ↦ ?_
  rw [hu, hu]
  cases v.isVisible e.left <;> cases v.isVisible e.right <;> simp

include hedges in
theorem clickableIds_eq : r.clickableIds w = d.clickableIds u := by
  have hends : ∀ id ∈ (d.shownEdges u).flatMap Edge.endpoints,
      r.nodes.contains id = d.nodes.contains id := by
    intro id hid
    obtain ⟨e, he, hid⟩ := List.mem_flatMap.1 hid
    have hvisible := isVisible_of_mem_endpoints he hid
    rw [hu, Bool.and_eq_true] at hvisible
    rw [h.contains_eq, hvisible.1, Bool.true_and]
  rw [clickableIds, h.placedIds_eq, h.map_id_shownNodes hk hu, shownEdges_eq hu hedges,
    clickableIds, List.filter_congr fun id hid ↦ by rw [hends id hid]]

include hedges in
theorem draw_eq (hmemberships : r.shownMemberships w = d.shownMemberships u) {style : Style}
    (hfront : r.frontMatter = d.frontMatter)
    (hheading : r.heading style = d.heading style) (hstyles : r.styleClasses = d.styleClasses) :
    r.draw w style = d.draw u style := by
  have hclick : r.clickSection w style = d.clickSection u style := by
    rw [clickSection, clickSection, h.clickableIds_eq hk hu hedges]
  have htop : r.topLevelSection w style = d.topLevelSection u style := by
    have hlines := congrArg (List.map (style.indent ++ ·)) (h.map_line_shownNodes hk hu d.topLevel)
    rw [List.map_map, List.map_map, ← h.topLevel] at hlines
    exact hlines
  have hclass : r.classSection w style = d.classSection u style := by
    rw [classSection, classSection, hmemberships]
  have hedge : r.edgeSection w style = d.edgeSection u style := by
    rw [edgeSection, edgeSection, shownEdges_eq hu hedges]
  rw [draw, draw, drawing_eq, drawing_eq, hfront, hheading, bodyLines, bodyLines, setApart_append,
    setApart_append, h.setApart_subgraphs hk hu, hstyles, htop, hclass, hclick, hedge]

end IsViewOf

end Diagram

end FlowchartView

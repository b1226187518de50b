import FlowchartView.Proofs.Diagram.Containers
import FlowchartView.Proofs.Drawing.Lines

namespace FlowchartView

open Text

/-- The subgraph without its id, which may depend on the subgraphs before it. -/
def Subgraph.unnamed (s : Subgraph) : Subgraph := { s with id := [] }

def Subgraph.restrict (s : Subgraph) (v : Visibility) : Subgraph :=
  { s with members := s.members.filter v.isVisible }

def frames (subgraphs : List Subgraph) : List Subgraph :=
  (subgraphs.filter (!·.members.isEmpty)).map Subgraph.unnamed

theorem frames_append (subgraphs more : List Subgraph) :
    frames (subgraphs ++ more) = frames subgraphs ++ frames more := by
  simp [frames]

theorem frames_cons_of_nil {s : Subgraph} (h : s.members = []) (subgraphs : List Subgraph) :
    frames (s :: subgraphs) = frames subgraphs := by
  simp [frames, h]

theorem frames_cons {s : Subgraph} (h : s.members ≠ []) (subgraphs : List Subgraph) :
    frames (s :: subgraphs) = s.unnamed :: frames subgraphs := by
  simp [frames, h]

theorem frames_eq_of_map_unnamed {subgraphs more : List Subgraph}
    (h : subgraphs.map Subgraph.unnamed = frames more) : frames subgraphs = frames more := by
  have hunnamed : frames (subgraphs.map Subgraph.unnamed) = frames subgraphs := by
    simp [frames, List.filter_map, Function.comp_def, Subgraph.unnamed]
  have hidem : frames (frames more) = frames more := by
    simp [frames, List.filter_map, Function.comp_def, Subgraph.unnamed]
  rw [← hunnamed, h, hidem]

theorem flatMap_members_frames (subgraphs : List Subgraph) :
    (frames subgraphs).flatMap Subgraph.members = subgraphs.flatMap Subgraph.members := by
  induction subgraphs with
  | nil => rfl
  | cons s subgraphs ih =>
    by_cases hmembers : s.members = []
    · rw [frames_cons_of_nil hmembers, ih, List.flatMap_cons, hmembers, List.nil_append]
    · rw [frames_cons hmembers, List.flatMap_cons, ih, List.flatMap_cons]
      rfl

def Statement.isQuiet : Statement → Bool
  | styleClass _ | membership _ | click | subgraph _ _ | edge _ => true
  | _ => false

namespace Layout

theorem Takes.foldl_eq {l m : Layout} {statements : List Statement} (h : Takes l statements m) :
    statements.foldl step l = m := by
  induction h with
  | nil => rfl
  | cons _ _ ih => exact ih

theorem Takes.find?_eq_none {l m : Layout} {statements : List Statement} (h : Takes l statements m)
    {id : Id} (hl : l.nodes.find? id = none)
    (hid : ∀ n ∈ statements.filterMap Statement.node?, n.id ≠ id) : m.nodes.find? id = none := by
  have hfind := find?_foldl_step statements l id
  have hnone : (statements.filterMap Statement.node?).reverse.find? (·.id = id) = none := by
    rw [List.find?_eq_none]
    intro n hn
    simpa using hid n (List.mem_reverse.1 hn)
  rw [h.foldl_eq, hnone, hl] at hfind
  simpa using hfind

theorem find?_register_of_not_mem {l : Layout} {n : NodeLine} {ns : List NodeLine}
    (hnew : ∀ m ∈ ns, l.nodes.find? m.id = none) (hn : n.id ∉ ns.map NodeLine.id) :
    ∀ m ∈ ns, (l.register n).nodes.find? m.id = none := by
  intro m hm
  have hne : n.id ≠ m.id := fun he ↦ hn (he ▸ List.mem_map_of_mem hm)
  rw [nodes_register, OrderedMap.find?_insert, if_neg hne, hnew m hm]

section

variable {l : Layout} {ns : List NodeLine} (hnew : ∀ n ∈ ns, l.nodes.find? n.id = none)
  (hnodup : (ns.map NodeLine.id).Nodup)
include hnew hnodup

theorem takes_inside {s : Subgraph} (hs : l.current? = some s) :
    ∃ nodes, Takes l (ns.map .node) { l with
      current? := some { s with members := s.members ++ ns.map NodeLine.id }
      nodes := nodes } := by
  induction ns generalizing l s with
  | nil => exact ⟨l.nodes, by simpa [← hs] using Takes.nil l⟩
  | cons n ns ih =>
    obtain ⟨hn, hns⟩ := List.forall_mem_cons.1 hnew
    obtain ⟨hfirst, hrest⟩ := List.nodup_cons.1 hnodup
    have hregister := register_of_current hn hs
    have hfresh := find?_register_of_not_mem hns hfirst
    obtain ⟨nodes, hnodes⟩ := ih hfresh hrest (by rw [hregister])
    refine ⟨nodes, .cons rfl ?_⟩
    simpa [step, hregister] using hnodes

theorem takes_topLevel (hs : l.current? = none) :
    ∃ nodes, Takes l (ns.map .node) { l with
      topLevel := l.topLevel ++ ns.map NodeLine.id
      nodes := nodes } := by
  induction ns generalizing l with
  | nil => exact ⟨l.nodes, by simpa using Takes.nil l⟩
  | cons n ns ih =>
    obtain ⟨hn, hns⟩ := List.forall_mem_cons.1 hnew
    obtain ⟨hfirst, hrest⟩ := List.nodup_cons.1 hnodup
    have hregister := register_of_no_current hn hs
    have hfresh := find?_register_of_not_mem hns hfirst
    obtain ⟨nodes, hnodes⟩ := ih hfresh hrest (by rw [hregister]; exact hs)
    refine ⟨nodes, .cons rfl ?_⟩
    simpa [step, hregister] using hnodes

theorem takes_block (header title : Text) (direction? : Option Text) :
    ∃ id nodes, Takes l
      (.subgraph header title :: (direction?.toList.map Statement.direction ++ ns.map .node) ++
        [.endSubgraph])
      { l with
        closed := l.subgraphs ++ [⟨id, header, ns.map NodeLine.id, direction?⟩]
        current? := none
        nodes := nodes } := by
  have hopened : Takes (l.step (.subgraph header title))
      (direction?.toList.map Statement.direction)
      { l with
        closed := l.subgraphs
        current? := some ⟨l.subgraphId title, header, [], direction?⟩ } := by
    cases direction? with
    | none => exact .nil _
    | some t => exact .cons rfl (.nil _)
  obtain ⟨nodes, hnodes⟩ := takes_inside (l := { l with
      closed := l.subgraphs
      current? := some ⟨l.subgraphId title, header, [], direction?⟩ }) hnew hnodup rfl
  refine ⟨l.subgraphId title, nodes, .cons rfl ((hopened.append hnodes).append ?_)⟩
  exact .cons rfl (.nil _)

end

theorem takes_styleClasses (classes : List StyleClass) (l : Layout) :
    Takes l (classes.map .styleClass) l := by
  induction classes with
  | nil => exact .nil l
  | cons c classes ih => exact .cons rfl ih

theorem takes_quiet {statements : List Statement} (h : ∀ s ∈ statements, s.isQuiet) (l : Layout) :
    ∃ m, Takes l statements m ∧ m.topLevel = l.topLevel ∧ l.subgraphs <+: m.subgraphs ∧
      frames m.subgraphs = frames l.subgraphs := by
  induction statements generalizing l with
  | nil => exact ⟨l, .nil l, rfl, List.prefix_rfl, rfl⟩
  | cons s statements ih =>
    obtain ⟨hs, hrest⟩ := List.forall_mem_cons.1 h
    obtain ⟨m, hm, htop, hprefix, hframes⟩ := ih hrest (l.step s)
    have hstep : l.rejects s = false ∧ (l.step s).topLevel = l.topLevel ∧
        l.subgraphs <+: (l.step s).subgraphs ∧
        frames (l.step s).subgraphs = frames l.subgraphs := by
      cases s with
      | subgraph header title =>
        refine ⟨rfl, rfl, List.prefix_append _ _, ?_⟩
        simp [step, subgraphs, frames]
      | styleClass | membership | click | edge => exact ⟨rfl, rfl, List.prefix_rfl, rfl⟩
      | _ => cases hs
    exact ⟨m, .cons hstep.1 hm, htop.trans hstep.2.1, hstep.2.2.1.trans hprefix,
      hframes.trans hstep.2.2.2⟩

end Layout

theorem Edge.IsLegal.isQuiet_line {e : Edge} (h : e.IsLegal) :
    (Statement.ofCode e.line).isQuiet := by
  rw [h.statement_line]
  split
  · rfl
  · split
    · rfl
    · split <;> rfl

namespace Diagram

variable {d : Diagram} (v : Visibility)

theorem shownNodes_cons (id : Id) (ids : List Id) : d.shownNodes v (id :: ids) =
    ((d.nodes.find? id).filter fun n ↦ v.isVisible n.id).toList ++ d.shownNodes v ids := by
  rw [shownNodes, shownNodes, nodesOf, nodesOf, List.filterMap_cons]
  cases d.nodes.find? id with
  | none => rfl
  | some n => cases hv : v.isVisible n.id <;> simp [hv, Option.filter_some]

theorem shownNodes_append (ids more : List Id) :
    d.shownNodes v (ids ++ more) = d.shownNodes v ids ++ d.shownNodes v more := by
  rw [shownNodes, nodesOf, List.filterMap_append, List.filter_append]
  rfl

theorem shownNodes_reverse (ids : List Id) :
    (d.shownNodes v ids).reverse = d.shownNodes v ids.reverse := by
  rw [shownNodes, shownNodes, nodesOf, nodesOf, List.filterMap_reverse, List.filter_reverse]

theorem IsSound.map_id_shownNodes (hs : d.IsSound) {ids : List Id} (h : ids ⊆ d.placedIds) :
    (d.shownNodes v ids).map Node.id = ids.filter v.isVisible := by
  have hids : ((d.nodesOf ids).map Node.id).filter v.isVisible =
      ((d.nodesOf ids).filter fun n ↦ v.isVisible n.id).map Node.id := List.filter_map
  rw [shownNodes, ← hids, hs.map_id_nodesOf h]

theorem IsSound.id_mem_of_mem_shownNodes (hs : d.IsSound) {ids : List Id} {n : Node}
    (h : n ∈ d.shownNodes v ids) : n.id ∈ ids := by
  obtain ⟨⟨id, hid, hn⟩, -⟩ := mem_shownNodes.1 h
  exact hs.keyed id n hn ▸ hid

theorem IsSound.declarations (hs : d.IsSound) {ids : List Id} (hplaced : ids ⊆ d.placedIds)
    (hnodup : ids.Nodup) {l : Layout} (hnew : ∀ id ∈ ids, l.nodes.find? id = none) :
    ((d.shownNodes v ids).map Node.declaration).map NodeLine.id = ids.filter v.isVisible ∧
      (((d.shownNodes v ids).map Node.declaration).map NodeLine.id).Nodup ∧
      ∀ n ∈ (d.shownNodes v ids).map Node.declaration, l.nodes.find? n.id = none := by
  have hids : ((d.shownNodes v ids).map Node.declaration).map NodeLine.id =
      ids.filter v.isVisible := by
    rw [← hs.map_id_shownNodes v hplaced, List.map_map]
    rfl
  refine ⟨hids, hids ▸ hnodup.sublist List.filter_sublist, ?_⟩
  rw [List.forall_mem_map]
  exact fun n hn ↦ hnew n.id (hs.id_mem_of_mem_shownNodes v hn)

theorem IsSound.find?_shownNodes (hs : d.IsSound) (ids : List Id) (id : Id) :
    (d.shownNodes v ids).find? (·.id = id) =
      if id ∈ ids ∧ v.isVisible id then d.nodes.find? id else none := by
  induction ids with
  | nil => simp [shownNodes, nodesOf]
  | cons first ids ih =>
    rw [shownNodes_cons, List.find?_append, ih]
    cases hn : d.nodes.find? first with
    | none => by_cases hid : id = first <;> simp [hid, hn]
    | some n =>
      have hkey := hs.keyed first n hn
      by_cases hid : id = first
      · cases hv : v.isVisible first <;> simp [hid, hn, hkey, hv, Option.filter_some]
      · cases hv : v.isVisible first <;> simp [hid, Ne.symm hid, hkey, hv, Option.filter_some]

theorem IsSound.find?_reverse_shownNodes (hs : d.IsSound) (id : Id) :
    (d.shownNodes v d.placedIds).reverse.find? (·.id = id) =
      if v.isVisible id then d.nodes.find? id else none := by
  rw [shownNodes_reverse, hs.find?_shownNodes]
  by_cases hid : id ∈ d.placedIds
  · simp [hid]
  · have hnone : d.nodes.find? id = none := by
      rwa [hs.mem_placedIds, OrderedMap.contains, Bool.not_eq_true, Option.isSome_eq_false_iff,
        Option.isNone_iff_eq_none] at hid
    simp [hnone]

variable (hd : d.IsLegible)
include hd

theorem IsLegible.filterMap_node?_subgraphStatements {s : Subgraph} (h : s ∈ d.subgraphs) :
    (d.subgraphStatements v s).filterMap Statement.node? =
      (d.shownNodes v s.members).map Node.declaration := by
  obtain ⟨⟨title, hheader⟩, -⟩ := hd.subgraphs s h
  have hdirection : (s.direction?.toList.map Statement.direction).filterMap
      Statement.node? = [] := by cases s.direction? <;> rfl
  rw [subgraphStatements]
  cases hnodes : d.shownNodes v s.members with
  | nil => rfl
  | cons n nodes =>
    have hhead : ∀ rest : List Statement,
        (Statement.subgraph s.header title :: rest).filterMap Statement.node? =
          rest.filterMap Statement.node? := fun rest ↦ List.filterMap_cons_none rfl
    simp only [hheader.ofCode_eq, List.cons_append, hhead, List.filterMap_append, hdirection,
      List.filterMap_map]
    simp [Function.comp_def, Statement.node?]

theorem IsLegible.filterMap_node?_subgraphs {subgraphs : List Subgraph}
    (hsub : subgraphs ⊆ d.subgraphs) :
    (subgraphs.flatMap (d.subgraphStatements v)).filterMap Statement.node? =
      (d.shownNodes v (subgraphs.flatMap Subgraph.members)).map Node.declaration := by
  induction subgraphs with
  | nil => rfl
  | cons s subgraphs ih =>
    obtain ⟨hs, hsub⟩ := List.cons_subset.1 hsub
    rw [List.flatMap_cons, List.filterMap_append, ih hsub,
      hd.filterMap_node?_subgraphStatements v hs, List.flatMap_cons, shownNodes_append,
      List.map_append]

theorem IsLegible.filterMap_node?_drawnStatements (style : Style) :
    (d.drawnStatements v style).filterMap Statement.node? =
      (d.shownNodes v d.placedIds).map Node.declaration := by
  have hedges : ((d.shownEdges v).map fun e ↦ Statement.ofCode e.line).filterMap
      Statement.node? = [] := by
    rw [List.filterMap_eq_nil_iff, List.forall_mem_map]
    intro e he
    have hquiet := (hd.edges e (List.mem_filter.1 he).1).isQuiet_line
    cases hs : Statement.ofCode e.line <;> simp_all [Statement.isQuiet, Statement.node?]
  have hnone : ∀ {α : Type} (xs : List α), xs.filterMap (fun _ ↦ (none : Option NodeLine)) = [] :=
    fun xs ↦ List.filterMap_eq_nil_iff.2 fun _ _ ↦ rfl
  rw [drawnStatements, placedIds, shownNodes_append, List.map_append,
    ← hd.filterMap_node?_subgraphs v fun _ h ↦ h]
  simp [List.filterMap_append, List.filterMap_map, Function.comp_def, Statement.node?, hedges,
    hnone]

variable (hs : d.IsSound)
include hs

theorem IsLegible.takes_subgraphStatements {s : Subgraph} (h : s ∈ d.subgraphs) {l : Layout}
    (hl : l.current? = none) (hmembers : s.members.Nodup)
    (hnew : ∀ id ∈ s.members, l.nodes.find? id = none) :
    ∃ m, Layout.Takes l (d.subgraphStatements v s) m ∧ m.current? = none ∧
      m.topLevel = l.topLevel ∧ m.subgraphs.map Subgraph.unnamed =
        l.subgraphs.map Subgraph.unnamed ++ frames [s.restrict v] := by
  obtain ⟨⟨title, hheader⟩, -⟩ := hd.subgraphs s h
  have hplaced : s.members ⊆ d.placedIds := fun id hid ↦
    List.mem_append_left _ (List.mem_flatMap.2 ⟨s, h, hid⟩)
  obtain ⟨hids, hnodup, hfresh⟩ := hs.declarations v hplaced hmembers hnew
  rw [subgraphStatements]
  cases hnodes : d.shownNodes v s.members with
  | nil =>
    rw [hnodes] at hids
    refine ⟨l, .nil l, hl, rfl, ?_⟩
    rw [frames_cons_of_nil (s := s.restrict v) hids.symm]
    simp [frames]
  | cons n nodes =>
    rw [hnodes] at hids hnodup hfresh
    obtain ⟨id, registry, hm⟩ := Layout.takes_block hfresh hnodup s.header title s.direction?
    rw [List.map_map, hids] at hm
    rw [hheader.ofCode_eq]
    refine ⟨_, hm, rfl, rfl, ?_⟩
    have hne : s.members.filter v.isVisible ≠ [] := by simp [← hids]
    rw [Layout.subgraphs, Option.toList_none, List.append_nil, List.map_append,
      frames_cons (s := s.restrict v) hne]
    rfl

theorem IsLegible.takes_subgraphs {subgraphs : List Subgraph} (hsub : subgraphs ⊆ d.subgraphs)
    (hnodup : (subgraphs.flatMap Subgraph.members).Nodup) {l : Layout} (hl : l.current? = none)
    (hnew : ∀ id ∈ subgraphs.flatMap Subgraph.members, l.nodes.find? id = none) :
    ∃ m, Layout.Takes l (subgraphs.flatMap (d.subgraphStatements v)) m ∧ m.current? = none ∧
      m.topLevel = l.topLevel ∧ m.subgraphs.map Subgraph.unnamed =
        l.subgraphs.map Subgraph.unnamed ++ frames (subgraphs.map (·.restrict v)) := by
  induction subgraphs generalizing l with
  | nil => exact ⟨l, .nil l, hl, rfl, by simp [frames]⟩
  | cons s subgraphs ih =>
    obtain ⟨hs', hsub⟩ := List.cons_subset.1 hsub
    rw [List.flatMap_cons, List.nodup_append] at hnodup
    obtain ⟨hmembers, hrest, hapart⟩ := hnodup
    rw [List.flatMap_cons, List.forall_mem_append] at hnew
    obtain ⟨k, hk, hkcurrent, hktop, hkframes⟩ :=
      hd.takes_subgraphStatements v hs hs' hl hmembers hnew.1
    have hnew' : ∀ id ∈ subgraphs.flatMap Subgraph.members, k.nodes.find? id = none := by
      intro id hid
      refine hk.find?_eq_none (hnew.2 id hid) ?_
      rw [hd.filterMap_node?_subgraphStatements v hs', List.forall_mem_map]
      exact fun n hn ↦ hapart n.id (hs.id_mem_of_mem_shownNodes v hn) id hid
    obtain ⟨m, hm, hmcurrent, hmtop, hmframes⟩ := ih hsub hrest hkcurrent hnew'
    refine ⟨m, hk.append hm, hmcurrent, hmtop.trans hktop, ?_⟩
    rw [hmframes, hkframes, List.append_assoc, ← frames_append]
    rfl

theorem IsLegible.find?_of_takes {style : Style} {m : Layout}
    (hm : Layout.Takes {} (d.drawnStatements v style) m) (id : Id) :
    (m.nodes.find? id).map Node.unplaced =
      if v.isVisible id then (d.nodes.find? id).map Node.unplaced else none := by
  have hfind := Layout.find?_foldl_step (d.drawnStatements v style) {} id
  have hlast : (((d.shownNodes v d.placedIds).map Node.declaration).reverse.find? (·.id = id)) =
      (if v.isVisible id then d.nodes.find? id else none).map Node.declaration := by
    rw [← hs.find?_reverse_shownNodes v, ← List.map_reverse, List.find?_map]
    rfl
  rw [hm.foldl_eq, hd.filterMap_node?_drawnStatements v style, hlast] at hfind
  rw [hfind]
  split
  · cases hn : d.nodes.find? id with
    | none => rfl
    | some n =>
      have hshape := (hd.nodes id n hn).shape?
      simp [Node.declaration, NodeLine.node, Node.unplaced, hshape]
  · rfl

theorem IsLegible.takes_nodes :
    ∃ m, Layout.Takes {} (d.subgraphs.flatMap (d.subgraphStatements v) ++
        (d.shownNodes v d.topLevel).map fun n ↦ .node n.declaration) m ∧
      m.topLevel = d.topLevel.filter v.isVisible ∧
      m.subgraphs.map Subgraph.unnamed = frames (d.subgraphs.map (·.restrict v)) := by
  obtain ⟨hinside, htop, hapart⟩ := List.nodup_append.1 hs.nodup
  have hsubset : d.subgraphs ⊆ d.subgraphs := fun _ h ↦ h
  obtain ⟨k, hk, hkcurrent, hktop, hkframes⟩ :=
    hd.takes_subgraphs v hs hsubset hinside (l := {}) rfl fun _ _ ↦ rfl
  have hplaced : d.topLevel ⊆ d.placedIds := fun _ h ↦ List.mem_append_right _ h
  have hnew : ∀ id ∈ d.topLevel, k.nodes.find? id = none := by
    intro id hid
    refine hk.find?_eq_none rfl ?_
    rw [hd.filterMap_node?_subgraphs v hsubset, List.forall_mem_map]
    exact fun n hn ↦ hapart n.id (hs.id_mem_of_mem_shownNodes v hn) id hid
  obtain ⟨hids, hnodup, hfresh⟩ := hs.declarations v hplaced htop hnew
  obtain ⟨registry, hm⟩ := Layout.takes_topLevel hfresh hnodup hkcurrent
  rw [List.map_map, hids, hktop] at hm
  exact ⟨_, hk.append hm, rfl, hkframes⟩

theorem IsLegible.takes_drawnStatements (style : Style) :
    ∃ m, Layout.Takes {} (d.drawnStatements v style) m ∧
      m.topLevel = d.topLevel.filter v.isVisible ∧
      frames m.subgraphs = frames (d.subgraphs.map (·.restrict v)) ∧
      frames (d.subgraphs.map (·.restrict v)) <+: m.subgraphs.map Subgraph.unnamed ∧
      ∀ id, (m.nodes.find? id).map Node.unplaced =
        if v.isVisible id then (d.nodes.find? id).map Node.unplaced else none := by
  obtain ⟨k, hk, hktop, hkframes⟩ := hd.takes_nodes v hs
  have hquiet : ∀ s ∈ (d.shownMemberships v).map .membership ++
      ((d.clickSection v style).map (fun _ ↦ .click) ++
        (d.shownEdges v).map fun e ↦ Statement.ofCode e.line), s.isQuiet := by
    simp only [List.forall_mem_append, List.forall_mem_map]
    refine ⟨fun _ _ ↦ rfl, fun _ _ ↦ rfl, fun e he ↦ ?_⟩
    exact (hd.edges e (List.mem_filter.1 he).1).isQuiet_line
  obtain ⟨m, hm, hmtop, hprefix, hmframes⟩ := Layout.takes_quiet hquiet k
  have hall : Layout.Takes {} (d.drawnStatements v style) m := by
    rw [drawnStatements, ← List.append_assoc (d.subgraphs.flatMap _)]
    exact (Layout.takes_styleClasses d.styleClasses {}).append (hk.append hm)
  exact ⟨m, hall, hmtop.trans hktop, hmframes.trans (frames_eq_of_map_unnamed hkframes),
    hkframes ▸ hprefix.map _, hd.find?_of_takes v hs hall⟩

end Diagram

end FlowchartView

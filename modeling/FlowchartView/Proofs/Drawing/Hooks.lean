import FlowchartView.Proofs.Drawing.Containers

namespace FlowchartView

open Text

def OccursBefore {α : Type} [DecidableEq α] (l : List α) (a b : α) : Prop := l.idxOf a < l.idxOf b

namespace Diagram

def looseEnds (d : Diagram) (v : Visibility) : List Id :=
  ((d.shownEdges v).flatMap Edge.endpoints).filter (!d.nodes.contains ·)

/-- `ids` are what a drawing shows, each once: first the nodes, in the order of the containers, then
the other ends of edges, in the order in which the edges name them. -/
structure ListsShown (d : Diagram) (v : Visibility) (ids : List Id) : Prop where
  nodup : ids.Nodup
  mem_iff : ∀ id, id ∈ ids ↔
    (d.nodes.contains id ∧ v.isVisible id) ∨ ∃ e ∈ d.shownEdges v, id ∈ e.endpoints
  isVisible : ∀ id ∈ ids, v.isVisible id
  order : ∃ others, ids = (d.placedNodes.map Node.id).filter v.isVisible ++ others ∧
    (∀ id ∈ others, d.nodes.contains id = false) ∧
    others.Pairwise (OccursBefore ((d.shownEdges v).flatMap Edge.endpoints))

theorem mem_looseEnds {d : Diagram} {v : Visibility} {id : Id} : id ∈ d.looseEnds v ↔
    (∃ e ∈ d.shownEdges v, id ∈ e.endpoints) ∧ d.nodes.contains id = false := by
  rw [looseEnds, List.mem_filter, List.mem_flatMap, Bool.not_eq_true']

theorem pairwise_distinct_looseEnds (d : Diagram) (v : Visibility) :
    (distinct (d.looseEnds v)).Pairwise
      (OccursBefore ((d.shownEdges v).flatMap Edge.endpoints)) := by
  rw [looseEnds, ← filter_distinct]
  exact (pairwise_idxOf_distinct _).filter _

section

variable {d : Diagram} (hs : d.IsSound) (v : Visibility)
include hs

/-- No loose end is placed, so that the ids of nodes and the loose ends do not meet. -/
theorem IsSound.clickableIds_eq_append :
    d.clickableIds v = d.placedIds.filter v.isVisible ++ distinct (d.looseEnds v) := by
  have hnodup : (d.placedIds.filter v.isVisible).Nodup := hs.nodup.sublist List.filter_sublist
  have hapart : ∀ id ∈ d.looseEnds v, id ∉ d.placedIds.filter v.isVisible := by
    intro id hid hplaced
    have hcontains := (hs.mem_placedIds id).1 (List.mem_filter.1 hplaced).1
    rw [(mem_looseEnds.1 hid).2] at hcontains
    cases hcontains
  rw [clickableIds, hs.map_id_shownNodes v (List.Subset.refl _), ← looseEnds,
    distinct_append_of_disjoint hnodup hapart]

theorem IsSound.mem_clickableIds {id : Id} : id ∈ d.clickableIds v ↔
    (d.nodes.contains id ∧ v.isVisible id) ∨ ∃ e ∈ d.shownEdges v, id ∈ e.endpoints := by
  rw [hs.clickableIds_eq_append, List.mem_append, List.mem_filter, hs.mem_placedIds, mem_distinct,
    mem_looseEnds]
  constructor
  · rintro (hnode | hloose)
    · exact .inl hnode
    · exact .inr hloose.1
  · rintro (hnode | ⟨e, he, hid⟩)
    · exact .inl hnode
    · cases hcontains : d.nodes.contains id with
      | true => exact .inl ⟨rfl, isVisible_of_mem_endpoints he hid⟩
      | false => exact .inr ⟨⟨e, he, hid⟩, rfl⟩

theorem IsSound.listsShown_clickableIds : d.ListsShown v (d.clickableIds v) where
  nodup := nodup_distinct _
  mem_iff _ := hs.mem_clickableIds v
  isVisible id hid := by
    rcases (hs.mem_clickableIds v).1 hid with hnode | ⟨e, he, hend⟩
    · exact hnode.2
    · exact isVisible_of_mem_endpoints he hend
  order := by
    refine ⟨distinct (d.looseEnds v), ?_, ?_, d.pairwise_distinct_looseEnds v⟩
    · rw [placedNodes, hs.map_id_nodesOf (List.Subset.refl _), hs.clickableIds_eq_append]
    · exact fun id hid ↦ (mem_looseEnds.1 (mem_distinct.1 hid)).2

end

def linesBeforeHooks (d : Diagram) (v : Visibility) (style : Style) : List Text :=
  (if d.frontMatter.isEmpty then [] else d.frontMatter ++ [[]]) ++ d.heading style ::
    ((d.styleClasses.map fun c ↦ style.indent ++ c.line) ++
      setApart (d.subgraphs.map (d.subgraphSection v style) ++
        [d.topLevelSection v style, d.classSection v style]))

theorem drawing_eq_append (d : Diagram) (v : Visibility) (style : Style) :
    d.drawing v style = d.linesBeforeHooks v style ++
      setApart [d.clickSection v style, d.edgeSection v style] := by
  have hsections : d.subgraphs.map (d.subgraphSection v style) ++ [d.topLevelSection v style,
      d.classSection v style, d.clickSection v style, d.edgeSection v style] =
      (d.subgraphs.map (d.subgraphSection v style) ++
        [d.topLevelSection v style, d.classSection v style]) ++
        [d.clickSection v style, d.edgeSection v style] := by simp
  rw [drawing_eq, bodyLines, hsections, setApart_append, linesBeforeHooks]
  simp only [List.append_assoc, List.cons_append]

/-- What stands in front of hooks and edges is the whole drawing when there are none. -/
theorem drawing_edges_nil (d : Diagram) (v : Visibility) (style : Style) :
    ({ d with edges := [] } : Diagram).drawing v { style with clickHooks := false } =
      d.linesBeforeHooks v style := by
  rw [drawing_eq_append]
  exact List.append_nil _

/-- The hooks are the lines that a style with hooks adds, and there is one for each id that the
drawing shows. -/
theorem hooks_of_render (source : Text) (v : Visibility) {style : Style}
    (hhooks : style.clickHooks) :
    (ofText source).ListsShown v ((ofText source).clickableIds v) ∧ ∃ before,
      (ofText source).render v style = .ok (joinLines (before ++ setApart [
        ((ofText source).clickableIds v).map fun id ↦
          style.indent ++ clickLine id style.clickCallback,
        ((ofText source).shownEdges v).map fun e ↦ style.indent ++ e.line])) ∧
      (ofText source).render v { style with clickHooks := false } =
        .ok (joinLines (before ++ setApart [
          ((ofText source).shownEdges v).map fun e ↦ style.indent ++ e.line])) := by
  have hs := isSound_ofText source
  refine ⟨hs.listsShown_clickableIds v, (ofText source).linesBeforeHooks v style, ?_, ?_⟩
  · rw [hs.render_eq, draw, drawing_eq_append, clickSection, if_pos hhooks]
    rfl
  · rw [hs.render_eq, draw, drawing_eq_append]
    rfl

/-- `B` is placed before `A`, edges name the loose end `D` twice, and with the hidden `C` goes the
edge that leads from it to `E`. -/
theorem hooks_of_render_loose :
    let source := "graph\nC --> E\nD --> A\nsubgraph S\nB[b]\nend\nA[a]\nC[c]\nB --> D".toList
    let v : Visibility := ⟨.ofKeys [['C']] false⟩
    ({} : Style).clickHooks ∧ (ofText source).clickableIds v = [['B'], ['A'], ['D']] ∧
      (ofText source).ListsShown v [['B'], ['A'], ['D']] ∧ ∃ before,
        (ofText source).render v {} = .ok (joinLines (before ++
          [[], "    click B onNodeClick".toList, "    click A onNodeClick".toList,
            "    click D onNodeClick".toList, [], "    D --> A".toList, "    B --> D".toList])) ∧
        (ofText source).render v { clickHooks := false } =
          .ok (joinLines (before ++ [[], "    D --> A".toList, "    B --> D".toList])) := by
  intro source v
  have hids : (ofText source).clickableIds v = [['B'], ['A'], ['D']] := by decide +kernel
  have hedges : ((ofText source).shownEdges v).map (fun e ↦ ({} : Style).indent ++ e.line) =
      ["    D --> A".toList, "    B --> D".toList] := by decide +kernel
  have hhooks : ({} : Style).clickHooks := rfl
  obtain ⟨hlists, before, hon, hoff⟩ := hooks_of_render source v hhooks
  rw [hids] at hlists hon
  rw [hedges] at hon hoff
  exact ⟨hhooks, hids, hlists, before, hon, hoff⟩

end Diagram

end FlowchartView

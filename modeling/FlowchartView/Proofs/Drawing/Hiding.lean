import FlowchartView.Proofs.Drawing.Reread
import FlowchartView.Proofs.Visibility

namespace FlowchartView

open Text

theorem setApart_eq_nil {sections : List (List Text)} (h : ∀ lines ∈ sections, lines = []) :
    setApart sections = [] := by
  have hnone : sections.filter (!·.isEmpty) = [] := by
    rw [List.filter_eq_nil_iff]
    intro lines hlines
    simp [h lines hlines]
  rw [setApart, hnone]
  rfl

theorem setApart_singleton_eq_nil {lines : List Text} : setApart [lines] = [] ↔ lines = [] := by
  cases lines <;> simp [setApart]

theorem Text.joinLines_append_eq_left {lines more : List Text} :
    joinLines (lines ++ more) = joinLines lines ↔ more = [] := by
  rw [joinLines, joinLines, List.flatMap_append, List.append_right_eq_self]
  cases more <;> simp

namespace Visibility

variable {d : Diagram} {r : Reachability} {changes : List Change} {id : Id}

/-- The diagram does not know the id, and no command targets it. -/
def isUntouched (d : Diagram) (r : Reachability) (changes : List Change) (id : Id) : Bool :=
  !d.allIds.contains id && changes.all fun c ↦ !(c.targets r).contains id

theorem isUntouched_eq_false : isUntouched d r changes id = false ↔
    id ∈ d.allIds ∨ ∃ c ∈ changes, id ∈ c.targets r := by
  rw [isUntouched, Bool.and_eq_false_iff, Bool.not_eq_false', List.contains_iff_mem]
  simp

theorem isVisible_applyAll_hideAll : ((ofDiagram d).applyAll r (changes ++ [.hideAll])).isVisible =
    isUntouched d r changes := by
  funext id
  have hlast : (ofDiagram d).applyAll r (changes ++ [.hideAll]) =
      ((ofDiagram d).applyAll r changes).hideAll := by
    rw [applyAll, List.foldl_append]
    rfl
  have hholds : ((ofDiagram d).applyAll r changes).holds id ↔
      isUntouched d r changes id = false := by
    rw [holds_applyAll, holds_ofDiagram, isUntouched_eq_false]
  rw [hlast, isVisible_hideAll]
  cases hid : isUntouched d r changes id with
  | false => rw [hholds.2 hid, Bool.not_true]
  | true =>
    rw [Bool.not_eq_true', Bool.eq_false_iff, Ne, hholds, hid]
    decide

end Visibility

namespace Diagram

/-- Front matter, directive and style classes, which no visibility touches. -/
def fixedLines (d : Diagram) (style : Style) : List Text :=
  (if d.frontMatter.isEmpty then [] else d.frontMatter ++ [[]]) ++
    d.directive?.getD style.defaultDirective :: d.styleClasses.map fun c ↦ style.indent ++ c.line

def membershipsOf (d : Diagram) (p : Id → Bool) : List ClassMembership :=
  (d.memberships.map fun a ↦ { a with ids := a.ids.filter p }).filter fun a ↦ !a.ids.isEmpty

theorem membershipsOf_eq_nil {d : Diagram} {p : Id → Bool} :
    d.membershipsOf p = [] ↔ ∀ a ∈ d.memberships, ∀ id ∈ a.ids, p id = false := by
  simp [membershipsOf, List.filter_eq_nil_iff]

section

variable {d : Diagram} {v : Visibility} (hhidden : ∀ id ∈ d.allIds, v.isVisible id = false)
include hhidden

theorem shownEdges_eq_nil : d.shownEdges v = [] := by
  rw [shownEdges, List.filter_eq_nil_iff]
  intro e he
  simp [hhidden e.left (mem_allIds.2 (.inr ⟨e, he, .inl rfl⟩))]

theorem IsSound.shownNodes_eq_nil (hs : d.IsSound) (ids : List Id) : d.shownNodes v ids = [] := by
  rw [List.eq_nil_iff_forall_not_mem]
  intro n hn
  obtain ⟨hn, hvisible⟩ := List.mem_filter.1 hn
  have hkeyed : d.IsKeyed := hs.keyed
  rw [hhidden n.id (hkeyed.id_mem_allIds hn)] at hvisible
  cases hvisible

theorem IsLegible.drawing_eq_of_hidden (hd : d.IsLegible) (hs : d.IsSound) (style : Style) :
    d.drawing v style = d.fixedLines style ++
      setApart [(d.membershipsOf v.isVisible).map fun a ↦ style.indent ++ a.line] := by
  have hnodes := hs.shownNodes_eq_nil hhidden
  have hedges := shownEdges_eq_nil hhidden
  have hsubgraphs : setApart (d.subgraphs.map (d.subgraphSection v style)) = [] := by
    refine setApart_eq_nil fun lines hlines ↦ ?_
    obtain ⟨s, -, rfl⟩ := List.mem_map.1 hlines
    rw [subgraphSection, hnodes]
  have htop : d.topLevelSection v style = [] := by rw [topLevelSection, hnodes, List.map_nil]
  have hclickable : d.clickableIds v = [] := by
    rw [clickableIds, hnodes, hedges]
    rfl
  have hclick : d.clickSection v style = [] := by
    rw [clickSection, hclickable, List.map_nil, ite_self]
  have hedge : d.edgeSection v style = [] := by rw [edgeSection, hedges, List.map_nil]
  have hlast : setApart [[], d.classSection v style, [], []] =
      setApart [d.classSection v style] := by
    rw [setApart_nil_cons, ← List.singleton_append, setApart_append, setApart_nil_cons,
      setApart_nil_cons]
    exact List.append_nil _
  rw [drawing_eq, bodyLines, setApart_append, hsubgraphs, htop, hclick, hedge, hlast,
    List.nil_append, hd.heading_eq, fixedLines, List.append_assoc, List.cons_append]
  rfl

end

/-- Hiding everything, whatever was done before, leaves the fixed lines and the memberships of
untouched ids. -/
theorem render_after_hideAll (source : Text) (r : Reachability)
    (changes : List Visibility.Change) (style : Style) :
    ∃ text, (ofText source).render
        ((Visibility.ofDiagram (ofText source)).applyAll r (changes ++ [.hideAll])) style =
          .ok text ∧
      text = joinLines ((ofText source).fixedLines style ++
        setApart [((ofText source).membershipsOf
          (Visibility.isUntouched (ofText source) r changes)).map fun a ↦
            style.indent ++ a.line]) ∧
      (text = joinLines ((ofText source).fixedLines style) ↔
        ∀ a ∈ (ofText source).memberships, ∀ id ∈ a.ids,
          id ∈ (ofText source).allIds ∨ ∃ c ∈ changes, id ∈ c.targets r) := by
  have hs := isSound_ofText source
  have hvisible : ((Visibility.ofDiagram (ofText source)).applyAll r
      (changes ++ [.hideAll])).isVisible = Visibility.isUntouched (ofText source) r changes :=
    Visibility.isVisible_applyAll_hideAll
  have hhidden : ∀ id ∈ (ofText source).allIds,
      Visibility.isUntouched (ofText source) r changes id = false :=
    fun id hid ↦ Visibility.isUntouched_eq_false.2 (.inl hid)
  rw [← hvisible] at hhidden
  have hdrawing := (isLegible_ofText source).drawing_eq_of_hidden hhidden hs style
  rw [hvisible] at hdrawing
  refine ⟨_, hs.render_eq _ style, ?_, ?_⟩
  · rw [draw, hdrawing]
  · rw [draw, hdrawing, joinLines_append_eq_left, setApart_singleton_eq_nil, List.map_eq_nil_iff,
      membershipsOf_eq_nil]
    simp only [Visibility.isUntouched_eq_false]

/-- `X` is only listed by a class line, so it has no flag. -/
theorem not_render_after_hideAll :
    ¬∀ (source : Text) (changes : List Visibility.Change) (style : Style),
      (ofText source).render ((Visibility.ofDiagram (ofText source)).applyAll
        (.ofDiagram (ofText source)) (changes ++ [.hideAll])) style =
          .ok (joinLines ((ofText source).fixedLines style)) := by
  intro h
  have hdrawn := h "graph\nclass X b".toList [] {}
  rw [(isSound_ofText _).render_eq] at hdrawn
  have htext := Except.ok.inj hdrawn
  revert htext
  decide +kernel

end Diagram

end FlowchartView

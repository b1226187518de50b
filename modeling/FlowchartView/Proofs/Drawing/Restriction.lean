import FlowchartView.Proofs.Drawing.Composition

namespace FlowchartView

namespace Diagram

theorem isKeyed_iff {d : Diagram} : d.IsKeyed ↔ ∀ e ∈ d.nodes.entries, e.2.id = e.1 := by
  constructor
  · exact fun h e he ↦ h e.1 e.2 (OrderedMap.mem_entries.1 he)
  · exact fun h id n hn ↦ h (id, n) (OrderedMap.mem_entries.2 hn)

instance (d : Diagram) : Decidable d.IsDrawable :=
  decidable_of_iff ((∀ e ∈ d.nodes.entries, e.2.id = e.1) ∧ ∀ id ∈ d.placedIds, d.nodes.contains id)
    ⟨fun h ↦ ⟨isKeyed_iff.2 h.1, h.2⟩, fun h ↦ ⟨isKeyed_iff.1 h.keyed, h.registered⟩⟩

/-- Registry, containers and class lines keep the visible ids; an edge stays if both of its ends
do. -/
def restrict (d : Diagram) (v : Visibility) : Diagram :=
  { d with
    subgraphs := d.subgraphs.map (·.restrict v)
    topLevel := d.topLevel.filter v.isVisible
    nodes := d.nodes.filter v.isVisible
    edges := d.shownEdges v
    memberships := d.memberships.map fun a ↦ { a with ids := a.ids.filter v.isVisible } }

/-- The diagrams agree but for hidden ids: what these are labelled, how they are shaped, which edges
they have and which class lines list them. -/
structure LooksLike (e d : Diagram) (v : Visibility) : Prop where
  frontMatter : e.frontMatter = d.frontMatter
  directive? : e.directive? = d.directive?
  styleClasses : e.styleClasses = d.styleClasses
  subgraphs : e.subgraphs.map (·.restrict v) = d.subgraphs.map (·.restrict v)
  topLevel : e.topLevel.filter v.isVisible = d.topLevel.filter v.isVisible
  nodes : ∀ id, v.isVisible id →
    (e.nodes.find? id).map Node.unplaced = (d.nodes.find? id).map Node.unplaced
  edges : e.shownEdges v = d.shownEdges v
  memberships : e.shownMemberships v = d.shownMemberships v

theorem LooksLike.refl (d : Diagram) (v : Visibility) : d.LooksLike d v :=
  ⟨rfl, rfl, rfl, rfl, rfl, fun _ _ ↦ rfl, rfl, rfl⟩

section

variable {e d : Diagram} {v : Visibility} (h : e.LooksLike d v)
include h

theorem LooksLike.isViewOf : (d.restrict v).IsViewOf e v where
  nodes id := by
    rw [restrict, OrderedMap.find?_filter]
    split
    · next hid => rw [h.nodes id hid]
    · rfl
  topLevel := h.topLevel.symm
  frames := by
    rw [h.subgraphs]
    rfl

variable {w : Visibility} (hw : ∀ id, w.isVisible id)
include hw

theorem LooksLike.draw_eq (hk : e.IsKeyed) (style : Style) :
    e.draw v style = (d.restrict v).draw w style := by
  have hand : ∀ id, v.isVisible id = (v.isVisible id && w.isVisible id) := fun id ↦ by
    rw [hw, Bool.and_true]
  have hids : ∀ ids : List Id, (ids.filter v.isVisible).filter w.isVisible =
      ids.filter v.isVisible := fun ids ↦ List.filter_eq_self.2 fun id _ ↦ hw id
  have hmemberships : (d.restrict v).shownMemberships w = e.shownMemberships v := by
    rw [h.memberships, shownMemberships, shownMemberships, restrict, List.map_map]
    simp only [Function.comp_def, hids]
  have hheading : (d.restrict v).heading style = e.heading style := by
    rw [heading, heading, h.directive?]
    rfl
  exact (h.isViewOf.draw_eq hk hand h.edges.symm hmemberships h.frontMatter.symm hheading
    h.styleClasses.symm).symm

end

theorem IsDrawable.restrict {d : Diagram} (hd : d.IsDrawable) (v : Visibility) :
    (d.restrict v).IsDrawable := by
  have hview := (LooksLike.refl d v).isViewOf
  constructor
  · intro id n hn
    rw [Diagram.restrict, OrderedMap.find?_filter, Option.ite_none_right_eq_some] at hn
    exact hd.keyed id n hn.2
  · intro id hid
    rw [hview.placedIds_eq, List.mem_filter] at hid
    rw [hview.contains_eq, hid.2, hd.registered id hid.1]
    rfl

/-- A drawing is the drawing of all that is visible. What hidden ids are, and what is said of them,
has no part in it. -/
theorem render_restrict {d : Diagram} (hd : d.IsDrawable) (v : Visibility) (style : Style) :
    ∃ text, d.render v style = .ok text ∧
      (∀ w : Visibility, (∀ id, w.isVisible id) → (d.restrict v).render w style = .ok text) ∧
      ∀ e : Diagram, e.IsDrawable → e.LooksLike d v → e.render v style = .ok text := by
  have hall : ∀ id, (⟨.empty⟩ : Visibility).isVisible id := fun _ ↦ rfl
  refine ⟨d.draw v style, hd.render_eq v style, fun w hw ↦ ?_, fun e he hlike ↦ ?_⟩
  · rw [(hd.restrict v).render_eq, (LooksLike.refl d v).draw_eq hw hd.keyed]
  · rw [he.render_eq, hlike.draw_eq hall he.keyed, (LooksLike.refl d v).draw_eq hall hd.keyed]

/-- Two containers list the visible `A`, and one of them the hidden `B`; the other diagram gives `B`
a label, a shape and an edge of its own. -/
theorem render_restrict_overlap :
    let a : Node := { id := ['A'], label := ['a'] }
    let d : Diagram :=
      { subgraphs := [⟨['S'], "subgraph S".toList, [['A'], ['B']], none⟩]
        topLevel := [['A']]
        nodes := .ofList [(['A'], a), (['B'], { id := ['B'], label := ['b'] })]
        edges := [⟨['A'], "-->".toList, ['C']⟩, ⟨['A'], "-->".toList, ['B']⟩] }
    let e : Diagram :=
      { d with
        nodes := d.nodes.insert ['B'] { id := ['B'], label := ['x'], shape? := some .circle }
        edges := ⟨['B'], ['=', '='], ['A']⟩ :: d.edges }
    let v : Visibility := ⟨.ofKeys [['B']] false⟩
    d.IsDrawable ∧ e.IsDrawable ∧ e.LooksLike d v ∧ ∃ text, d.render v {} = .ok text ∧
      (d.restrict v).render (.ofDiagram (d.restrict v)) {} = .ok text ∧
      e.render v {} = .ok text := by
  intro a d e v
  have hd : d.IsDrawable := by decide +kernel
  have he : e.IsDrawable := by decide +kernel
  have hlike : e.LooksLike d v := by
    refine ⟨rfl, rfl, rfl, rfl, rfl, fun id hid ↦ ?_, by decide +kernel, rfl⟩
    have hne : ¬['B'] = id := by
      rintro rfl
      cases hid
    rw [OrderedMap.find?_insert, if_neg hne]
  obtain ⟨text, htext, hrestrict, hlikes⟩ := render_restrict hd v {}
  exact ⟨hd, he, hlike, text, htext, hrestrict _ (Visibility.isVisible_ofIds _), hlikes e he hlike⟩

end Diagram

end FlowchartView

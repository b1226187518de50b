import FlowchartView.Proofs.Diagram.Placement

namespace FlowchartView.Diagram

def Mentions (d : Diagram) (id : Id) : Prop :=
  id ∈ d.allIds ∨ ∃ a ∈ d.memberships, id ∈ a.ids

instance (d : Diagram) (id : Id) : Decidable (d.Mentions id) :=
  inferInstanceAs (Decidable (_ ∨ _))

section

variable {d : Diagram} {v w : Visibility}
  (h : ∀ id, d.Mentions id → v.isVisible id = w.isVisible id)
include h

theorem shownNodes_congr (hk : d.IsKeyed) (ids : List Id) :
    d.shownNodes v ids = d.shownNodes w ids := by
  apply List.filter_congr
  intro n hn
  exact h n.id (.inl (hk.id_mem_allIds hn))

theorem shownEdges_congr : d.shownEdges v = d.shownEdges w := by
  apply List.filter_congr
  intro e he
  have hleft := h e.left (.inl (mem_allIds.2 (.inr ⟨e, he, .inl rfl⟩)))
  have hright := h e.right (.inl (mem_allIds.2 (.inr ⟨e, he, .inr rfl⟩)))
  rw [hleft, hright]

theorem shownMemberships_congr : d.shownMemberships v = d.shownMemberships w := by
  have hids : ∀ a ∈ d.memberships, a.ids.filter v.isVisible = a.ids.filter w.isVisible := by
    intro a ha
    apply List.filter_congr
    intro id hid
    exact h id (.inr ⟨a, ha, hid⟩)
  rw [shownMemberships, shownMemberships]
  congr 1
  apply List.map_congr_left
  intro a ha
  rw [hids a ha]

/-- What is visible beyond the ids that the diagram mentions has no part in its drawing. -/
theorem draw_congr (hk : d.IsKeyed) (style : Style) : d.draw v style = d.draw w style := by
  have hnodes := shownNodes_congr h hk
  have hedges := shownEdges_congr h
  have hsubgraphs : d.subgraphSection v style = d.subgraphSection w style := by
    funext s
    rw [subgraphSection, subgraphSection, hnodes]
  have hclickable : d.clickableIds v = d.clickableIds w := by
    rw [clickableIds, clickableIds, hnodes, hedges]
  rw [draw, draw, drawing, drawing, sections, sections, hsubgraphs, topLevelSection,
    topLevelSection, hnodes, classSection, classSection, shownMemberships_congr h, clickSection,
    clickSection, hclickable, edgeSection, edgeSection, hedges]

end

end FlowchartView.Diagram

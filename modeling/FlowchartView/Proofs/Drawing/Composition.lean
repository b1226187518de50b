import FlowchartView.Drawing.Filter
import FlowchartView.Proofs.Drawing.Reread
import FlowchartView.Proofs.OrderedMap

namespace FlowchartView

open Text

theorem Visibility.isVisible_ofIds (ids : List Id) (id : Id) : (ofIds ids).isVisible id = true := by
  rw [isVisible, ofIds, OrderedMap.find?_ofKeys]
  split <;> rfl

theorem Diagram.isVisible_hiding (d : Diagram) (hidden : List Id) (id : Id) :
    (Diagram.hiding d hidden).isVisible id = decide (id ∉ hidden) := by
  rw [Diagram.hiding, Visibility.isVisible_setAll, Visibility.ofDiagram, Visibility.isVisible_ofIds]
  by_cases h : id ∈ hidden <;> simp [h]

theorem Diagram.IsLegible.draw_ofText_draw {d : Diagram} (hd : d.IsLegible) (hs : d.IsSound)
    (hclosed : IsClosedFrontMatter d.frontMatter) {style : Style} (hstyle : style.IsReadable)
    {v w u : Visibility} (hedges : ∀ e ∈ d.shownEdges v, spellsStatement e.left = false)
    (hu : ∀ id, u.isVisible id = (v.isVisible id && w.isVisible id)) :
    (ofText (d.draw v style)).draw w style = d.draw u style := by
  obtain ⟨r, hr, hview, hrfront, hrdirective, hredges, hrstyles, hrmemberships, -⟩ :=
    hd.ofText_draw v style hs hclosed hstyle
  obtain ⟨hstyles, hmemberships⟩ := hd.classes_drawnStatements v style hedges
  have hheading : r.heading style = d.heading style := by
    have hdirective := (hd.heading_spec style hstyle).2.1
    rw [heading, hrdirective]
    cases hc : d.heading style with
    | nil =>
      rw [hc] at hdirective
      cases hdirective
    | cons c s => rfl
  have hkept : r.edges = d.shownEdges v := by
    rw [hredges, hd.edges_drawnStatements, List.filter_eq_self]
    exact fun e he ↦ by rw [hedges e he]; rfl
  have hshown := IsViewOf.shownMemberships_eq hu (hrmemberships.trans hmemberships)
  rw [hr]
  exact hview.draw_eq hs.keyed hu hkept hshown hrfront hheading (hrstyles.trans hstyles)

/-- Hiding ids of a text and then ids of the drawing is hiding all of them at once. Front matter has
to be closed, and no edge may start with the keyword of a statement. -/
theorem filterText_filterText (source : Text) (hidden more : List Id) {style : Style}
    (hstyle : style.IsReadable) (hfront : leavesFrontMatterOpen source = false)
    (hedges : ∀ e ∈ (Diagram.ofText source).edges, spellsStatement e.left = false) :
    filterText (filterText source hidden style) more style =
      filterText source (hidden ++ more) style := by
  have hshown : ∀ v, ∀ e ∈ (Diagram.ofText source).shownEdges v,
      spellsStatement e.left = false := fun v e he ↦ hedges e (List.mem_filter.1 he).1
  refine (Diagram.isLegible_ofText source).draw_ofText_draw (Diagram.isSound_ofText source)
    (isClosedFrontMatter_ofText hfront) hstyle (hshown _) fun id ↦ ?_
  simp [Diagram.isVisible_hiding]

theorem filterText_filterText_chain :
    let source := "graph\nA-->B\nB-->C".toList
    Style.IsReadable {} ∧ leavesFrontMatterOpen source = false ∧
      (∀ e ∈ (Diagram.ofText source).edges, spellsStatement e.left = false) ∧
      filterText (filterText source [['C']] {}) [['A']] {} =
        filterText source [['C'], ['A']] {} :=
  ⟨Style.isReadable_default, by decide, by decide,
    filterText_filterText _ [['C']] [['A']] Style.isReadable_default (by decide) (by decide)⟩

end FlowchartView

import FlowchartView.Proofs.Drawing.Reread

namespace FlowchartView

open Text

namespace Diagram

variable (source : Text) (v : Visibility) {style : Style}

theorem render_ofText (style : Style) :
    (ofText source).render v style = .ok ((ofText source).draw v style) :=
  (isSound_ofText source).render_eq v style

theorem isViewOf_draw (hstyle : style.IsReadable) :
    (ofText ((ofText source).draw v style)).IsViewOf (ofText source) v ∧
      (ofText ((ofText source).draw v style)).dropped = [] := by
  cases hopen : leavesFrontMatterOpen source with
  | false =>
    have hd := isLegible_ofText source
    obtain ⟨r, hr, hview, -, -, -, -, -, hdropped, -⟩ := hd.ofText_draw v style
      (isSound_ofText source) (isClosedFrontMatter_ofText hopen) hstyle
    rw [hr]
    exact ⟨hview, hdropped⟩
  | true =>
    rw [ofText_draw_of_open hopen v hstyle, ofText_of_leavesFrontMatterOpen hopen]
    exact ⟨⟨fun id ↦ by simp, rfl, rfl⟩, rfl⟩

/-- A drawing that is read again drops no line and gives the visible nodes, with their labels and
shapes, in the containers they had. -/
theorem nodes_of_render (hstyle : style.IsReadable) :
    ∃ text, (ofText source).render v style = .ok text ∧ (ofText text).dropped = [] ∧
      (ofText text).IsViewOf (ofText source) v ∧
      (ofText text).placedNodes.map Node.unplaced =
        ((ofText source).placedNodes.filter fun n ↦ v.isVisible n.id).map Node.unplaced := by
  obtain ⟨hview, hdropped⟩ := isViewOf_draw source v hstyle
  exact ⟨_, render_ofText source v style, hdropped, hview,
    hview.placedNodes_eq (isSound_ofText source)⟩

theorem nodes_of_render_subgraph :
    let source := "graph\nsubgraph S\nA[a]\nB(b)".toList
    let v : Visibility := ⟨.ofKeys [['B']] false⟩
    Style.IsReadable {} ∧ ∃ text, (ofText source).render v {} = .ok text ∧
      (ofText text).dropped = [] ∧ (ofText text).IsViewOf (ofText source) v ∧
      (ofText text).placedNodes.map Node.unplaced =
        ((ofText source).placedNodes.filter fun n ↦ v.isVisible n.id).map Node.unplaced :=
  ⟨Style.isReadable_default, nodes_of_render _ _ Style.isReadable_default⟩

theorem edges_ofText_draw (hstyle : style.IsReadable) :
    (ofText ((ofText source).draw v style)).edges =
      ((ofText source).shownEdges v).filter (!spellsStatement ·.left) := by
  cases hopen : leavesFrontMatterOpen source with
  | false =>
    have hd := isLegible_ofText source
    obtain ⟨r, hr, -, -, -, hedges, -⟩ := hd.ofText_draw v style (isSound_ofText source)
      (isClosedFrontMatter_ofText hopen) hstyle
    rw [hr, hedges, hd.edges_drawnStatements]
  | true =>
    rw [ofText_draw_of_open hopen v hstyle, ofText_of_leavesFrontMatterOpen hopen]
    rfl

/-- A drawing that is read again gives the visible edges in order, without those whose left id
is the keyword of a statement once a blank stands behind it. -/
theorem edges_of_render :
    ∃ text, (ofText source).render v {} = .ok text ∧
      (ofText text).edges = ((ofText source).shownEdges v).filter (!spellsStatement ·.left) ∧
      ((ofText text).edges = (ofText source).shownEdges v ↔
        ∀ e ∈ (ofText source).shownEdges v, spellsStatement e.left = false) := by
  have hedges := edges_ofText_draw source v Style.isReadable_default
  refine ⟨_, render_ofText source v {}, hedges, ?_⟩
  rw [hedges, List.filter_eq_self]
  simp

/-- The blank that a drawing puts behind `class` costs the edge. -/
example :
    let source := "graph\nclass-->B".toList
    (ofText source).edges = [⟨"class".toList, "-->".toList, ['B']⟩] ∧
      (ofText ((ofText source).draw ⟨.empty⟩ {})).edges = [] := by decide +kernel

/-- A drawing that is read again gives the front matter, and the directive of the source or else of
the style. Front matter that was left open goes on through the drawn directive. -/
theorem preamble_of_render (hstyle : style.IsReadable) :
    ∃ text, (ofText source).render v style = .ok text ∧
      (leavesFrontMatterOpen source = false →
        (ofText text).frontMatter = (ofText source).frontMatter ∧
        (ofText text).directive? =
          some ((ofText source).directive?.getD style.defaultDirective)) ∧
      (leavesFrontMatterOpen source →
        (ofText text).frontMatter =
          (ofText source).frontMatter ++ [[], style.defaultDirective] ∧
        (ofText text).directive? = none) := by
  refine ⟨_, render_ofText source v style, fun hopen ↦ ?_, fun hopen ↦ ?_⟩
  · have hd := isLegible_ofText source
    obtain ⟨r, hr, -, hfront, hdirective, -⟩ := hd.ofText_draw v style (isSound_ofText source)
      (isClosedFrontMatter_ofText hopen) hstyle
    rw [hr, hfront, hdirective, hd.heading_eq]
    exact ⟨rfl, rfl⟩
  · rw [ofText_draw_of_open hopen v hstyle, ofText_of_leavesFrontMatterOpen hopen]
    exact ⟨rfl, rfl⟩

theorem preamble_of_render_closed :
    let source := "---\nt\n---\nA[a]".toList
    let style : Style := { defaultDirective := "graph LR".toList, indent := ['\t'] }
    style.IsReadable ∧ ∃ text, (ofText source).render ⟨.empty⟩ style = .ok text ∧
      (leavesFrontMatterOpen source = false →
        (ofText text).frontMatter = (ofText source).frontMatter ∧
        (ofText text).directive? =
          some ((ofText source).directive?.getD style.defaultDirective)) ∧
      (leavesFrontMatterOpen source →
        (ofText text).frontMatter =
          (ofText source).frontMatter ++ [[], style.defaultDirective] ∧
        (ofText text).directive? = none) := by
  intro source style
  have hstyle : style.IsReadable :=
    ⟨rfl, List.all_eq_true.1 (by decide), by decide, by decide, by decide, by decide⟩
  exact ⟨hstyle, preamble_of_render source ⟨.empty⟩ hstyle⟩

/-- A lone fence: the drawn directive is read as front matter. -/
theorem not_preamble_of_render_open :
    ¬∀ (source : Text) (v : Visibility) (style : Style), style.IsReadable →
      ∃ text, (ofText source).render v style = .ok text ∧
        (ofText text).frontMatter = (ofText source).frontMatter ∧
        (ofText text).directive? =
          some ((ofText source).directive?.getD style.defaultDirective) := by
  intro h
  obtain ⟨text, htext, -, hdirective⟩ := h "---".toList ⟨.empty⟩ {} Style.isReadable_default
  rw [render_ofText] at htext
  obtain rfl := Except.ok.inj htext
  revert hdirective
  decide +kernel

end Diagram

end FlowchartView

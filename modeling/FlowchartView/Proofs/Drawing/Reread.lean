import FlowchartView.Proofs.Drawing.View

namespace FlowchartView

open Text

def Statement.isFrame : Statement → Bool
  | subgraph _ _ | direction _ | endSubgraph | node _ => true
  | _ => false

theorem Statement.eq_none_of_isFrame (t : Statement) (h : t.isFrame) :
    t.edge? = none ∧ t.styleClass? = none ∧ t.membership? = none := by
  cases t with
  | subgraph | direction | endSubgraph | node => exact ⟨rfl, rfl, rfl⟩
  | _ => cases h

theorem Edge.IsLegal.ofCode_line {e : Edge} (h : e.IsLegal) (hs : spellsStatement e.left = false) :
    Statement.ofCode e.line = .edge e := by
  simp only [spellsStatement, Bool.or_eq_false_iff, beq_eq_false_iff_ne] at hs
  rw [h.statement_line, if_neg hs.1.2, if_neg hs.1.1, if_neg hs.2]

theorem Edge.IsLegal.edge?_line {e : Edge} (h : e.IsLegal) :
    (Statement.ofCode e.line).edge? = if spellsStatement e.left then none else some e := by
  cases hs : spellsStatement e.left with
  | false => rw [h.ofCode_line hs]; rfl
  | true =>
    simp only [spellsStatement, Bool.or_eq_true, beq_iff_eq] at hs
    rw [h.statement_line]
    split
    · rfl
    · split
      · rfl
      · next hdef hclass => simp [hs.resolve_left fun h ↦ h.elim hclass hdef, Statement.edge?]

theorem Edge.filterMap_edge?_line {edges : List Edge} (h : ∀ e ∈ edges, e.IsLegal) :
    edges.filterMap (fun e ↦ (Statement.ofCode e.line).edge?) =
      edges.filter (!spellsStatement ·.left) := by
  induction edges with
  | nil => rfl
  | cons e edges ih =>
    obtain ⟨he, hrest⟩ := List.forall_mem_cons.1 h
    rw [List.filterMap_cons, he.edge?_line, ih hrest, List.filter_cons]
    cases spellsStatement e.left <;> rfl

namespace Diagram

variable {d : Diagram} (hd : d.IsLegible) (v : Visibility) (style : Style)
include hd

theorem IsLegible.isFrame_of_mem_subgraphStatements {s : Subgraph} (h : s ∈ d.subgraphs) :
    ∀ t ∈ d.subgraphStatements v s, t.isFrame := by
  obtain ⟨⟨title, hheader⟩, -⟩ := hd.subgraphs s h
  rw [subgraphStatements]
  split
  · simp
  · simp only [hheader.ofCode_eq, List.forall_mem_append, List.forall_mem_cons, List.forall_mem_map]
    exact ⟨⟨rfl, fun _ _ ↦ rfl, fun _ _ ↦ rfl⟩, rfl, by simp⟩

theorem IsLegible.filterMap_drawnStatements {α : Type} {f : Statement → Option α}
    (hframe : ∀ t : Statement, t.isFrame → f t = none) (hclick : f .click = none) :
    (d.drawnStatements v style).filterMap f =
      d.styleClasses.filterMap (fun c ↦ f (.styleClass c)) ++
        ((d.shownMemberships v).filterMap (fun a ↦ f (.membership a)) ++
          (d.shownEdges v).filterMap fun e ↦ f (Statement.ofCode e.line)) := by
  have hsubgraphs : (d.subgraphs.flatMap (d.subgraphStatements v)).filterMap f = [] := by
    rw [List.filterMap_eq_nil_iff]
    intro t ht
    obtain ⟨s, hs, ht⟩ := List.mem_flatMap.1 ht
    exact hframe t (hd.isFrame_of_mem_subgraphStatements v hs t ht)
  have hnodes : ((d.shownNodes v d.topLevel).map fun n ↦ Statement.node n.declaration).filterMap f =
      [] := by
    rw [List.filterMap_eq_nil_iff, List.forall_mem_map]
    exact fun n _ ↦ hframe _ rfl
  have hclicks : ((d.clickSection v style).map fun _ ↦ Statement.click).filterMap f = [] := by
    rw [List.filterMap_eq_nil_iff, List.forall_mem_map]
    exact fun _ _ ↦ hclick
  rw [drawnStatements]
  simp only [List.filterMap_append, hsubgraphs, hnodes, hclicks, List.filterMap_map,
    List.nil_append]
  rfl

theorem IsLegible.edges_drawnStatements :
    (d.drawnStatements v style).filterMap Statement.edge? =
      (d.shownEdges v).filter (!spellsStatement ·.left) := by
  have hframe : ∀ t : Statement, t.isFrame → t.edge? = none := fun t ht ↦
    (t.eq_none_of_isFrame ht).1
  have hclasses : d.styleClasses.filterMap (fun c ↦ (Statement.styleClass c).edge?) = [] :=
    List.filterMap_eq_nil_iff.2 fun _ _ ↦ rfl
  have hmemberships : (d.shownMemberships v).filterMap
      (fun a ↦ (Statement.membership a).edge?) = [] := List.filterMap_eq_nil_iff.2 fun _ _ ↦ rfl
  have hlegal : ∀ e ∈ d.shownEdges v, e.IsLegal := fun e he ↦ hd.edges e (List.mem_filter.1 he).1
  rw [hd.filterMap_drawnStatements v style hframe rfl, hclasses, hmemberships, List.nil_append,
    List.nil_append, Edge.filterMap_edge?_line hlegal]

theorem IsLegible.classes_drawnStatements
    (hedges : ∀ e ∈ d.shownEdges v, spellsStatement e.left = false) :
    (d.drawnStatements v style).filterMap Statement.styleClass? = d.styleClasses ∧
      (d.drawnStatements v style).filterMap Statement.membership? = d.shownMemberships v := by
  have hedge : ∀ e ∈ d.shownEdges v, Statement.ofCode e.line = .edge e := fun e he ↦
    (hd.edges e (List.mem_filter.1 he).1).ofCode_line (hedges e he)
  have hstyles : (d.shownEdges v).filterMap
      (fun e ↦ (Statement.ofCode e.line).styleClass?) = [] := by
    rw [List.filterMap_eq_nil_iff]
    intro e he
    rw [hedge e he]
    rfl
  have hmemberships : (d.shownEdges v).filterMap
      (fun e ↦ (Statement.ofCode e.line).membership?) = [] := by
    rw [List.filterMap_eq_nil_iff]
    intro e he
    rw [hedge e he]
    rfl
  constructor
  · have hframe : ∀ t : Statement, t.isFrame → t.styleClass? = none := fun t ht ↦
      (t.eq_none_of_isFrame ht).2.1
    rw [hd.filterMap_drawnStatements v style hframe rfl, hstyles]
    simp [Statement.styleClass?]
  · have hframe : ∀ t : Statement, t.isFrame → t.membership? = none := fun t ht ↦
      (t.eq_none_of_isFrame ht).2.2
    rw [hd.filterMap_drawnStatements v style hframe rfl, hmemberships]
    simp [Statement.membership?]

omit v in
theorem IsLegible.heading_eq : d.heading style = d.directive?.getD style.defaultDirective := by
  rw [heading]
  cases hdir : d.directive? with
  | none => rfl
  | some t =>
    cases t with
    | nil => exact absurd (hd.directive [] hdir).2.1 (by decide)
    | cons c t => rfl

omit v in
theorem IsLegible.heading_spec (hstyle : style.IsReadable) : IsTrimmed (d.heading style) ∧
    isDirective (d.heading style) ∧ IsOneLine (d.heading style) := by
  rw [hd.heading_eq]
  cases hdir : d.directive? with
  | none => exact ⟨hstyle.directive_trimmed, hstyle.directive, hstyle.directive_oneLine⟩
  | some t => exact hd.directive t hdir

/-- The drawing of a diagram whose front matter is closed is read as the visible part. -/
theorem IsLegible.ofText_draw (hs : d.IsSound) (hclosed : IsClosedFrontMatter d.frontMatter)
    (hstyle : style.IsReadable) : ∃ r : Diagram, ofText (d.draw v style) = r ∧ r.IsViewOf d v ∧
      r.frontMatter = d.frontMatter ∧ r.directive? = some (d.heading style) ∧
      r.edges = (d.drawnStatements v style).filterMap Statement.edge? ∧
      r.styleClasses = (d.drawnStatements v style).filterMap Statement.styleClass? ∧
      r.memberships = (d.drawnStatements v style).filterMap Statement.membership? ∧
      r.dropped = [] ∧
      frames (d.subgraphs.map (·.restrict v)) <+: r.subgraphs.map Subgraph.unnamed := by
  obtain ⟨htrim, hdirective, hone⟩ := hd.heading_spec style hstyle
  obtain ⟨m, hm, htop, hframes, hprefix, hnodes⟩ := hd.takes_drawnStatements v hs style
  rw [draw, drawing_eq, ofText_joinLines hclosed hd.frontMatter htrim hdirective hone
    (hd.bodyLines_say v hstyle) hm]
  exact ⟨_, rfl, ⟨hnodes, htop, hframes⟩, rfl, rfl, rfl, rfl, rfl, rfl, hprefix⟩

end Diagram

/-- Nothing but front matter: the drawing sets the directive of the style behind it. -/
theorem Diagram.draw_of_open {source : Text} (h : leavesFrontMatterOpen source) (v : Visibility)
    (style : Style) : (ofText source).draw v style =
      joinLines (splitLines source ++ [[], style.defaultDirective]) := by
  have hne : splitLines source ≠ [] := by
    intro hnil
    rw [leavesFrontMatterOpen, hnil] at h
    cases h
  have hbody : bodyLines { frontMatter := splitLines source } v style = [] := by
    cases hhooks : style.clickHooks <;> simp [bodyLines, setApart, topLevelSection, classSection,
      clickSection, edgeSection, shownNodes, nodesOf, shownMemberships, shownEdges, clickableIds,
      placedIds, distinct, hhooks]
  rw [ofText_of_leavesFrontMatterOpen h, draw, drawing_eq, hbody, if_neg (by simpa using hne),
    List.append_assoc]
  rfl

theorem Diagram.leavesFrontMatterOpen_draw {source : Text} (h : leavesFrontMatterOpen source)
    (v : Visibility) {style : Style} (hstyle : style.IsReadable) :
    splitLines ((ofText source).draw v style) =
        splitLines source ++ [[], style.defaultDirective] ∧
      leavesFrontMatterOpen ((ofText source).draw v style) := by
  have hlines : ∀ s ∈ splitLines source ++ [[], style.defaultDirective], IsOneLine s := by
    refine List.forall_mem_append.2 ⟨isLineBreak_of_mem_splitLines source, ?_⟩
    simpa [IsOneLine] using hstyle.directive_oneLine
  have hsplit : splitLines ((ofText source).draw v style) =
      splitLines source ++ [[], style.defaultDirective] := by
    rw [draw_of_open h, splitLines_joinLines hlines]
  refine ⟨hsplit, ?_⟩
  rw [leavesFrontMatterOpen, hsplit]
  rw [leavesFrontMatterOpen] at h
  cases hsource : splitLines source with
  | nil =>
    rw [hsource] at h
    cases h
  | cons first rest =>
    have hdirective : isFence style.defaultDirective = false :=
      isFence_of_isDirective hstyle.directive_trimmed hstyle.directive
    rw [hsource] at h
    simp only [List.cons_append, List.all_append, Bool.and_eq_true] at h ⊢
    have hempty : isFence [] = false := by decide
    exact ⟨h.1, h.2, by simp [hempty, hdirective]⟩

theorem Diagram.ofText_draw_of_open {source : Text} (h : leavesFrontMatterOpen source)
    (v : Visibility) {style : Style} (hstyle : style.IsReadable) :
    ofText ((ofText source).draw v style) =
      { frontMatter := splitLines source ++ [[], style.defaultDirective] } := by
  obtain ⟨hsplit, hopen⟩ := leavesFrontMatterOpen_draw h v hstyle
  rw [ofText_of_leavesFrontMatterOpen hopen, hsplit]

end FlowchartView

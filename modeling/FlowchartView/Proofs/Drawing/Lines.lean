import FlowchartView.Proofs.Diagram.Legible
import FlowchartView.Proofs.Diagram.Reading
import FlowchartView.Proofs.Statement.ClickLine

namespace FlowchartView

open Text

/-- A style whose drawings can be read: accepted, and with an indent and a directive that stand for
what they are. -/
structure Style.IsReadable (style : Style) : Prop where
  accepted : style.check = .ok style
  indent_blank : ∀ c ∈ style.indent, isBlank c
  indent_oneLine : IsOneLine style.indent
  directive_trimmed : IsTrimmed style.defaultDirective
  directive_oneLine : IsOneLine style.defaultDirective
  directive : isDirective style.defaultDirective

theorem Style.isReadable_default : IsReadable {} :=
  ⟨check_default, List.all_eq_true.1 (by decide), by decide, by decide, by decide, by decide⟩

theorem Style.IsReadable.isIdentifier {style : Style} (h : style.IsReadable) :
    isIdentifier style.clickCallback := by
  have haccepted := h.accepted
  rw [check] at haccepted
  cases hfault : style.fault? with
  | some e => simp [hfault] at haccepted
  | none =>
    rw [fault?] at hfault
    split at hfault
    · cases hfault
    · split at hfault
      · assumption
      · cases hfault

/-- Sections that have lines, each behind an empty line. -/
def setApart (sections : List (List Text)) : List Text :=
  (sections.filter (!·.isEmpty)).flatMap ([] :: ·)

theorem setApart_nil_cons (sections : List (List Text)) :
    setApart ([] :: sections) = setApart sections := rfl

theorem setApart_cons {lines : List Text} (h : lines ≠ []) (sections : List (List Text)) :
    setApart (lines :: sections) = [] :: (lines ++ setApart sections) := by
  simp [setApart, h]

theorem setApart_append (sections more : List (List Text)) :
    setApart (sections ++ more) = setApart sections ++ setApart more := by
  simp [setApart]

theorem intercalate_cons (lines : List Text) (sections : List (List Text)) :
    [[]].intercalate (lines :: sections) = lines ++ sections.flatMap ([] :: ·) := by
  induction sections generalizing lines with
  | nil => simp
  | cons m sections ih =>
    rw [List.intercalate_cons_cons, ih, List.flatMap_cons, List.append_assoc]
    rfl

theorem LinesSay.setApart_cons {lines : List Text} {sections : List (List Text)}
    {statements further : List Statement} (h : LinesSay lines statements)
    (h' : LinesSay (setApart sections) further) :
    LinesSay (setApart (lines :: sections)) (statements ++ further) := by
  by_cases hlines : lines = []
  · subst hlines
    cases h
    exact h'
  · rw [FlowchartView.setApart_cons hlines]
    exact (h.append h').empty

theorem LinesSay.setApart_map_append {α : Type} {lines : α → List Text}
    {statements : α → List Statement} {xs : List α}
    (h : ∀ x ∈ xs, LinesSay (lines x) (statements x)) {sections : List (List Text)}
    {further : List Statement} (h' : LinesSay (setApart sections) further) :
    LinesSay (setApart (xs.map lines ++ sections)) (xs.flatMap statements ++ further) := by
  induction xs with
  | nil => exact h'
  | cons x xs ih =>
    obtain ⟨hx, hxs⟩ := List.forall_mem_cons.1 h
    rw [List.flatMap_cons, List.append_assoc]
    exact hx.setApart_cons (ih hxs)

namespace Diagram

def bodyLines (d : Diagram) (v : Visibility) (style : Style) : List Text :=
  (d.styleClasses.map fun c ↦ style.indent ++ c.line) ++
    setApart (d.subgraphs.map (d.subgraphSection v style) ++
      [d.topLevelSection v style, d.classSection v style, d.clickSection v style,
        d.edgeSection v style])

theorem drawing_eq (d : Diagram) (v : Visibility) (style : Style) : d.drawing v style =
    (if d.frontMatter.isEmpty then [] else d.frontMatter ++ [[]]) ++
      d.heading style :: d.bodyLines v style := by
  have hhead : d.headSection style ≠ [] := by simp [headSection]
  have hsections : d.sections v style = d.frontMatter :: d.headSection style ::
      (d.subgraphs.map (d.subgraphSection v style) ++
        [d.topLevelSection v style, d.classSection v style, d.clickSection v style,
          d.edgeSection v style]) := by simp [sections]
  rw [drawing, hsections]
  by_cases hfront : d.frontMatter = []
  · rw [List.filter_cons_of_neg (by simp [hfront]), List.filter_cons_of_pos (by simpa using hhead),
      intercalate_cons, hfront]
    rfl
  · rw [List.filter_cons_of_pos (by simpa using hfront),
      List.filter_cons_of_pos (by simpa using hhead), intercalate_cons,
      if_neg (by simpa using hfront), List.flatMap_cons, List.append_assoc]
    rfl

theorem mem_drawing {d : Diagram} {v : Visibility} {style : Style} {lines : List Text} {line : Text}
    (hsection : lines ∈ d.sections v style) (hline : line ∈ lines) :
    line ∈ d.drawing v style := by
  have hshown : lines ∈ (d.sections v style).filter (!·.isEmpty) :=
    List.mem_filter.2 ⟨hsection, by simp [List.ne_nil_of_mem hline]⟩
  rw [drawing]
  cases hsections : (d.sections v style).filter (!·.isEmpty) with
  | nil => simp [hsections] at hshown
  | cons m sections =>
    rw [hsections] at hshown
    rw [intercalate_cons]
    rcases List.mem_cons.1 hshown with rfl | hlater
    · exact List.mem_append_left _ hline
    · exact List.mem_append_right _
        (List.mem_flatMap.2 ⟨lines, hlater, List.mem_cons_of_mem _ hline⟩)

def subgraphStatements (d : Diagram) (v : Visibility) (s : Subgraph) : List Statement :=
  match d.shownNodes v s.members with
  | [] => []
  | nodes =>
    Statement.ofCode s.header :: (s.direction?.toList.map Statement.direction ++
      nodes.map fun n ↦ .node n.declaration) ++ [.endSubgraph]

def drawnStatements (d : Diagram) (v : Visibility) (style : Style) : List Statement :=
  d.styleClasses.map .styleClass ++ (d.subgraphs.flatMap (d.subgraphStatements v) ++
    (((d.shownNodes v d.topLevel).map fun n ↦ .node n.declaration) ++
      ((d.shownMemberships v).map .membership ++ ((d.clickSection v style).map (fun _ ↦ .click) ++
        (d.shownEdges v).map fun e ↦ Statement.ofCode e.line))))

theorem mem_shownNodes {d : Diagram} {v : Visibility} {ids : List Id} {n : Node} :
    n ∈ d.shownNodes v ids ↔
      (∃ id ∈ ids, d.nodes.find? id = some n) ∧ v.isVisible n.id := by
  rw [shownNodes, List.mem_filter, nodesOf, List.mem_filterMap]

theorem isVisible_of_mem_endpoints {d : Diagram} {v : Visibility} {e : Edge}
    (he : e ∈ d.shownEdges v) {id : Id} (hid : id ∈ e.endpoints) : v.isVisible id := by
  obtain ⟨hleft, hright⟩ := Bool.and_eq_true_iff.1 (List.mem_filter.1 he).2
  rcases Edge.mem_endpoints.1 hid with rfl | rfl
  · exact hleft
  · exact hright

variable {d : Diagram} (hd : d.IsLegible) (v : Visibility)
include hd

theorem IsLegible.of_mem_shownNodes {ids : List Id} {n : Node} (hn : n ∈ d.shownNodes v ids) :
    n.IsLegible := by
  obtain ⟨⟨id, -, hid⟩, -⟩ := mem_shownNodes.1 hn
  exact hd.nodes id n hid

theorem IsLegible.of_mem_shownMemberships {a : ClassMembership} (ha : a ∈ d.shownMemberships v) :
    Says a.line (.membership a) := by
  obtain ⟨hmem, hne⟩ := List.mem_filter.1 ha
  obtain ⟨b, hb, rfl⟩ := List.mem_map.1 hmem
  have hlegal := (hd.memberships b hb).of_subset (b := { b with ids := b.ids.filter v.isVisible })
    List.filter_sublist.subset rfl
  exact hlegal.says_line (by simpa using hne)

theorem IsLegible.isId_of_mem_clickableIds {id : Id} (h : id ∈ d.clickableIds v) : isId id := by
  rw [clickableIds, mem_distinct, List.mem_append] at h
  rcases h with h | h
  · obtain ⟨n, hn, rfl⟩ := List.mem_map.1 h
    exact (hd.of_mem_shownNodes v hn).isId
  · obtain ⟨e, he, hid⟩ := List.mem_flatMap.1 (List.mem_filter.1 h).1
    have hlegal := hd.edges e (List.mem_filter.1 he).1
    rcases Edge.mem_endpoints.1 hid with rfl | rfl
    · exact hlegal.left
    · exact hlegal.right

variable {style : Style} (hstyle : style.IsReadable)
include hstyle

theorem IsLegible.subgraphSection_says {s : Subgraph} (hs : s ∈ d.subgraphs) :
    LinesSay (d.subgraphSection v style s) (d.subgraphStatements v s) := by
  obtain ⟨⟨title, hheader⟩, hdirection⟩ := hd.subgraphs s hs
  have hindent := hstyle.indent_blank
  have hone := hstyle.indent_oneLine
  have hdouble : ∀ c ∈ style.indent ++ style.indent, isBlank c :=
    List.forall_mem_append.2 ⟨hindent, hindent⟩
  have hdoubleOne := isOneLine_append.2 ⟨hone, hone⟩
  rw [subgraphSection, subgraphStatements]
  cases hnodes : d.shownNodes v s.members with
  | nil => exact .nil
  | cons n nodes =>
    have hinner : ∀ t ∈ s.direction?.toList, Says t (.direction t) := fun t ht ↦
      hdirection t (Option.mem_toList.1 ht)
    have hshown : ∀ m ∈ n :: nodes, Says m.line (.node m.declaration) := fun m hm ↦
      (hd.of_mem_shownNodes v (hnodes ▸ hm)).line
    have hend : LinesSay [style.indent ++ endKeyword] [.endSubgraph] :=
      .line hindent hone says_end .nil
    simp only [List.map_append, List.map_map, List.cons_append]
    rw [hheader.ofCode_eq]
    refine .line hindent hone hheader (.append (.append ?_ ?_) hend)
    · exact .map hdouble hdoubleOne hinner
    · exact .map hdouble hdoubleOne hshown

theorem IsLegible.bodyLines_say : LinesSay (d.bodyLines v style) (d.drawnStatements v style) := by
  have hindent := hstyle.indent_blank
  have hone := hstyle.indent_oneLine
  have htop : LinesSay (d.topLevelSection v style)
      ((d.shownNodes v d.topLevel).map fun n ↦ .node n.declaration) :=
    .map hindent hone fun n hn ↦ (hd.of_mem_shownNodes v hn).line
  have hclass : LinesSay (d.classSection v style) ((d.shownMemberships v).map .membership) :=
    .map hindent hone fun a ha ↦ hd.of_mem_shownMemberships v ha
  have hclick : LinesSay (d.clickSection v style)
      ((d.clickSection v style).map fun _ ↦ .click) := by
    rw [clickSection]
    split
    · rw [List.map_map]
      exact .map hindent hone fun id hid ↦
        says_clickLine (hd.isId_of_mem_clickableIds v hid) hstyle.isIdentifier
    · exact .nil
  have hedge : LinesSay (d.edgeSection v style)
      ((d.shownEdges v).map fun e ↦ Statement.ofCode e.line) :=
    .map hindent hone fun e he ↦ (hd.edges e (List.mem_filter.1 he).1).says_line
  refine .append (.map hindent hone hd.styleClasses) (.setApart_map_append ?_ ?_)
  · exact fun s hs ↦ hd.subgraphSection_says v hstyle hs
  · have hnone : LinesSay (setApart []) [] := .nil
    have hrest := htop.setApart_cons (hclass.setApart_cons (hclick.setApart_cons
      (hedge.setApart_cons hnone)))
    simpa using hrest

end Diagram

end FlowchartView

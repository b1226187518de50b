import FlowchartView.Proofs.Diagram.Preamble
import FlowchartView.Proofs.Text.Code

namespace FlowchartView

open Text

/-- Each line is empty or says, behind blanks, the next of the statements. -/
inductive LinesSay : List Text → List Statement → Prop
  | nil : LinesSay [] []
  | empty {lines : List Text} {statements : List Statement} :
      LinesSay lines statements → LinesSay ([] :: lines) statements
  | line {w code : Text} {s : Statement} {lines : List Text} {statements : List Statement} :
      (∀ c ∈ w, isBlank c) → IsOneLine w → Says code s → LinesSay lines statements →
      LinesSay ((w ++ code) :: lines) (s :: statements)

namespace LinesSay

variable {lines more : List Text} {statements further : List Statement}

theorem append (h : LinesSay lines statements) (h' : LinesSay more further) :
    LinesSay (lines ++ more) (statements ++ further) := by
  induction h with
  | nil => exact h'
  | empty _ ih => exact ih.empty
  | line hw hone hsays _ ih => exact ih.line hw hone hsays

theorem map {α : Type} {w : Text} (hw : ∀ c ∈ w, isBlank c) (hone : IsOneLine w)
    {code : α → Text} {statement : α → Statement} {xs : List α}
    (h : ∀ x ∈ xs, Says (code x) (statement x)) :
    LinesSay (xs.map fun x ↦ w ++ code x) (xs.map statement) := by
  induction xs with
  | nil => exact .nil
  | cons x xs ih =>
    obtain ⟨hx, hxs⟩ := List.forall_mem_cons.1 h
    exact (ih hxs).line hw hone hx

theorem isOneLine (h : LinesSay lines statements) : ∀ l ∈ lines, IsOneLine l := by
  induction h with
  | nil => simp
  | empty _ ih => exact List.forall_mem_cons.2 ⟨by simp [IsOneLine], ih⟩
  | line hw hone hsays _ ih =>
    exact List.forall_mem_cons.2 ⟨isOneLine_append.2 ⟨hone, hsays.isCode.isOneLine⟩, ih⟩

theorem filterMap {α : Type} (h : LinesSay lines statements) {f : Statement → Option α}
    (hf : f .blank = none) : (lines.map Statement.ofLine).filterMap f = statements.filterMap f := by
  induction h with
  | nil => rfl
  | empty _ ih =>
    have hblank : f (Statement.ofLine []) = none := hf
    rw [List.map_cons, List.filterMap_cons_none hblank, ih]
  | line hw hone hsays _ ih =>
    rw [List.map_cons, hsays.ofLine_append hw, List.filterMap_cons, List.filterMap_cons, ih]

end LinesSay

namespace Layout

/-- The statements find their place one after the other and lead to the last layout. -/
inductive Takes : Layout → List Statement → Layout → Prop
  | nil (l : Layout) : Takes l [] l
  | cons {l m : Layout} {s : Statement} {statements : List Statement} :
      l.rejects s = false → Takes (l.step s) statements m → Takes l (s :: statements) m

theorem Takes.append {l m n : Layout} {statements further : List Statement}
    (h : Takes l statements m) (h' : Takes m further n) : Takes l (statements ++ further) n := by
  induction h with
  | nil => exact h'
  | cons hs _ ih => exact .cons hs (ih h')

theorem Takes.of_read {l m : Layout} {statements : List Statement} (h : Takes l statements m)
    {lines : List Text} (hsay : LinesSay lines statements) {body : List Line}
    (hbody : body.map Line.text = lines) :
    (body.map fun x ↦ Statement.ofLine x.text).foldl step l = m ∧ l.dropped body = [] := by
  induction hsay generalizing l body with
  | nil =>
    obtain rfl := List.map_eq_nil_iff.1 hbody
    cases h
    exact ⟨rfl, rfl⟩
  | empty _ ih =>
    obtain ⟨x, rest, rfl, hx, hrest⟩ := List.map_eq_cons_iff.1 hbody
    have hblank : Statement.ofLine x.text = .blank := by rw [hx]; rfl
    obtain ⟨hfold, hdropped⟩ := ih h hrest
    rw [List.map_cons, List.foldl_cons, dropped, hblank]
    exact ⟨hfold, hdropped⟩
  | line hw _ hsays _ ih =>
    obtain ⟨x, rest, rfl, hx, hrest⟩ := List.map_eq_cons_iff.1 hbody
    cases h with
    | cons hs h =>
      obtain ⟨hfold, hdropped⟩ := ih h hrest
      rw [List.map_cons, List.foldl_cons, dropped, hx, hsays.ofLine_append hw, hs, hdropped]
      exact ⟨hfold, rfl⟩

end Layout

theorem Preamble.diagram_of_linesSay {p : Preamble} {lines : List Text}
    {statements : List Statement} (hbody : p.body.map Line.text = lines)
    (hsay : LinesSay lines statements) {m : Layout} (hm : Layout.Takes {} statements m)
    (hskipped : p.skipped = []) :
    p.diagram =
      { frontMatter := p.frontMatter.map Line.text
        directive? := p.directive?.map fun l ↦ trim l.text
        subgraphs := m.subgraphs
        topLevel := m.topLevel
        nodes := m.nodes
        edges := statements.filterMap Statement.edge?
        styleClasses := statements.filterMap Statement.styleClass?
        memberships := statements.filterMap Statement.membership? } := by
  obtain ⟨hfold, hdropped⟩ := hm.of_read hsay hbody
  have hlayout : Layout.ofStatements p.statements = m := hfold
  have hstatements : p.statements = lines.map Statement.ofLine := by
    rw [← hbody, List.map_map]
    rfl
  have hkept : p.dropped = [] := by rw [dropped, hskipped]; rfl
  rw [diagram, hlayout, hdropped, hkept, hstatements, hsay.filterMap rfl, hsay.filterMap rfl,
    hsay.filterMap rfl]
  rfl

/-- A text put together from front matter, a directive and lines that say statements is read as
these parts. -/
theorem Diagram.ofText_joinLines {front lines : List Text} {directive : Text}
    {statements : List Statement} (hclosed : IsClosedFrontMatter front)
    (hfront : ∀ s ∈ front, IsOneLine s) (htrim : IsTrimmed directive)
    (hdirective : isDirective directive) (hone : IsOneLine directive)
    (hsay : LinesSay lines statements) {m : Layout} (hm : Layout.Takes {} statements m) :
    ofText (joinLines ((if front.isEmpty then [] else front ++ [[]]) ++ directive :: lines)) =
      { frontMatter := front
        directive? := some directive
        subgraphs := m.subgraphs
        topLevel := m.topLevel
        nodes := m.nodes
        edges := statements.filterMap Statement.edge?
        styleClasses := statements.filterMap Statement.styleClass?
        memberships := statements.filterMap Statement.membership? } := by
  have hlines : ∀ s ∈ (if front.isEmpty then [] else front ++ [[]]) ++ directive :: lines,
      IsOneLine s := by
    refine List.forall_mem_append.2 ⟨?_, List.forall_mem_cons.2 ⟨hone, hsay.isOneLine⟩⟩
    split
    · simp
    · exact List.forall_mem_append.2 ⟨hfront, by simp [IsOneLine]⟩
  have htext := Line.map_text_ofText
    (joinLines ((if front.isEmpty then [] else front ++ [[]]) ++ directive :: lines))
  rw [splitLines_joinLines hlines] at htext
  obtain ⟨hf, hskipped, hd, hbody⟩ := Preamble.ofLines_of_closed hclosed htrim hdirective htext
  rw [ofText, ← Line.ofText, Preamble.diagram_of_linesSay hbody hsay hm hskipped, hf, hd]

end FlowchartView

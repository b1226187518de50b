import FlowchartView.Proofs.Diagram.Body
import FlowchartView.Proofs.Text.Code
import Mathlib.Logic.Relation

namespace FlowchartView

open Text

/-- One change to the blanks around a line, or a comment set behind it. Only a percent sign needs a
blank between itself and a comment. -/
inductive Respacing : Text → Text → Prop
  | indent {w : Text} (s : Text) : (∀ c ∈ w, isBlank c) → Respacing s (w ++ s)
  | outdent {w : Text} (s : Text) : (∀ c ∈ w, isBlank c) → Respacing (w ++ s) s
  | pad {w : Text} (s : Text) : (∀ c ∈ w, isBlank c) → Respacing s (s ++ w)
  | strip {w : Text} (s : Text) : (∀ c ∈ w, isBlank c) → Respacing (s ++ w) s
  | comment {w : Text} (s u : Text) : (∀ c ∈ w, isBlank c) → (w = [] → s.getLast? ≠ some '%') →
      Respacing s (s ++ (w ++ '%' :: '%' :: u))

inductive Relayout : List Text → List Text → Prop
  | insert {t : Text} (before after : List Text) :
      holdsCode t = false → Relayout (before ++ after) (before ++ t :: after)
  | line {s t : Text} (before after : List Text) :
      Respacing s t → Relayout (before ++ s :: after) (before ++ t :: after)

def saidBy (lines : List Text) : List Statement :=
  (lines.map Statement.ofLine).filter (· ≠ .blank)

theorem Respacing.codeOf_eq {s t : Text} (h : Respacing s t) : codeOf t = codeOf s := by
  have hpad : ∀ {w : Text} (s : Text), (∀ c ∈ w, isBlank c) → codeOf (s ++ w) = codeOf s := by
    intro w s hw
    have hbefore : ∀ c ∈ beforeComment w, isBlank c := fun c hc ↦
      hw c ((beforeComment_isPrefix w).subset hc)
    refine codeOf_append_of_blank hbefore fun _ hhead ↦ ?_
    exact percent_not_mem_blanks hw (List.mem_of_head? hhead)
  cases h with
  | indent s hw => exact codeOf_append hw s
  | outdent t hw => exact (codeOf_append hw t).symm
  | pad s hw => exact hpad s hw
  | strip t hw => exact (hpad t hw).symm
  | @comment w s u hw hs =>
    have hpercent := percent_not_mem_blanks hw
    have hbefore : beforeComment (w ++ '%' :: '%' :: u) = w := by
      rw [beforeComment_append hpercent, beforeComment, List.append_nil]
    have hblank : ∀ c ∈ beforeComment (w ++ '%' :: '%' :: u), isBlank c := by rwa [hbefore]
    refine codeOf_append_of_blank hblank fun hlast hhead ↦ ?_
    cases w with
    | nil => exact hs rfl hlast
    | cons c w => exact hpercent (List.mem_of_head? (l := c :: w) hhead)

theorem Relayout.saidBy_eq {lines lines' : List Text} (h : Relayout lines lines') :
    saidBy lines' = saidBy lines := by
  cases h with
  | insert before after ht =>
    rw [saidBy, saidBy, List.map_append, List.map_append, List.map_cons,
      (Statement.ofLine_eq_blank_iff _).2 ht, List.filter_append, List.filter_append,
      List.filter_cons_of_neg (by simp)]
  | @line s t before after hst =>
    have hsame : Statement.ofLine t = Statement.ofLine s := by
      rw [Statement.ofLine, Statement.ofLine, hst.codeOf_eq]
    rw [saidBy, saidBy, List.map_append, List.map_append, List.map_cons, hsame, List.map_cons]

theorem saidBy_eq_of_relayouts {lines lines' : List Text}
    (h : Relation.ReflTransGen Relayout lines lines') : saidBy lines' = saidBy lines := by
  induction h with
  | refl => rfl
  | tail _ hstep ih => rw [hstep.saidBy_eq, ih]

theorem filterMap_saidBy {α : Type} {f : Statement → Option α} (hf : f .blank = none)
    (lines : List Text) :
    (saidBy lines).filterMap f = (lines.map Statement.ofLine).filterMap f := by
  rw [saidBy, List.filterMap_filter]
  congr 1
  funext s
  by_cases hs : s = .blank
  · simp [hs, hf]
  · simp [hs]

namespace Layout

theorem foldl_step_saidBy (l : Layout) (lines : List Text) :
    (saidBy lines).foldl step l = (lines.map Statement.ofLine).foldl step l := by
  rw [saidBy, List.foldl_filter]
  congr 1
  funext l s
  by_cases hs : s = .blank
  · simp [hs, step]
  · simp [hs]

def rejections (l : Layout) : List Statement → List DropReason
  | [] => []
  | s :: statements =>
    (if l.rejects s then [.unrecognised] else []) ++ (l.step s).rejections statements

theorem rejections_saidBy (l : Layout) (lines : List Text) :
    l.rejections (saidBy lines) = l.rejections (lines.map Statement.ofLine) := by
  induction lines generalizing l with
  | nil => rfl
  | cons t lines ih =>
    rw [saidBy] at ih ⊢
    rw [List.map_cons]
    by_cases ht : Statement.ofLine t = .blank
    · rw [List.filter_cons_of_neg (by simpa using ht), ih, ht]
      rfl
    · rw [List.filter_cons_of_pos (by simpa using ht), rejections, rejections, ih]

theorem map_reason_dropped (l : Layout) (body : List Line) :
    (l.dropped body).map DroppedLine.reason =
      l.rejections ((body.map Line.text).map Statement.ofLine) := by
  induction body generalizing l with
  | nil => rfl
  | cons x body ih =>
    rw [dropped, List.map_append, ih, List.map_cons, List.map_cons, rejections]
    refine congrArg (· ++ _) ?_
    split <;> rfl

end Layout

namespace Preamble

section

variable {p q : Preamble}
  (h : saidBy (q.body.map Line.text) = saidBy (p.body.map Line.text))
include h

theorem filterMap_statements_of_saidBy {α : Type} {f : Statement → Option α}
    (hf : f .blank = none) : q.statements.filterMap f = p.statements.filterMap f := by
  rw [statements_eq, statements_eq, ← filterMap_saidBy hf, h, filterMap_saidBy hf]

theorem ofStatements_of_saidBy :
    Layout.ofStatements q.statements = Layout.ofStatements p.statements := by
  rw [statements_eq, statements_eq, Layout.ofStatements, Layout.ofStatements,
    ← Layout.foldl_step_saidBy, h, Layout.foldl_step_saidBy]

theorem map_reason_dropped_of_saidBy :
    (({} : Layout).dropped q.body).map DroppedLine.reason =
      (({} : Layout).dropped p.body).map DroppedLine.reason := by
  rw [Layout.map_reason_dropped, Layout.map_reason_dropped, ← Layout.rejections_saidBy, h,
    Layout.rejections_saidBy]

end

theorem diagram_of_saidBy_eq (p : Preamble) {body : List Line}
    (h : saidBy (body.map Line.text) = saidBy (p.body.map Line.text)) :
    { p with body }.diagram = { p.diagram with dropped := { p with body }.diagram.dropped } ∧
      { p with body }.diagram.dropped.map DroppedLine.reason =
        p.diagram.dropped.map DroppedLine.reason := by
  have hreplaced : saidBy ({ p with body }.body.map Line.text) = saidBy (p.body.map Line.text) := h
  constructor
  · simp only [diagram, ofStatements_of_saidBy hreplaced,
      filterMap_statements_of_saidBy (f := Statement.edge?) hreplaced rfl,
      filterMap_statements_of_saidBy (f := Statement.styleClass?) hreplaced rfl,
      filterMap_statements_of_saidBy (f := Statement.membership?) hreplaced rfl]
  · rw [diagram, diagram, List.map_append, List.map_append,
      map_reason_dropped_of_saidBy hreplaced]
    rfl

end Preamble

namespace Diagram

/-- Behind the directive, changes to the layout of lines change line numbers and texts of dropped
lines at most. -/
theorem ofText_of_relayouts {source source' : Text} {directive : Line}
    (hd : (Preamble.ofLines (Line.ofText source)).directive? = some directive)
    (hpreamble : (splitLines source').take directive.number =
      (splitLines source).take directive.number)
    (hbody : Relation.ReflTransGen Relayout ((splitLines source).drop directive.number)
      ((splitLines source').drop directive.number)) :
    ofText source' = { ofText source with dropped := (ofText source').dropped } ∧
      (ofText source').dropped.map DroppedLine.reason =
        (ofText source).dropped.map DroppedLine.reason := by
  obtain ⟨body', hbody', hlines'⟩ := Preamble.ofLines_ofText hd hpreamble
  obtain ⟨body, htext, hlines⟩ := Preamble.ofLines_ofText hd rfl
  have hsaid : saidBy (body'.map Line.text) =
      saidBy ((Preamble.ofLines (Line.ofText source)).body.map Line.text) := by
    rw [hlines, hbody', htext]
    exact saidBy_eq_of_relayouts hbody
  rw [ofText, ofText, ← Line.ofText, ← Line.ofText, hlines']
  exact Preamble.diagram_of_saidBy_eq _ hsaid

/-- A comment line before a subgraph, a comment behind a label with a percent sign in it, a node
indented by a tab, and blanks behind a line that is dropped. -/
theorem ofText_of_relayouts_commented :
    let source := "graph TD\nsubgraph S\nA[5%]\n?".toList
    let source' := "graph TD\n  %% c\nsubgraph S\n\tA[5%] %%%\n? \n".toList
    let directive : Line := ⟨1, "graph TD".toList⟩
    (Preamble.ofLines (Line.ofText source)).directive? = some directive ∧
      ofText source' = { ofText source with dropped := (ofText source').dropped } ∧
      (ofText source').dropped.map DroppedLine.reason =
        (ofText source).dropped.map DroppedLine.reason := by
  intro source source' directive
  have hd : (Preamble.ofLines (Line.ofText source)).directive? = some directive := by
    decide +kernel
  have hblank : ∀ c ∈ [' '], isBlank c := List.all_eq_true.1 (by decide)
  have htab : ∀ c ∈ ['\t'], isBlank c := List.all_eq_true.1 (by decide)
  have hbody : Relation.ReflTransGen Relayout ["subgraph S".toList, "A[5%]".toList, ['?']]
      ["  %% c".toList, "subgraph S".toList, "\tA[5%] %%%".toList, "? ".toList] := by
    refine .head (.insert [] _ (t := "  %% c".toList) (by decide)) ?_
    refine .head (.line [_, _] _ (.indent _ htab)) ?_
    refine .head (.line [_, _] _ (.comment _ ['%'] hblank (by simp))) ?_
    exact .single (.line [_, _, _] _ (.pad _ hblank))
  exact ⟨hd, ofText_of_relayouts hd (by decide +kernel) hbody⟩

end Diagram

end FlowchartView

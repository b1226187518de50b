import FlowchartView.Proofs.Diagram.Body

namespace FlowchartView

open Text

namespace Statement

inductive Kind
  | layout
  | edge
  | styleClass
  | membership
  | unrecognised
deriving DecidableEq, Repr

/-- Blank lines, comments and clicks leave no trace in a diagram and have no kind. -/
def kind? : Statement → Option Kind
  | blank | click => none
  | subgraph _ _ | direction _ | endSubgraph | node _ => some .layout
  | edge _ => some .edge
  | styleClass _ => some .styleClass
  | membership _ => some .membership
  | unrecognised => some .unrecognised

variable (s : Statement)

theorem edge?_eq_none (h : s.kind? ≠ some .edge) : s.edge? = none := by
  cases s with
  | edge => exact absurd rfl h
  | _ => rfl

theorem styleClass?_eq_none (h : s.kind? ≠ some .styleClass) : s.styleClass? = none := by
  cases s with
  | styleClass => exact absurd rfl h
  | _ => rfl

theorem membership?_eq_none (h : s.kind? ≠ some .membership) : s.membership? = none := by
  cases s with
  | membership => exact absurd rfl h
  | _ => rfl

end Statement

def linesOf (k : Statement.Kind) (lines : List Text) : List Text :=
  lines.filter fun t ↦ (Statement.ofLine t).kind? = some k

def DroppedLine.content (x : DroppedLine) : Text × DropReason := (x.text, x.reason)

section

variable {k : Statement.Kind} {t : Text}

theorem linesOf_cons_of_kind (h : (Statement.ofLine t).kind? = some k) (lines : List Text) :
    linesOf k (t :: lines) = t :: linesOf k lines := List.filter_cons_of_pos (decide_eq_true h)

theorem linesOf_cons_of_other (h : (Statement.ofLine t).kind? ≠ some k) (lines : List Text) :
    linesOf k (t :: lines) = linesOf k lines := List.filter_cons_of_neg (by simpa using h)

theorem filterMap_linesOf {α : Type} {f : Statement → Option α}
    (hf : ∀ s, s.kind? ≠ some k → f s = none) (lines : List Text) :
    ((linesOf k lines).map Statement.ofLine).filterMap f =
      (lines.map Statement.ofLine).filterMap f := by
  induction lines with
  | nil => rfl
  | cons t lines ih =>
    by_cases hk : (Statement.ofLine t).kind? = some k
    · rw [linesOf_cons_of_kind hk, List.map_cons, List.map_cons, List.filterMap_cons, ih,
        List.filterMap_cons]
    · rw [linesOf_cons_of_other hk, List.map_cons, List.filterMap_cons_none (hf _ hk), ih]

end

namespace Layout

theorem step_of_kind?_ne {s : Statement} (h : s.kind? ≠ some .layout) (l : Layout) :
    l.step s = l := by
  cases s with
  | subgraph | direction | endSubgraph | node => exact absurd rfl h
  | _ => rfl

theorem rejects_of_kind?_ne {s : Statement} (h : s.kind? ≠ some .layout) (l : Layout) :
    l.rejects s = decide (s.kind? = some .unrecognised) := by
  cases s with
  | subgraph | direction | endSubgraph | node => exact absurd rfl h
  | _ => rfl

theorem foldl_step_linesOf (l : Layout) (lines : List Text) :
    ((linesOf .layout lines).map Statement.ofLine).foldl step l =
      (lines.map Statement.ofLine).foldl step l := by
  induction lines generalizing l with
  | nil => rfl
  | cons t lines ih =>
    by_cases hk : (Statement.ofLine t).kind? = some .layout
    · rw [linesOf_cons_of_kind hk]
      exact ih _
    · rw [linesOf_cons_of_other hk, List.map_cons, List.foldl_cons, step_of_kind?_ne hk]
      exact ih l

def rejected (l : Layout) : List Text → List Text
  | [] => []
  | t :: ts =>
    let s := Statement.ofLine t
    (if l.rejects s then [t] else []) ++ (l.step s).rejected ts

theorem map_content_dropped (l : Layout) (body : List Line) :
    (l.dropped body).map DroppedLine.content =
      (l.rejected (body.map Line.text)).map fun t ↦ (trim t, .unrecognised) := by
  induction body generalizing l with
  | nil => rfl
  | cons x body ih =>
    rw [dropped, List.map_append, ih, List.map_cons, rejected, List.map_append]
    refine congrArg (· ++ _) ?_
    split <;> rfl

theorem rejected_perm (l : Layout) (lines : List Text) :
    (l.rejected lines).Perm
      (l.rejected (linesOf .layout lines) ++ linesOf .unrecognised lines) := by
  induction lines generalizing l with
  | nil => exact .nil
  | cons t lines ih =>
    by_cases hk : (Statement.ofLine t).kind? = some .layout
    · rw [linesOf_cons_of_kind hk, linesOf_cons_of_other (by simp [hk]), rejected, rejected,
        List.append_assoc]
      exact (ih _).append_left _
    · rw [linesOf_cons_of_other hk, rejected, rejects_of_kind?_ne hk, step_of_kind?_ne hk]
      by_cases hlost : (Statement.ofLine t).kind? = some .unrecognised
      · rw [linesOf_cons_of_kind hlost, if_pos (decide_eq_true hlost)]
        exact ((ih l).cons t).trans List.perm_middle.symm
      · rw [linesOf_cons_of_other hlost, if_neg (by simpa using hlost)]
        exact ih l

end Layout

namespace Preamble

section

variable {p q : Preamble}
  (h : ∀ k, linesOf k (q.body.map Line.text) = linesOf k (p.body.map Line.text))
include h

theorem filterMap_statements {α : Type} {k : Statement.Kind} {f : Statement → Option α}
    (hf : ∀ s, s.kind? ≠ some k → f s = none) :
    q.statements.filterMap f = p.statements.filterMap f := by
  rw [statements_eq, statements_eq, ← filterMap_linesOf hf, h k, filterMap_linesOf hf]

theorem ofStatements_statements :
    Layout.ofStatements q.statements = Layout.ofStatements p.statements := by
  rw [statements_eq, statements_eq, Layout.ofStatements, ← Layout.foldl_step_linesOf, h .layout,
    Layout.foldl_step_linesOf, ← Layout.ofStatements]

theorem content_dropped_perm : ((({} : Layout).dropped q.body).map DroppedLine.content).Perm
    ((({} : Layout).dropped p.body).map DroppedLine.content) := by
  rw [Layout.map_content_dropped, Layout.map_content_dropped]
  refine List.Perm.map _ ((Layout.rejected_perm _ _).trans ?_)
  rw [h .layout, h .unrecognised]
  exact (Layout.rejected_perm _ _).symm

end

theorem diagram_of_linesOf_eq (p : Preamble) {body : List Line}
    (h : ∀ k, linesOf k (body.map Line.text) = linesOf k (p.body.map Line.text)) :
    { p with body }.diagram = { p.diagram with dropped := { p with body }.diagram.dropped } ∧
      ({ p with body }.diagram.dropped.map DroppedLine.content).Perm
        (p.diagram.dropped.map DroppedLine.content) := by
  have hreplaced : ∀ k, linesOf k ({ p with body }.body.map Line.text) =
      linesOf k (p.body.map Line.text) := h
  constructor
  · simp only [diagram, ofStatements_statements hreplaced,
      filterMap_statements hreplaced Statement.edge?_eq_none,
      filterMap_statements hreplaced Statement.styleClass?_eq_none,
      filterMap_statements hreplaced Statement.membership?_eq_none]
  · rw [diagram, diagram, List.map_append, List.map_append]
    exact (content_dropped_perm hreplaced).append_left _

end Preamble

namespace Diagram

/-- Behind the directive, lines may change places as long as the lines of each kind keep their
order. -/
theorem ofText_of_linesOf_eq {source source' : Text} {directive : Line}
    (hd : (Preamble.ofLines (Line.ofText source)).directive? = some directive)
    (hpreamble : (splitLines source').take directive.number =
      (splitLines source).take directive.number)
    (hbody : ∀ k, linesOf k ((splitLines source').drop directive.number) =
      linesOf k ((splitLines source).drop directive.number)) :
    ofText source' = { ofText source with dropped := (ofText source').dropped } ∧
      ((ofText source').dropped.map DroppedLine.content).Perm
        ((ofText source).dropped.map DroppedLine.content) := by
  obtain ⟨body', hbody', hlines'⟩ := Preamble.ofLines_ofText hd hpreamble
  obtain ⟨body, htext, hlines⟩ := Preamble.ofLines_ofText hd rfl
  have hbodies : ∀ k, linesOf k (body'.map Line.text) =
      linesOf k ((Preamble.ofLines (Line.ofText source)).body.map Line.text) := by
    rw [hlines, hbody', htext]
    exact hbody
  rw [ofText, ofText, ← Line.ofText, ← Line.ofText, hlines']
  exact Preamble.diagram_of_linesOf_eq _ hbodies

/-- An edge and a comment move into a subgraph, and two lines without a place change theirs. -/
theorem ofText_of_linesOf_eq_mixed :
    let source := "graph TD\nsubgraph S\nA[x]\nend\nA-->B\n?\nB(y)\ndirection LR\n".toList
    let source' := "graph TD\nsubgraph S\nA-->B\n%% c\nA[x]\nend\nB(y)\ndirection LR\n?".toList
    let directive : Line := ⟨1, "graph TD".toList⟩
    (Preamble.ofLines (Line.ofText source)).directive? = some directive ∧
      ofText source' = { ofText source with dropped := (ofText source').dropped } ∧
      ((ofText source').dropped.map DroppedLine.content).Perm
        ((ofText source).dropped.map DroppedLine.content) := by
  intro source source' directive
  have hd : (Preamble.ofLines (Line.ofText source)).directive? = some directive := by
    decide +kernel
  have hbody : ∀ k, linesOf k ((splitLines source').drop directive.number) =
      linesOf k ((splitLines source).drop directive.number) := by
    intro k
    cases k <;> decide +kernel
  exact ⟨hd, ofText_of_linesOf_eq hd (by decide +kernel) hbody⟩

end Diagram

end FlowchartView

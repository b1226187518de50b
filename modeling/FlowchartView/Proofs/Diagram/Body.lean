import FlowchartView.Proofs.Diagram.Preamble

namespace FlowchartView

open Text

/-- What may stand between front matter and the lines after it: one blank line at most. -/
def IsGap (gap : List Line) : Prop := gap.length ≤ 1 ∧ ∀ l ∈ gap, trim l.text = []

theorem isGap_nil : IsGap [] := ⟨Nat.zero_le 1, by simp⟩

theorem skipEmptyLine_append (lines : List Line) : ∃ gap, IsGap gap ∧
    lines = gap ++ skipEmptyLine lines ∧
      ∀ rest, rest.head? = (skipEmptyLine lines).head? → skipEmptyLine (gap ++ rest) = rest := by
  cases lines with
  | nil =>
    refine ⟨[], isGap_nil, rfl, fun rest hrest ↦ ?_⟩
    rw [List.head?_eq_none_iff.1 hrest]
    rfl
  | cons l lines =>
    cases hl : (trim l.text).isEmpty with
    | true =>
      have hgap : IsGap [l] := ⟨Nat.le_refl 1, by simpa using hl⟩
      exact ⟨[l], hgap, by simp [skipEmptyLine, hl], fun rest _ ↦ by simp [skipEmptyLine, hl]⟩
    | false =>
      have hskip : skipEmptyLine (l :: lines) = l :: lines := by simp [skipEmptyLine, hl]
      rw [hskip]
      refine ⟨[], isGap_nil, rfl, fun rest hrest ↦ ?_⟩
      obtain ⟨more, rfl⟩ := List.head?_eq_some_iff.1 hrest
      simp [skipEmptyLine, hl]

/-- Front matter ends in the same place in front of any lines that begin alike. -/
theorem splitFrontMatter_append (lines : List Line) : ∃ gap, IsGap gap ∧
    lines = (splitFrontMatter lines).1 ++ gap ++ (splitFrontMatter lines).2 ∧
      ∀ rest, rest.head? = (splitFrontMatter lines).2.head? →
        splitFrontMatter ((splitFrontMatter lines).1 ++ gap ++ rest) =
          ((splitFrontMatter lines).1, rest) := by
  cases lines with
  | nil =>
    refine ⟨[], isGap_nil, rfl, fun rest hrest ↦ ?_⟩
    rw [List.head?_eq_none_iff.1 hrest]
    rfl
  | cons l lines =>
    cases hl : l.isFence with
    | false =>
      have hsplit (more : List Line) : splitFrontMatter (l :: more) = ([], l :: more) := by
        rw [splitFrontMatter, if_neg (by simp [hl])]
      rw [hsplit]
      refine ⟨[], isGap_nil, rfl, fun rest hrest ↦ ?_⟩
      obtain ⟨more, rfl⟩ := List.head?_eq_some_iff.1 hrest
      exact hsplit more
    | true =>
      rcases exists_first_fence lines with hnone | ⟨inside, last, rest, rfl, hlast, hinside⟩
      · have hsplit : splitFrontMatter (l :: lines) = (l :: lines, []) := by
          rw [splitFrontMatter, if_pos hl, throughFence_eq_self hnone]
          rfl
        rw [hsplit]
        refine ⟨[], isGap_nil, by simp, fun rest hrest ↦ ?_⟩
        rw [List.head?_eq_none_iff.1 hrest, List.append_nil, List.append_nil, hsplit]
      · have hsplit := splitFrontMatter_closed hl hlast hinside
        obtain ⟨gap, hgap, hrest, hskip⟩ := skipEmptyLine_append rest
        rw [hsplit]
        refine ⟨gap, hgap, ?_, fun more hmore ↦ ?_⟩
        · simpa using hrest
        · have happend : l :: (inside ++ [last]) ++ gap ++ more =
              l :: (inside ++ last :: (gap ++ more)) := by simp
          rw [happend, hsplit, hskip more hmore]

theorem Line.number_of_ofText {source : Text} {before rest : List Line} {l : Line}
    (h : Line.ofText source = before ++ l :: rest) : l.number = before.length + 1 := by
  have hget : (Line.ofText source)[before.length]? = some l := by
    rw [h, List.getElem?_append_right (Nat.le_refl _), Nat.sub_self]
    rfl
  rw [Line.ofText, Line.getElem?_numberFrom] at hget
  obtain ⟨t, -, rfl⟩ := Option.map_eq_some_iff.1 hget
  exact Nat.add_comm 1 _

namespace Preamble

theorem statements_eq (p : Preamble) :
    p.statements = (p.body.map Line.text).map Statement.ofLine := by
  rw [statements, List.map_map]
  rfl

theorem splitFrontMatter_eq (lines : List Line) :
    (splitFrontMatter lines).2 =
      (ofLines lines).skipped ++ ((ofLines lines).directive?.toList ++ (ofLines lines).body) ∧
      ∀ l ∈ (ofLines lines).skipped, l.isDirective = false := by
  simp only [ofLines]
  cases hdrop : (splitFrontMatter lines).2.dropWhile (!·.isDirective) with
  | nil => simp
  | cons d body =>
    constructor
    · have hrest := List.takeWhile_append_dropWhile (p := (!·.isDirective))
        (l := (splitFrontMatter lines).2)
      rw [hdrop] at hrest
      exact hrest.symm
    · intro l hl
      have hl := List.all_eq_true.1 List.all_takeWhile l hl
      simpa using hl

theorem ofLines_of_directive {lines : List Line} {d : Line}
    (hd : (ofLines lines).directive? = some d) :
    ∃ before, lines = before ++ d :: (ofLines lines).body ∧
      ∀ body, ofLines (before ++ d :: body) = { ofLines lines with body } := by
  obtain ⟨gap, -, hlines, hsplit⟩ := splitFrontMatter_append lines
  obtain ⟨hrest, hskipped⟩ := splitFrontMatter_eq lines
  rw [hd, Option.toList_some, List.singleton_append] at hrest
  rw [hrest] at hlines
  refine ⟨(splitFrontMatter lines).1 ++ gap ++ (ofLines lines).skipped, by simpa using hlines,
    fun body ↦ ?_⟩
  have hhead : ((ofLines lines).skipped ++ d :: body).head? = (splitFrontMatter lines).2.head? := by
    rw [hrest, List.head?_append, List.head?_append]
    rfl
  have hlines' := hsplit _ hhead
  rw [← List.append_assoc] at hlines'
  rw [ofLines_of_skipped hlines' ((ofLines_subset lines).2.2 d hd).2 hskipped,
    ← frontMatter_ofLines, ← hd]

theorem ofLines_ofText {source source' : Text} {d : Line}
    (hd : (ofLines (Line.ofText source)).directive? = some d)
    (hpreamble : (splitLines source').take d.number = (splitLines source).take d.number) :
    ∃ body, body.map Line.text = (splitLines source').drop d.number ∧
      ofLines (Line.ofText source') = { ofLines (Line.ofText source) with body } := by
  obtain ⟨before, hlines, hreplace⟩ := ofLines_of_directive hd
  have hnumber : d.number = before.length + 1 := Line.number_of_ofText hlines
  have hbefore : Line.numberFrom 1 ((splitLines source).take d.number) = before ++ [d] := by
    rw [← Line.take_numberFrom, ← Line.ofText, hlines, hnumber, ← List.singleton_append,
      ← List.append_assoc]
    exact List.take_left' (by simp)
  have hlines' := Line.numberFrom_append 1 ((splitLines source').take d.number)
    ((splitLines source').drop d.number)
  rw [List.take_append_drop, ← Line.ofText, hpreamble, hbefore, List.append_assoc,
    List.singleton_append] at hlines'
  exact ⟨_, Line.map_text_numberFrom _ _, hlines' ▸ hreplace _⟩

end Preamble

end FlowchartView

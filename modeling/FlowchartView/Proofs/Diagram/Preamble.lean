import FlowchartView.Diagram.Reading
import FlowchartView.Proofs.Text.Lines

namespace FlowchartView

open Text

def isFence (s : Text) : Bool := trim s == "---".toList

/-- The first line opens front matter that no later line closes. -/
def leavesFrontMatterOpen (source : Text) : Bool :=
  match splitLines source with
  | [] => false
  | first :: rest => isFence first && rest.all (!isFence ·)

/-- Front matter as a drawing can repeat it: none, or two fences and no fence between them. -/
def IsClosedFrontMatter (lines : List Text) : Prop :=
  lines = [] ∨ ∃ first inside last, lines = first :: (inside ++ [last]) ∧ isFence first ∧
    isFence last ∧ ∀ s ∈ inside, isFence s = false

theorem throughFence_append {inside : List Line} (hinside : ∀ l ∈ inside, l.isFence = false)
    {last : Line} (hlast : last.isFence) (rest : List Line) :
    throughFence (inside ++ last :: rest) = (inside ++ [last], rest) := by
  induction inside with
  | nil => simp [throughFence, hlast]
  | cons l inside ih =>
    obtain ⟨hl, hinside⟩ := List.forall_mem_cons.1 hinside
    rw [List.cons_append, throughFence, if_neg (by simp [hl]), ih hinside]
    rfl

theorem throughFence_eq_self {lines : List Line} (h : ∀ l ∈ lines, l.isFence = false) :
    throughFence lines = (lines, []) := by
  induction lines with
  | nil => rfl
  | cons l lines ih =>
    obtain ⟨hl, hlines⟩ := List.forall_mem_cons.1 h
    rw [throughFence, if_neg (by simp [hl]), ih hlines]
    rfl

theorem exists_first_fence (lines : List Line) : (∀ l ∈ lines, l.isFence = false) ∨
    ∃ inside last rest, lines = inside ++ last :: rest ∧ last.isFence ∧
      ∀ l ∈ inside, l.isFence = false := by
  induction lines with
  | nil => simp
  | cons l lines ih =>
    cases hl : l.isFence with
    | true => exact .inr ⟨[], l, lines, rfl, hl, by simp⟩
    | false =>
      rcases ih with hnone | ⟨inside, last, rest, rfl, hlast, hinside⟩
      · exact .inl (List.forall_mem_cons.2 ⟨hl, hnone⟩)
      · exact .inr ⟨l :: inside, last, rest, rfl, hlast, List.forall_mem_cons.2 ⟨hl, hinside⟩⟩

theorem skipEmptyLine_suffix (lines : List Line) : skipEmptyLine lines <:+ lines := by
  cases lines with
  | nil => exact List.suffix_rfl
  | cons l lines =>
    rw [skipEmptyLine]
    split
    · exact List.suffix_cons l lines
    · exact List.suffix_rfl

theorem splitFrontMatter_subset (lines : List Line) :
    (splitFrontMatter lines).1 ⊆ lines ∧ (splitFrontMatter lines).2 ⊆ lines := by
  cases lines with
  | nil => simp [splitFrontMatter]
  | cons l lines =>
    have happend := append_throughFence lines
    rw [splitFrontMatter]
    split
    · constructor
      · refine List.cons_subset_cons l fun x hx ↦ ?_
        rw [← happend]
        exact List.mem_append_left _ hx
      · intro x hx
        have hrest := (skipEmptyLine_suffix _).subset hx
        rw [← happend]
        exact List.mem_cons_of_mem l (List.mem_append_right _ hrest)
    · simp

namespace Preamble

theorem ofLines_subset (lines : List Line) :
    (ofLines lines).frontMatter ⊆ lines ∧ (ofLines lines).body ⊆ lines ∧
      ∀ l ∈ (ofLines lines).directive?, l ∈ lines ∧ l.isDirective := by
  obtain ⟨hfront, hrest⟩ := splitFrontMatter_subset lines
  simp only [ofLines]
  cases hdrop : (splitFrontMatter lines).2.dropWhile (!·.isDirective) with
  | nil => exact ⟨hfront, hrest, by simp⟩
  | cons d body =>
    have hsuffix : d :: body <:+ (splitFrontMatter lines).2 := hdrop ▸ List.dropWhile_suffix _
    have hsub : d :: body ⊆ lines := fun x hx ↦ hrest (hsuffix.subset hx)
    refine ⟨hfront, fun x hx ↦ hsub (List.mem_cons_of_mem d hx), ?_⟩
    rintro l ⟨⟩
    refine ⟨hsub List.mem_cons_self, ?_⟩
    have hhead := List.head?_dropWhile_not (!·.isDirective) (splitFrontMatter lines).2
    simpa [hdrop] using hhead

theorem frontMatter_ofLines (lines : List Line) :
    (ofLines lines).frontMatter = (splitFrontMatter lines).1 := by
  simp only [ofLines]
  split <;> rfl

theorem ofLines_of_skipped {lines front skipped body : List Line} {d : Line}
    (h : splitFrontMatter lines = (front, skipped ++ d :: body)) (hd : d.isDirective)
    (hskipped : ∀ l ∈ skipped, l.isDirective = false) :
    ofLines lines = ⟨front, skipped, some d, body⟩ := by
  have hpass : ∀ l ∈ skipped, (!l.isDirective) = true := fun l hl ↦ by simp [hskipped l hl]
  have hstop : (!d.isDirective) = false := by simp [hd]
  have hdrop : (skipped ++ d :: body).dropWhile (!·.isDirective) = d :: body := by
    rw [List.dropWhile_append_of_pos hpass, List.dropWhile_cons, hstop]
    rfl
  have htake : (skipped ++ d :: body).takeWhile (!·.isDirective) = skipped := by
    rw [List.takeWhile_append_of_pos hpass, List.takeWhile_cons, hstop]
    exact List.append_nil skipped
  simp only [ofLines, h, hdrop, htake]

theorem ofLines_of_splitFrontMatter {lines front body : List Line} {d : Line}
    (h : splitFrontMatter lines = (front, d :: body)) (hd : d.isDirective) :
    ofLines lines = ⟨front, [], some d, body⟩ := ofLines_of_skipped h hd (by simp)

end Preamble

theorem splitFrontMatter_closed {first last : Line} {inside : List Line} (hfirst : first.isFence)
    (hlast : last.isFence) (hinside : ∀ l ∈ inside, l.isFence = false) (rest : List Line) :
    splitFrontMatter (first :: (inside ++ last :: rest)) =
      (first :: (inside ++ [last]), skipEmptyLine rest) := by
  rw [splitFrontMatter, if_pos hfirst, throughFence_append hinside hlast]
  rfl

theorem isFence_of_isDirective {s : Text} (hs : IsTrimmed s) (h : isDirective s) :
    isFence s = false := by
  rw [isFence, trim_eq_self hs, beq_eq_false_iff_ne]
  rintro rfl
  exact absurd h (by decide)

/-- Closed front matter, an empty line behind it, and a directive are found again in front of any
body. -/
theorem Preamble.ofLines_of_closed {lines : List Line} {front body : List Text} {directive : Text}
    (hfront : IsClosedFrontMatter front) (htrim : IsTrimmed directive)
    (hdirective : FlowchartView.isDirective directive)
    (h : lines.map Line.text =
      (if front.isEmpty then [] else front ++ [[]]) ++ directive :: body) :
    (ofLines lines).frontMatter.map Line.text = front ∧ (ofLines lines).skipped = [] ∧
      (ofLines lines).directive?.map (fun l ↦ trim l.text) = some directive ∧
      (ofLines lines).body.map Line.text = body := by
  have hline : ∀ d : Line, d.text = directive → d.isDirective ∧ d.isFence = false := by
    rintro d rfl
    exact ⟨by rw [Line.isDirective, trim_eq_self htrim, hdirective],
      isFence_of_isDirective htrim hdirective⟩
  rcases hfront with rfl | ⟨first, inside, last, rfl, hfirst, hlast, hinside⟩
  · obtain ⟨d, body', rfl, hd, rfl⟩ := List.map_eq_cons_iff.1 h
    obtain ⟨hdir, hfence⟩ := hline d hd
    have hsplit : splitFrontMatter (d :: body') = ([], d :: body') := by
      rw [splitFrontMatter, if_neg (by simp [hfence])]
    rw [ofLines_of_splitFrontMatter hsplit hdir]
    exact ⟨rfl, rfl, by simp [hd, trim_eq_self htrim], rfl⟩
  · have h' : lines.map Line.text = first :: (inside ++ last :: [] :: directive :: body) := by
      simpa using h
    obtain ⟨opening, _, rfl, rfl, hopened⟩ := List.map_eq_cons_iff.1 h'
    obtain ⟨between, _, rfl, rfl, hbehind⟩ := List.map_eq_append_iff.1 hopened
    obtain ⟨closing, _, rfl, rfl, hclosed⟩ := List.map_eq_cons_iff.1 hbehind
    obtain ⟨empty, _, rfl, hempty, hdrawn⟩ := List.map_eq_cons_iff.1 hclosed
    obtain ⟨d, body', rfl, hd, rfl⟩ := List.map_eq_cons_iff.1 hdrawn
    obtain ⟨hdir, -⟩ := hline d hd
    have hskip : skipEmptyLine (empty :: d :: body') = d :: body' := by
      rw [skipEmptyLine, hempty]
      rfl
    have hbetween : ∀ l ∈ between, l.isFence = false := fun l hl ↦
      hinside l.text (List.mem_map_of_mem hl)
    have hsplit := splitFrontMatter_closed hfirst hlast hbetween (empty :: d :: body')
    rw [hskip] at hsplit
    rw [ofLines_of_splitFrontMatter hsplit hdir]
    exact ⟨by simp, rfl, by simp [hd, trim_eq_self htrim], rfl⟩

def Line.ofText (source : Text) : List Line := numberFrom 1 (splitLines source)

theorem Line.map_text_ofText (source : Text) : (ofText source).map Line.text = splitLines source :=
  map_text_numberFrom 1 _

theorem Line.isFence_eq (l : Line) : l.isFence = FlowchartView.isFence l.text := rfl

theorem splitFrontMatter_of_leavesFrontMatterOpen {source : Text}
    (h : leavesFrontMatterOpen source) :
    splitFrontMatter (Line.ofText source) = (Line.ofText source, []) := by
  have htext := Line.map_text_ofText source
  cases hl : Line.ofText source with
  | nil => rfl
  | cons l lines =>
    rw [hl, List.map_cons] at htext
    simp only [leavesFrontMatterOpen, ← htext, Bool.and_eq_true, List.all_eq_true,
      List.forall_mem_map, Bool.not_eq_true', ← Line.isFence_eq] at h
    rw [splitFrontMatter, if_pos h.1, throughFence_eq_self h.2]
    rfl

theorem isClosedFrontMatter_ofText {source : Text} (h : leavesFrontMatterOpen source = false) :
    IsClosedFrontMatter (Diagram.ofText source).frontMatter := by
  have htext := Line.map_text_ofText source
  rw [Diagram.ofText, Preamble.diagram, ← Line.ofText, Preamble.frontMatter_ofLines]
  cases hl : Line.ofText source with
  | nil => exact .inl rfl
  | cons l lines =>
    rw [hl, List.map_cons] at htext
    rw [splitFrontMatter]
    split
    · next hfence =>
      rcases exists_first_fence lines with hnone | ⟨inside, last, rest, rfl, hlast, hinside⟩
      · have hopen : leavesFrontMatterOpen source = true := by
          simp only [leavesFrontMatterOpen, ← htext, ← Line.isFence_eq, hfence, Bool.true_and,
            List.all_eq_true, List.forall_mem_map, Bool.not_eq_true']
          exact hnone
        rw [hopen] at h
        cases h
      · rw [throughFence_append hinside hlast]
        refine .inr ⟨l.text, inside.map Line.text, last.text, by simp, hfence, hlast, ?_⟩
        rw [List.forall_mem_map]
        exact hinside
    · exact .inl rfl

theorem ofText_of_leavesFrontMatterOpen {source : Text} (h : leavesFrontMatterOpen source) :
    Diagram.ofText source = { frontMatter := splitLines source } := by
  have hsplit := splitFrontMatter_of_leavesFrontMatterOpen h
  have hlines : Preamble.ofLines (Line.ofText source) = ⟨Line.ofText source, [], none, []⟩ := by
    rw [Preamble.ofLines, hsplit]
    rfl
  rw [Diagram.ofText, ← Line.ofText, hlines, Preamble.diagram, Line.map_text_ofText]
  rfl

end FlowchartView

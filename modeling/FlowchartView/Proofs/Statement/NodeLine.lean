import FlowchartView.Drawing.Entry
import FlowchartView.Proofs.Statement.Reading
import FlowchartView.Proofs.Text.Code
import FlowchartView.Proofs.Text.Ids

namespace FlowchartView

open Text

def openingChars : Text := ['(', '[', '{', '>']

theorem of_mem_openingChars {c : Char} (h : c ∈ openingChars) :
    isBlank c = false ∧ isIdChar c = false ∧ c ≠ '%' ∧ isKeywordChar c = false := by
  simp only [openingChars, List.mem_cons, List.not_mem_nil, or_false] at h
  rcases h with rfl | rfl | rfl | rfl <;> decide

namespace Shape

theorem opening_eq_cons (s : Shape) : ∃ o t, s.opening = o :: t ∧ o ∈ openingChars := by
  cases s <;> exact ⟨_, _, rfl, by decide⟩

theorem closing_ne_nil (s : Shape) : s.closing ≠ [] := by cases s <;> decide

theorem isWord_closing (s : Shape) : IsWord s.closing := by cases s <;> decide

theorem percent_not_mem_opening (s : Shape) : '%' ∉ s.opening := by cases s <;> decide

theorem percent_not_mem_closing (s : Shape) : '%' ∉ s.closing := by cases s <;> decide

theorem not_isIdChar_of_mem_closing (s : Shape) : ∀ c ∈ s.closing, isIdChar c = false := by
  have hall : s.closing.all (!isIdChar ·) := by cases s <;> decide
  simpa using hall

theorem eq_of_enclosingShape? {t label : Text} {s : Shape}
    (h : enclosingShape? t = some (s, label)) : t = s.opening ++ (label ++ s.closing) := by
  obtain ⟨s', -, hs⟩ := List.exists_of_findSome?_eq_some h
  obtain ⟨l, hl, he⟩ := Option.map_eq_some_iff.1 hs
  obtain ⟨hin, -⟩ := Option.filter_eq_some_iff.1 hl
  cases he
  exact (inside?_eq_some_iff.1 hin).1

end Shape

def NodeLine.line (n : NodeLine) : Text := n.id ++ n.shape.opening ++ n.label ++ n.shape.closing

namespace NodeLine

theorem parts_of_ofCode? {code : Text} {n : NodeLine} (h : ofCode? code = some n) :
    isId n.id ∧ n.id.getLast? ≠ some '-' ∧
      ∃ w, (∀ c ∈ w, isBlank c) ∧
        code = n.id ++ (w ++ (n.shape.opening ++ (n.label ++ n.shape.closing))) ∧
        enclosingShape? (n.shape.opening ++ (n.label ++ n.shape.closing)) =
          some (n.shape, n.label) := by
  rw [ofCode?] at h
  cases ht : takeId? code with
  | none => simp [ht] at h
  | some r =>
    obtain ⟨id, rest⟩ := r
    simp only [ht] at h
    split at h
    · cases h
    · next hlast =>
      obtain ⟨⟨shape, label⟩, hm, rfl⟩ := Option.map_eq_some_iff.1 h
      have hshape := Shape.eq_of_enclosingShape? hm
      refine ⟨isId_of_takeId? ht, hlast, rest.takeWhile isBlank, ?_, ?_, ?_⟩
      · exact List.all_eq_true.1 List.all_takeWhile
      · rw [append_of_takeId? ht, ← hshape, trimStart, List.takeWhile_append_dropWhile]
      · rw [← hshape, hm]

theorem label_isInfix {code : Text} {n : NodeLine} (h : ofCode? code = some n) :
    n.label <:+: code := by
  obtain ⟨-, -, w, -, heq, -⟩ := parts_of_ofCode? h
  exact ⟨n.id ++ (w ++ n.shape.opening), n.shape.closing, by simp [heq]⟩

theorem ofCode?_append_id (s : Text) {id : Id} (hid : isId id) : ofCode? (s ++ id) = none := by
  cases hn : ofCode? (s ++ id) with
  | none => rfl
  | some n =>
    obtain ⟨-, -, w, -, heq, -⟩ := parts_of_ofCode? hn
    have hne := ne_nil_of_isId hid
    have hclosing := n.shape.closing_ne_nil
    have hlast := congrArg List.getLast? heq
    simp only [List.getLast?_append, List.getLast?_eq_some_getLast hne,
      List.getLast?_eq_some_getLast hclosing, Option.some_or, Option.some.injEq] at hlast
    have hchar := isIdChar_of_mem_id hid _ (List.getLast_mem hne)
    have hnot := n.shape.not_isIdChar_of_mem_closing _ (List.getLast_mem hclosing)
    rw [hlast, hnot] at hchar
    cases hchar

theorem ofCode?_append {id : Id} (hid : isId id) (hlast : id.getLast? ≠ some '-') (s : Shape)
    (t : Text) : ofCode? (id ++ (s.opening ++ t)) =
      (enclosingShape? (s.opening ++ t)).map fun m ↦ ⟨id, m.2, m.1⟩ := by
  obtain ⟨o, u, ho, hmem⟩ := s.opening_eq_cons
  obtain ⟨hblank, hchar, -⟩ := of_mem_openingChars hmem
  have htake : takeId? (id ++ (s.opening ++ t)) = some (id, s.opening ++ t) := by
    refine takeId?_append hid fun c hc ↦ ?_
    rw [ho, List.cons_append, List.head?_cons] at hc
    exact Option.some.inj hc ▸ hchar
  have htrim : trimStart (s.opening ++ t) = s.opening ++ t := by
    refine trimStart_eq_self fun c hc ↦ ?_
    rw [ho, List.cons_append, List.head?_cons] at hc
    exact Option.some.inj hc ▸ hblank
  rw [ofCode?, htake]
  simp only [if_neg hlast, htrim]

theorem line_eq (n : NodeLine) :
    n.line = n.id ++ (n.shape.opening ++ (n.label ++ n.shape.closing)) := by simp [line]

theorem isTrimmed_line {n : NodeLine} (hid : isId n.id) : IsTrimmed n.line := by
  rw [line_eq, ← List.append_assoc n.shape.opening]
  exact isTrimmed_append (ne_nil_of_isId hid) n.shape.closing_ne_nil (isWord_of_isId hid)
    n.shape.isWord_closing _

theorem infix_percents_of_line {n : NodeLine} (hid : isId n.id) (h : ['%', '%'] <:+: n.line) :
    ['%', '%'] <:+: n.label := by
  rw [line_eq] at h
  have hbehind := infix_percents_of_append_left (percent_not_mem_id hid) h
  exact infix_percents_of_append_right n.shape.percent_not_mem_closing
    (infix_percents_of_append_left n.shape.percent_not_mem_opening hbehind)

theorem ofCode?_line {code : Text} {n : NodeLine} (h : ofCode? code = some n) :
    ofCode? n.line = some n := by
  obtain ⟨hid, hlast, w, -, -, hshape⟩ := parts_of_ofCode? h
  rw [line_eq, ofCode?_append hid hlast, hshape, Option.map_some]

/-- An opening behind the first id keeps the first word from being a keyword. -/
theorem statement_append {id : Id} (hid : isId id) (s : Shape) (t : Text) :
    Statement.ofCode (id ++ (s.opening ++ t)) =
      (((ofCode? (id ++ (s.opening ++ t))).map .node).or
        ((Edge.ofCode? (id ++ (s.opening ++ t))).map .edge)).getD .unrecognised := by
  obtain ⟨o, u, ho, hmem⟩ := s.opening_eq_cons
  obtain ⟨hblank, -, -, hkeyword⟩ := of_mem_openingChars hmem
  have hfirst : o ∈ firstWord (id ++ (s.opening ++ t)) := by
    have hcode : id ++ (s.opening ++ t) = (id ++ [o]) ++ (u ++ t) := by simp [ho]
    rw [hcode]
    refine mem_firstWord (fun c hc ↦ ?_) _ (by simp)
    rcases List.mem_append.1 hc with hc | hc
    · exact isWord_of_isId hid c hc
    · exact List.mem_singleton.1 hc ▸ hblank
  exact Statement.ofCode_of_not_keyword (isKeyword_eq_false hfirst hkeyword)

theorem statement_line {code : Text} {n : NodeLine} (h : ofCode? code = some n) :
    Statement.ofCode n.line = .node n := by
  obtain ⟨hid, -, -⟩ := parts_of_ofCode? h
  have hline := ofCode?_line h
  rw [line_eq] at hline ⊢
  rw [statement_append hid, hline]
  rfl

theorem isCode_line {code : Text} {n : NodeLine} (hcode : IsCode code) (h : ofCode? code = some n) :
    IsCode n.line := by
  obtain ⟨hid, -, w, -, heq, -⟩ := parts_of_ofCode? h
  refine ⟨isTrimmed_line hid, fun hp ↦ ?_, ?_⟩
  · exact hcode.uncommented ((infix_percents_of_line hid hp).trans (label_isInfix h))
  · have hall := hcode.isOneLine
    rw [heq, isOneLine_append, isOneLine_append] at hall
    rw [line_eq, isOneLine_append]
    exact ⟨hall.1, hall.2.2⟩

theorem says_line {code : Text} {n : NodeLine} (hcode : IsCode code)
    (h : ofCode? code = some n) : Says n.line (.node n) := by
  obtain ⟨hid, -⟩ := parts_of_ofCode? h
  exact ⟨isCode_line hcode h, by simp [line, ne_nil_of_isId hid], statement_line h⟩

end NodeLine

end FlowchartView

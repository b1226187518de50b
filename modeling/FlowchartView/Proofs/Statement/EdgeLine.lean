import FlowchartView.Proofs.Statement.ClassLine
import FlowchartView.Proofs.Statement.EdgeGrammar

namespace FlowchartView

open Text

/-- The id is `class`, `classDef` or, in any letter case, `subgraph`: a keyword that makes a
statement with whatever stands behind a blank. -/
def spellsStatement (id : Id) : Bool :=
  id == classKeyword || id == classDefKeyword || id.map Char.toLower == subgraphKeyword

theorem suffix_dropWhile {p : Char → Bool} {s t : Text} (h : t <:+ s)
    (ht : ∀ c ∈ t.head?, p c = false) : t <:+ s.dropWhile p := by
  obtain ⟨u, rfl⟩ := h
  induction u with
  | nil =>
    cases t with
    | nil => simp
    | cons c t => simp [ht c rfl]
  | cons d u ih =>
    rw [List.cons_append, List.dropWhile_cons]
    split
    · exact ih
    · exact (List.suffix_append u t).trans (List.suffix_cons d _)

theorem isKeywordAnyCase_eq {k : Text} (hk : 's' ∉ k ∧ 'i' ∉ k) (w : Text) :
    isKeywordAnyCase k w = (w.map Char.toLower == k) := by
  induction k generalizing w with
  | nil => cases w <;> rfl
  | cons a k ih =>
    simp only [List.mem_cons, not_or] at hk
    cases w with
    | nil => rfl
    | cons c w =>
      have hw := ih ⟨hk.1.2, hk.2.2⟩ w
      rw [isKeywordAnyCase] at hw
      cases hc : c.toLower == a <;>
        simp [isKeywordAnyCase, afterAnyCase?, sameLetter, Ne.symm hk.1.1, Ne.symm hk.2.1, hc, hw]

/-- An id is ASCII at its start, where the long s would be an s. -/
theorem isKeywordAnyCase_subgraph {id : Id} (hid : isId id) :
    isKeywordAnyCase subgraphKeyword id = (id.map Char.toLower == subgraphKeyword) := by
  cases id with
  | nil => rfl
  | cons c s =>
    rw [isId, Bool.and_eq_true] at hid
    have hlong : c ≠ 'ſ' := by
      rintro rfl
      exact absurd hid.1 (by decide)
    obtain ⟨k, hsplit, hk⟩ : ∃ k, subgraphKeyword = 's' :: k ∧ 's' ∉ k ∧ 'i' ∉ k :=
      ⟨subgraphKeyword.tail, rfl, by decide⟩
    have hs := isKeywordAnyCase_eq hk s
    rw [isKeywordAnyCase] at hs
    rw [hsplit]
    cases hc : c.toLower == 's' <;>
      simp [isKeywordAnyCase, afterAnyCase?, sameLetter, hlong, hc, hs]

namespace Edge

def tail (e : Edge) : Text := e.operator ++ ' ' :: e.right

theorem line_eq (e : Edge) : e.line = e.left ++ ' ' :: e.tail := by simp [line, tail]

section

variable {e : Edge} (h : e.IsLegal)
include h

theorem IsLegal.isLinkChar_of_mem : ∀ c ∈ e.operator, isLinkChar c :=
  (of_isOperator h.operator).2

theorem IsLegal.operator_eq_cons : ∃ o t, e.operator = o :: t ∧ isLinkChar o := by
  have hop := h.operator
  cases ho : e.operator with
  | nil =>
    rw [ho] at hop
    cases hop
  | cons o t => exact ⟨o, t, rfl, h.isLinkChar_of_mem o (by simp [ho])⟩

theorem IsLegal.tail_eq_cons : ∃ o t, e.tail = o :: t ∧ isLinkChar o := by
  obtain ⟨o, t, ho, hlink⟩ := h.operator_eq_cons
  exact ⟨o, t ++ ' ' :: e.right, by rw [tail, ho, List.cons_append], hlink⟩

theorem IsLegal.trimStart_tail : trimStart e.tail = e.tail := by
  obtain ⟨o, t, ht, hlink⟩ := h.tail_eq_cons
  refine trimStart_eq_self fun c hc ↦ ?_
  rw [ht, List.head?_cons] at hc
  exact Option.some.inj hc ▸ (of_isLinkChar hlink).1

theorem IsLegal.linkToId?_blank_tail : linkToId? (' ' :: e.tail) = some (e.operator, e.right) := by
  have hblank : ∀ c ∈ [' '], isBlank c := List.forall_mem_singleton.2 rfl
  refine linkToId?_eq_some_iff.2 ⟨⟨⟨[' '], e.operator, [' '], hblank, h.operator, hblank⟩, rfl, ?_⟩,
    h.right⟩
  simp [Link.text, tail]

/-- No link to an id starts inside the left id, since a blank stands behind it. -/
theorem IsLegal.linkToId?_eq_none {u : Text} (hne : u ≠ []) (hu : ∀ c ∈ u, isIdChar c) :
    linkToId? (u ++ ' ' :: e.tail) = none := by
  obtain ⟨c, s, rfl⟩ := List.exists_cons_of_ne_nil hne
  have hc : isBlank c = false := not_isBlank_of_isIdChar (hu c List.mem_cons_self)
  have htrim : trimStart (c :: s ++ ' ' :: e.tail) = c :: s ++ ' ' :: e.tail := by
    refine trimStart_eq_self ?_
    rintro d ⟨⟩
    exact hc
  have hlink : ' ' :: e.tail <:+ (c :: s ++ ' ' :: e.tail).dropWhile isLinkChar := by
    refine suffix_dropWhile (List.suffix_append _ _) ?_
    rintro d ⟨⟩
    decide
  have hrest : e.tail <:+ trimStart ((c :: s ++ ' ' :: e.tail).dropWhile isLinkChar) := by
    obtain ⟨o, t, ht, ho⟩ := h.tail_eq_cons
    refine suffix_dropWhile ((List.suffix_cons ' ' _).trans hlink) ?_
    rw [ht]
    rintro d ⟨⟩
    exact (of_isLinkChar ho).1
  have hblank : ' ' ∈ trimStart ((c :: s ++ ' ' :: e.tail).dropWhile isLinkChar) :=
    hrest.mem (by simp [tail])
  rw [linkToId?, takeLink?, htrim, Option.filter_eq_none_iff]
  intro r hr hid
  obtain ⟨-, hr⟩ := Option.ite_none_right_eq_some.1 hr
  rw [← Option.some.inj hr] at hid
  have hspace := isIdChar_of_mem_id hid ' ' hblank
  revert hspace
  decide

theorem IsLegal.edgeTail?_append {u : Text} (hu : ∀ c ∈ u, isIdChar c) :
    edgeTail? (u ++ ' ' :: e.tail) = some (u, e.operator, e.right) := by
  induction u with
  | nil => rw [List.nil_append, edgeTail?_cons, h.linkToId?_blank_tail]
  | cons c u ih =>
    have hnone := h.linkToId?_eq_none (List.cons_ne_nil c u) hu
    obtain ⟨hc, hu⟩ := List.forall_mem_cons.1 hu
    rw [List.cons_append] at hnone ⊢
    rw [edgeTail?_cons, hnone]
    simp [hc, ih hu]

theorem IsLegal.ofCode?_line : ofCode? e.line = some e := by
  have hleft := h.left
  rw [line_eq]
  cases hl : e.left with
  | nil =>
    rw [hl] at hleft
    cases hleft
  | cons c s =>
    rw [hl, isId, Bool.and_eq_true, List.all_eq_true] at hleft
    rw [List.cons_append, ofCode?, if_pos hleft.1, h.edgeTail?_append hleft.2, Option.map_some,
      ← hl]

theorem IsLegal.nodeLine?_line : NodeLine.ofCode? e.line = none :=
  NodeLine.ofCode?_append_id _ h.right

theorem IsLegal.skipBlanks?_tail : skipBlanks? (' ' :: e.tail) = some e.tail := by
  rw [skipBlanks?, if_pos (by decide), h.trimStart_tail]

theorem IsLegal.firstWord_line : firstWord e.line = e.left := by
  rw [line_eq]
  exact firstWord_append_blank (isWord_of_isId h.left) (by decide) _

theorem IsLegal.afterFirstWord_line : afterFirstWord e.line = ' ' :: e.tail := by
  rw [line_eq]
  exact afterFirstWord_append_blank (isWord_of_isId h.left) (by decide) _

theorem IsLegal.styleClass?_line : StyleClass.ofCode? e.line =
    if e.left = classDefKeyword then some ⟨e.operator, e.right, e.line⟩ else none := by
  have hop : ∀ c ∈ e.operator, (!isBlank c) = true := fun c hc ↦ by
    simp [(of_isLinkChar (h.isLinkChar_of_mem c hc)).1]
  have hright : trimStart e.right = e.right :=
    trimStart_eq_self fun c hc ↦ isWord_of_isId h.right c (List.mem_of_mem_head? hc)
  rw [StyleClass.ofCode?, bind_skipBlanks?_after? (by decide), h.firstWord_line,
    h.afterFirstWord_line, h.skipBlanks?_tail]
  split
  · rw [Option.bind_some, tail, List.dropWhile_append_of_pos hop, List.takeWhile_append_of_pos hop]
    simp [skipBlanks?, isBlank, hright]
  · rfl

theorem IsLegal.membership?_line : ClassMembership.ofCode? e.line =
    if e.left = classKeyword then some ⟨[e.operator], e.right⟩ else none := by
  split
  · next hl =>
    obtain ⟨o, t, ho, hlink⟩ := h.operator_eq_cons
    have hline : e.line = classKeyword ++ ' ' :: (e.operator ++ ' ' :: e.right) := by
      rw [line_eq, hl]
      rfl
    have hstart : ∀ c ∈ e.operator.head?, isBlank c = false := by
      rw [ho]
      rintro c ⟨⟩
      exact (of_isLinkChar hlink).1
    have hfields : fields isIdSeparator e.operator = [e.operator] :=
      fields_eq_singleton (by simp [ho]) fun c hc ↦
        (of_isLinkChar (h.isLinkChar_of_mem c hc)).2.2.1
    rw [hline, ClassMembership.ofCode?_append (by simp [ho]) hstart (isWord_of_isId h.right),
      hfields]
  · next hl => exact ClassMembership.ofCode?_eq_none (h.firstWord_line ▸ hl)

theorem IsLegal.isClick_line : isClick e.line = false := by
  obtain ⟨o, t, ht, hlink⟩ := h.tail_eq_cons
  have htake : takeId? e.tail = none := by
    rw [ht, takeId?, if_neg (by simp [(of_isLinkChar hlink).2.1])]
  rw [isClick, bind_skipBlanks?_after? (by decide), h.afterFirstWord_line, h.skipBlanks?_tail]
  split
  · rw [Option.bind_some, htake]
    rfl
  · rfl

theorem IsLegal.subgraphTitle?_line : subgraphTitle? e.line =
    if e.left.map Char.toLower = subgraphKeyword then some e.tail else none := by
  have hk := isKeywordAnyCase_subgraph h.left
  split
  · next hl =>
    have hb := bind_skipBlanks?_afterAnyCase? (k := subgraphKeyword) (by decide) e.line
    rw [h.firstWord_line, hk, hl, beq_self_eq_true, if_pos rfl, h.afterFirstWord_line,
      h.skipBlanks?_tail] at hb
    obtain ⟨rest, hrest, hskip⟩ := Option.bind_eq_some_iff.1 hb
    cases rest with
    | nil => cases hskip
    | cons b rest => rw [subgraphTitle?, hrest, ← hskip]
  · next hl =>
    refine subgraphTitle?_eq_none ?_
    rw [h.firstWord_line, hk, beq_eq_false_iff_ne]
    exact hl

theorem IsLegal.isDirection_line : isDirection e.line = false := by
  obtain ⟨o, t, ht, hlink⟩ := h.tail_eq_cons
  have hletter := (of_isLinkChar hlink).2.2.2.2
  simp only [List.all_cons, List.all_nil, Bool.and_true, Bool.and_eq_true, Bool.not_eq_true']
    at hletter
  rw [isDirection, bind_skipBlanks?_afterAnyCase? (by decide), h.afterFirstWord_line,
    h.skipBlanks?_tail]
  split
  · simp [ht, afterAnyCase?, hletter]
  · rfl

theorem IsLegal.isEnd_line : isEnd e.line = false := by
  cases hend : isEnd e.line with
  | false => rfl
  | true =>
    have hword := firstWord_of_isKeywordAnyCase (by decide) hend
    have hlength := congrArg List.length hword
    rw [h.firstWord_line, line_eq] at hlength
    simp at hlength

theorem IsLegal.statement_line : Statement.ofCode e.line =
    if e.left = classDefKeyword then .styleClass ⟨e.operator, e.right, e.line⟩
    else if e.left = classKeyword then .membership ⟨[e.operator], e.right⟩
    else if e.left.map Char.toLower = subgraphKeyword then .subgraph e.line e.tail
    else .edge e := by
  rw [Statement.ofCode, h.styleClass?_line, h.membership?_line, h.isClick_line,
    h.subgraphTitle?_line, h.isDirection_line, h.isEnd_line, h.nodeLine?_line, h.ofCode?_line]
  simp only [Bool.false_eq_true, if_false]
  split
  · rfl
  · split
    · rfl
    · split <;> rfl

theorem IsLegal.isCode_line : IsCode e.line := by
  have hop : IsWord e.operator := fun c hc ↦ (of_isLinkChar (h.isLinkChar_of_mem c hc)).1
  have hpercent : '%' ∉ e.operator := fun hp ↦
    (of_isLinkChar (h.isLinkChar_of_mem _ hp)).2.2.2.1 rfl
  exact {
    isTrimmed := by
      have hframe := isTrimmed_append (ne_nil_of_isId h.left) (ne_nil_of_isId h.right)
        (isWord_of_isId h.left) (isWord_of_isId h.right) (' ' :: (e.operator ++ [' ']))
      simpa [line] using hframe
    uncommented := by
      refine not_infix_percents ?_
      simp [line, percent_not_mem_id h.left, percent_not_mem_id h.right, hpercent]
    isOneLine := by
      simp only [line, isOneLine_append]
      exact ⟨⟨⟨⟨(isWord_of_isId h.left).isOneLine, by decide⟩, hop.isOneLine⟩, by decide⟩,
        (isWord_of_isId h.right).isOneLine⟩ }

theorem IsLegal.says_line : Says e.line (Statement.ofCode e.line) :=
  ⟨h.isCode_line, by simp [line], rfl⟩

end

/-- An edge comes back from the line that is drawn for it if and only if it is legal. -/
theorem ofLine?_line_iff_isLegal (e : Edge) : ofLine? e.line = some e ↔ e.IsLegal := by
  constructor
  · exact isLegal_of_ofCode?
  · intro h
    rw [ofLine?, h.isCode_line.codeOf_eq]
    exact h.ofCode?_line

end Edge

end FlowchartView

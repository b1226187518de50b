import FlowchartView.Proofs.Statement.Link
import FlowchartView.Proofs.Statement.NodeLine
import FlowchartView.Statement.EdgeLine

namespace FlowchartView

open Text

theorem linkToId?_eq_some_iff {s op : Text} {id : Id} : linkToId? s = some (op, id) ↔
    (∃ l : Link, l.operator = op ∧ s = l.text ++ id) ∧ isId id := by
  rw [linkToId?, Option.filter_eq_some_iff]
  refine and_congr_left fun hid ↦ ⟨exists_text_of_takeLink?, ?_⟩
  rintro ⟨l, rfl, rfl⟩
  have htake := takeLink?_text_append_id l hid []
  rwa [List.append_nil] at htake

namespace Edge

structure IsLegal (e : Edge) : Prop where
  left : isId e.left
  operator : isOperator e.operator
  right : isId e.right

structure IsCut (e : Edge) (l : Link) (code : Text) : Prop where
  isLegal : e.IsLegal
  operator_eq : l.operator = e.operator
  code_eq : code = e.left ++ (l.text ++ e.right)

structure IsShortestCut (e : Edge) (l : Link) (code : Text) : Prop extends e.IsCut l code where
  length_le : ∀ f m, IsCut f m code → e.left.length ≤ f.left.length

variable {code : Text} {e f : Edge} {l m : Link}

theorem parts_of_edgeTail? {s u op : Text} {id : Id} (h : edgeTail? s = some (u, op, id)) :
    (∀ c ∈ u, isIdChar c) ∧ isId id ∧ ∃ l : Link, l.operator = op ∧ s = u ++ (l.text ++ id) := by
  induction s generalizing u with
  | nil => simp at h
  | cons c s ih =>
    rw [edgeTail?_cons] at h
    cases hl : linkToId? (c :: s) with
    | some r =>
      simp only [hl, Option.some.injEq, Prod.mk.injEq] at h
      obtain ⟨rfl, rfl⟩ := h
      obtain ⟨hlink, hid⟩ := linkToId?_eq_some_iff.1 hl
      exact ⟨by simp, hid, hlink⟩
    | none =>
      simp only [hl] at h
      obtain ⟨hc, h⟩ := Option.ite_none_right_eq_some.1 h
      obtain ⟨⟨v, r⟩, hv, he⟩ := Option.map_eq_some_iff.1 h
      cases he
      obtain ⟨hall, hid, l, hop, rfl⟩ := ih hv
      exact ⟨List.forall_mem_cons.2 ⟨hc, hall⟩, hid, l, hop, rfl⟩

theorem exists_isCut_of_ofCode? (h : ofCode? code = some e) : ∃ l, e.IsCut l code := by
  cases code with
  | nil => simp [ofCode?] at h
  | cons c s =>
    rw [ofCode?] at h
    obtain ⟨hc, h⟩ := Option.ite_none_right_eq_some.1 h
    obtain ⟨⟨u, op, id⟩, hu, rfl⟩ := Option.map_eq_some_iff.1 h
    obtain ⟨hall, hid, l, rfl, rfl⟩ := parts_of_edgeTail? hu
    exact ⟨l, ⟨by simpa [isId, hc] using hall, l.isOperator_operator, hid⟩, rfl, rfl⟩

theorem isLegal_of_ofCode? (h : ofCode? code = some e) : e.IsLegal := by
  obtain ⟨l, hcut⟩ := exists_isCut_of_ofCode? h
  exact hcut.isLegal

theorem ofCode?_eq_none {c : Char} (hc : c ∈ code) (hid : isIdChar c = false)
    (hblank : isBlank c = false) (hlink : isLinkChar c = false) : ofCode? code = none := by
  cases he : ofCode? code with
  | none => rfl
  | some e =>
    obtain ⟨l, hcut⟩ := exists_isCut_of_ofCode? he
    have hword : ∀ id : Id, isId id → c ∉ id := by
      intro id h hmem
      rw [isIdChar_of_mem_id h c hmem] at hid
      cases hid
    rw [hcut.code_eq] at hc
    simp [hword _ hcut.isLegal.left, hword _ hcut.isLegal.right,
      l.not_mem_text hblank hlink] at hc

theorem IsCut.eq_of_left_eq (he : e.IsCut l code) (hf : f.IsCut m code) (h : e.left = f.left) :
    e = f ∧ l = m := by
  have hrest : l.text ++ e.right = m.text ++ f.right := by
    have heq := he.code_eq.symm.trans hf.code_eq
    rw [h] at heq
    exact List.append_cancel_left heq
  obtain ⟨rfl, hright⟩ := Link.eq_of_append_eq he.isLegal.right hf.isLegal.right hrest
  have hop := he.operator_eq.symm.trans hf.operator_eq
  cases e
  cases f
  cases h
  cases hop
  cases hright
  exact ⟨rfl, rfl⟩

theorem IsCut.left_eq_of_length_eq (he : e.IsCut l code) (hf : f.IsCut m code)
    (h : e.left.length = f.left.length) : e.left = f.left :=
  List.append_inj_left (he.code_eq.symm.trans hf.code_eq) h

theorem edgeTail?_of_linkToId? {s : Text} {r : Text × Id} (h : linkToId? s = some r) :
    edgeTail? s = some ([], r) := by
  cases s with
  | nil => simp [linkToId?, takeLink?, trimStart] at h
  | cons c s => rw [edgeTail?_cons, h]

/-- By induction on the left id: the search ends where this can be cut off, if not before. -/
theorem exists_edgeTail?_append {u : Text} (hu : ∀ c ∈ u, isIdChar c) (l : Link) {id : Id}
    (hid : isId id) :
    ∃ v r, edgeTail? (u ++ (l.text ++ id)) = some (v, r) ∧ v.length ≤ u.length := by
  induction u with
  | nil =>
    have hlink := linkToId?_eq_some_iff.2 ⟨⟨l, rfl, rfl⟩, hid⟩
    exact ⟨[], _, edgeTail?_of_linkToId? hlink, Nat.le_refl 0⟩
  | cons c u ih =>
    obtain ⟨hc, hu⟩ := List.forall_mem_cons.1 hu
    obtain ⟨v, r, hv, hle⟩ := ih hu
    rw [List.cons_append, edgeTail?_cons]
    cases linkToId? (c :: (u ++ (l.text ++ id))) with
    | some r => exact ⟨[], r, rfl, Nat.zero_le _⟩
    | none => exact ⟨c :: v, r, by simp [hc, hv], Nat.succ_le_succ hle⟩

theorem IsCut.exists_ofCode? (he : e.IsCut l code) :
    ∃ f, ofCode? code = some f ∧ f.left.length ≤ e.left.length := by
  have hleft := he.isLegal.left
  rw [he.code_eq]
  cases hl : e.left with
  | nil =>
    rw [hl] at hleft
    cases hleft
  | cons c u =>
    rw [hl, isId, Bool.and_eq_true, List.all_eq_true] at hleft
    obtain ⟨v, r, hv, hle⟩ := exists_edgeTail?_append hleft.2 l he.isLegal.right
    refine ⟨⟨c :: v, r.1, r.2⟩, ?_, Nat.succ_le_succ hle⟩
    rw [List.cons_append, ofCode?, if_pos hleft.1, hv, Option.map_some]

theorem ofCode?_eq_some_iff : ofCode? code = some e ↔ ∃ l, e.IsShortestCut l code := by
  constructor
  · intro h
    obtain ⟨l, hcut⟩ := exists_isCut_of_ofCode? h
    refine ⟨l, hcut, fun f m hf ↦ ?_⟩
    obtain ⟨e', he', hle⟩ := hf.exists_ofCode?
    rwa [Option.some.inj (h.symm.trans he')]
  · rintro ⟨l, hcut, hshortest⟩
    obtain ⟨f, hf, hle⟩ := hcut.exists_ofCode?
    obtain ⟨m, hfcut⟩ := exists_isCut_of_ofCode? hf
    have hlength := Nat.le_antisymm (hshortest f m hfcut) hle
    have hleft := hcut.left_eq_of_length_eq hfcut hlength
    rw [hf, (hcut.eq_of_left_eq hfcut hleft).1]

theorem IsCut.nodeLine?_eq_none (he : e.IsCut l code) : NodeLine.ofCode? code = none := by
  rw [he.code_eq, ← List.append_assoc]
  exact NodeLine.ofCode?_append_id _ he.isLegal.right

/-- A line is an edge when its code can be cut into an id, a link and an id. The edge is the cut
with the shortest left id, and there is one cut at most with that id. No line is an edge and a
node. -/
theorem isShortestCut_ofLine? (line : Text) :
    ((ofLine? line).isSome ↔ ∃ e l, IsCut e l (codeOf line)) ∧
    (∀ e, ofLine? line = some e ↔ ∃ l, e.IsShortestCut l (codeOf line)) ∧
    (∀ e l f m, IsCut e l (codeOf line) → IsCut f m (codeOf line) → e.left = f.left →
      e = f ∧ l = m) ∧
    (ofLine? line = none ∨ NodeLine.ofLine? line = none) := by
  refine ⟨?_, fun e ↦ ofCode?_eq_some_iff, fun e l f m he hf ↦ he.eq_of_left_eq hf, ?_⟩
  · rw [Option.isSome_iff_exists]
    constructor
    · rintro ⟨e, he⟩
      exact ⟨e, exists_isCut_of_ofCode? he⟩
    · rintro ⟨e, l, he⟩
      obtain ⟨f, hf, -⟩ := he.exists_ofCode?
      exact ⟨f, hf⟩
  · cases he : ofLine? line with
    | none => exact .inl rfl
    | some e =>
      obtain ⟨l, hcut⟩ := exists_isCut_of_ofCode? he
      exact .inr hcut.nodeLine?_eq_none

theorem isShortestCut_ofLine?_hyphens :
    let line := "a--b--c".toList
    let dashes : Link := ⟨[], ['-', '-'], [], nofun, rfl, nofun⟩
    let short : Edge := ⟨['a'], ['-', '-'], "b--c".toList⟩
    let long : Edge := ⟨"a--b".toList, ['-', '-'], ['c']⟩
    short.IsCut dashes (codeOf line) ∧ long.IsCut dashes (codeOf line) ∧ short.left ≠ long.left ∧
      ofLine? line = some short ∧ NodeLine.ofLine? line = none := by
  intro line dashes short long
  have hcode : codeOf line = line := by decide
  have hshort : short.IsCut dashes (codeOf line) := ⟨⟨rfl, rfl, rfl⟩, rfl, hcode⟩
  have hlong : long.IsCut dashes (codeOf line) := ⟨⟨rfl, rfl, rfl⟩, rfl, hcode⟩
  have hshortest : short.IsShortestCut dashes (codeOf line) :=
    ⟨hshort, fun f _ hf ↦ List.length_pos_iff.2 (ne_nil_of_isId hf.isLegal.left)⟩
  obtain ⟨-, hread, hunique, hnode⟩ := isShortestCut_ofLine? line
  have hedge : ofLine? line = some short := (hread short).2 ⟨dashes, hshortest⟩
  refine ⟨hshort, hlong, fun hleft ↦ ?_, hedge, hnode.resolve_left (by simp [hedge])⟩
  exact absurd (hunique short dashes long dashes hshort hlong hleft).1 (by decide)

end Edge

end FlowchartView

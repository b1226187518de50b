import FlowchartView.Drawing.Entry
import FlowchartView.Proofs.Statement.Reading
import FlowchartView.Proofs.Text.Code
import FlowchartView.Proofs.Text.Fields

namespace FlowchartView

open Text

/-- What a class line may list: not only ids, but any word without a comma. -/
structure IsClassId (x : Text) : Prop where
  ne_nil : x ≠ []
  not_separator : ∀ c ∈ x, isIdSeparator c = false
  uncommented : ¬['%', '%'] <:+: x

theorem IsClassId.isWord {x : Text} (h : IsClassId x) : IsWord x := by
  intro c hc
  have hs := h.not_separator c hc
  rw [isIdSeparator, Bool.or_eq_false_iff] at hs
  exact hs.1

theorem splitLastWord_append {name : Text} (h : IsWord name) {b : Char}
    (hb : isBlank b) (s : Text) : splitLastWord (s ++ b :: name) = (s ++ [b], name) := by
  have hname : ∀ c ∈ name.reverse, (!isBlank c) = true := by simpa [IsWord] using h
  have hrev : (s ++ b :: name).reverse = name.reverse ++ b :: s.reverse := by simp
  rw [splitLastWord, hrev, List.dropWhile_append_of_pos hname, List.takeWhile_append_of_pos hname]
  simp [hb]

theorem splitLastWord_spec (s : Text) :
    (splitLastWord s).1 <+: s ∧ (splitLastWord s).2 <:+ s ∧
      IsWord (splitLastWord s).2 := by
  have happend := append_splitLastWord s
  refine ⟨⟨_, happend⟩, ⟨_, happend⟩, fun c hc ↦ ?_⟩
  have hword := List.all_eq_true.1 List.all_takeWhile c (List.mem_reverse.1 hc)
  simpa using hword

theorem splitLastWord_ne_nil {s : Text} (hne : s ≠ [])
    (h : ∀ c ∈ s.getLast?, isBlank c = false) : (splitLastWord s).2 ≠ [] := by
  obtain ⟨t, c, rfl⟩ := List.eq_nil_or_concat s |>.resolve_left hne
  have hc : isBlank c = false := h c (by simp)
  simp [splitLastWord, hc]

namespace ClassMembership

structure IsLegal (a : ClassMembership) : Prop where
  ids : ∀ x ∈ a.ids, IsClassId x
  name_ne_nil : a.className ≠ []
  name_isWord : IsWord a.className
  name_uncommented : ¬['%', '%'] <:+: a.className

theorem IsLegal.of_subset {a b : ClassMembership} (h : a.IsLegal) (hids : b.ids ⊆ a.ids)
    (hname : b.className = a.className) : b.IsLegal where
  ids x hx := h.ids x (hids hx)
  name_ne_nil := hname ▸ h.name_ne_nil
  name_isWord := hname ▸ h.name_isWord
  name_uncommented := hname ▸ h.name_uncommented

theorem isLegal_of_ofCode? {code : Text} {a : ClassMembership} (hcode : IsCode code)
    (h : ofCode? code = some a) : a.IsLegal := by
  obtain ⟨rest, hrest, h⟩ := Option.bind_eq_some_iff.1 h
  obtain ⟨body, hbody, h⟩ := Option.bind_eq_some_iff.1 h
  obtain ⟨-, h⟩ := Option.ite_none_left_eq_some.1 (by simpa only using h)
  obtain rfl := Option.some.inj h
  obtain ⟨w, -, -, hw⟩ := append_of_skipBlanks? hbody
  have heq : code = (classKeyword ++ w) ++ body := by
    rw [after?_eq_some_iff.1 hrest, hw, List.append_assoc]
  have hsuffix : body <:+ code := ⟨_, heq.symm⟩
  have hrestLast := (after?_eq_some_iff.1 hrest ▸ hcode.isTrimmed).getLast?_of_append
  have hne := skipBlanks?_ne_nil hbody hrestLast
  obtain ⟨hids, hname, hblank⟩ := splitLastWord_spec body
  exact {
    ids := by
      intro x hx
      obtain ⟨hxne, hsep, hxin⟩ := of_mem_fields hx
      refine ⟨hxne, hsep, fun hp ↦ hcode.uncommented ?_⟩
      exact hp.trans (hxin.trans (hids.isInfix.trans hsuffix.isInfix))
    name_ne_nil := splitLastWord_ne_nil hne (heq ▸ hcode.isTrimmed).getLast?_of_append
    name_isWord := hblank
    name_uncommented := fun hp ↦ hcode.uncommented (hp.trans (hname.trans hsuffix).isInfix) }

theorem ofCode?_append {words name : Text} (hne : words ≠ [])
    (hstart : ∀ c ∈ words.head?, isBlank c = false) (hname : IsWord name) :
    ofCode? (classKeyword ++ ' ' :: (words ++ ' ' :: name)) =
      some ⟨fields isIdSeparator words, name⟩ := by
  have hafter : after? classKeyword (classKeyword ++ ' ' :: (words ++ ' ' :: name)) =
      some (' ' :: (words ++ ' ' :: name)) := after?_eq_some_iff.2 rfl
  have htrim : trimStart (words ++ ' ' :: name) = words ++ ' ' :: name := by
    refine trimStart_eq_self fun c hc ↦ hstart c ?_
    rwa [List.head?_append, List.head?_eq_some_head hne, Option.some_or,
      ← List.head?_eq_some_head hne] at hc
  have hskip : skipBlanks? (' ' :: (words ++ ' ' :: name)) = some (words ++ ' ' :: name) := by
    rw [skipBlanks?, if_pos (by decide), htrim]
  have hfields : fields isIdSeparator (words ++ [' ']) = fields isIdSeparator words := by
    rw [fields_append_cons (by decide)]
    exact List.append_nil _
  rw [ofCode?, hafter, Option.bind_some, hskip, Option.bind_some,
    splitLastWord_append hname (by decide)]
  simp [hfields]

variable {a : ClassMembership}

theorem line_eq (a : ClassMembership) : a.line =
    classKeyword ++ ' ' :: ([','].intercalate a.ids ++ ' ' :: a.className) := by
  simp [line]

theorem IsLegal.ofCode?_line (h : a.IsLegal) (hne : a.ids ≠ []) : ofCode? a.line = some a := by
  obtain ⟨x, xs, hx⟩ := List.exists_cons_of_ne_nil hne
  have hhead : ∃ t, [','].intercalate a.ids = x ++ t := by
    rw [hx]
    cases xs with
    | nil => exact ⟨[], by simp⟩
    | cons y ys => exact ⟨_, by rw [List.intercalate_cons_cons, List.append_assoc]⟩
  obtain ⟨t, ht⟩ := hhead
  have hxid : IsClassId x := h.ids x (by simp [hx])
  have hwords : [','].intercalate a.ids ≠ [] := by simp [ht, hxid.ne_nil]
  have hstart : ∀ c ∈ ([','].intercalate a.ids).head?, isBlank c = false := by
    intro c hc
    rw [ht, List.head?_append, List.head?_eq_some_head hxid.ne_nil, Option.some_or] at hc
    exact hxid.isWord c (Option.some.inj hc ▸ List.head_mem _)
  rw [line_eq, ofCode?_append hwords hstart h.name_isWord,
    fields_intercalate (by decide) (fun x hx ↦ (h.ids x hx).ne_nil)
      fun x hx ↦ (h.ids x hx).not_separator]

theorem IsLegal.statement_line (h : a.IsLegal) (hne : a.ids ≠ []) :
    Statement.ofCode a.line = .membership a := by
  have hfirst : firstWord a.line = classKeyword := by
    rw [line_eq]
    exact firstWord_append_blank (by decide) (by decide) _
  rw [Statement.ofCode, StyleClass.ofCode?_eq_none (by rw [hfirst]; decide), h.ofCode?_line hne]
  rfl

theorem not_infix_percents_intercalate {xs : List Text} (h : ∀ x ∈ xs, IsClassId x) :
    ¬['%', '%'] <:+: [','].intercalate xs := by
  induction xs with
  | nil => simp
  | cons x xs ih =>
    obtain ⟨hx, hxs⟩ := List.forall_mem_cons.1 h
    cases xs with
    | nil => simpa using hx.uncommented
    | cons y ys =>
      rw [List.intercalate_cons_cons, List.append_assoc, List.singleton_append]
      intro hp
      rcases infix_percents_of_append_cons (by decide) hp with hp | hp
      · exact hx.uncommented hp
      · exact ih hxs hp

theorem isOneLine_intercalate {xs : List Text} (h : ∀ x ∈ xs, IsOneLine x) :
    IsOneLine ([','].intercalate xs) := by
  induction xs with
  | nil => simp [IsOneLine]
  | cons x xs ih =>
    obtain ⟨hx, hxs⟩ := List.forall_mem_cons.1 h
    cases xs with
    | nil => simpa using hx
    | cons y ys =>
      rw [List.intercalate_cons_cons, isOneLine_append, isOneLine_append]
      exact ⟨⟨hx, by decide⟩, ih hxs⟩

theorem IsLegal.isCode_line (h : a.IsLegal) : IsCode a.line where
  isTrimmed := by
    have hframe := isTrimmed_append (s := classKeyword) (by decide) h.name_ne_nil
      (by decide) h.name_isWord (' ' :: ([','].intercalate a.ids ++ [' ']))
    simpa [line_eq] using hframe
  uncommented := by
    rw [line_eq]
    intro hp
    rcases infix_percents_of_append_cons (by decide) hp with hp | hp
    · exact not_infix_percents (by decide) hp
    · rcases infix_percents_of_append_cons (by decide) hp with hp | hp
      · exact not_infix_percents_intercalate h.ids hp
      · exact h.name_uncommented hp
  isOneLine := by
    have hids := isOneLine_intercalate fun x hx ↦ (h.ids x hx).isWord.isOneLine
    have hname := h.name_isWord.isOneLine
    rw [line, isOneLine_append, isOneLine_append, isOneLine_append]
    exact ⟨⟨⟨by decide, hids⟩, by decide⟩, hname⟩

theorem IsLegal.says_line (h : a.IsLegal) (hne : a.ids ≠ []) : Says a.line (.membership a) :=
  ⟨h.isCode_line, by simp [line], h.statement_line hne⟩

end ClassMembership

end FlowchartView

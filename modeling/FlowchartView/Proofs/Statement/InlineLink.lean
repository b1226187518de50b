import FlowchartView.Proofs.Statement.EdgeGrammar
import FlowchartView.Proofs.Statement.Enclosing

namespace FlowchartView

open Text

/-- A label that its delimiters, quotes and comments leave alone. -/
structure IsPlain (label : Text) : Prop where
  ne_nil : label ≠ []
  quote_not_mem : '"' ∉ label
  percent_not_mem : '%' ∉ label
  not_mem_delimiterChars : ∀ c ∈ label, c ∉ delimiterChars

theorem isPlain_singleton {c : Char} (h : c ∉ '"' :: '%' :: delimiterChars) : IsPlain [c] := by
  simp only [List.mem_cons, not_or] at h
  exact ⟨by simp, by simpa using Ne.symm h.1, by simpa using Ne.symm h.2.1, by simpa using h.2.2⟩

theorem IsPlain.isSetOff {t : Text} (h : IsPlain t) : IsSetOff t :=
  isSetOff_of_not_mem h.ne_nil h.not_mem_delimiterChars

def inQuotes (t : Text) : Text := '"' :: (t ++ ['"'])

theorem isSetOff_inQuotes (t : Text) : IsSetOff (inQuotes t) :=
  ⟨⟨'"', _, rfl, by decide⟩, ⟨'"' :: t, '"', rfl, by decide⟩⟩

theorem inDoubleQuotes_inQuotes (t : Text) : inDoubleQuotes (inQuotes t) := by
  simp [inQuotes, inDoubleQuotes]

theorem inDoubleQuotes_iff {t : Text} : inDoubleQuotes t ↔ ∃ u, t = inQuotes u := by
  constructor
  · intro h
    unfold inDoubleQuotes at h
    split at h
    · obtain ⟨u, rfl⟩ := List.getLast?_eq_some_iff.1 (beq_iff_eq.1 h)
      exact ⟨u, rfl⟩
    · cases h
  · rintro ⟨u, rfl⟩
    exact inDoubleQuotes_inQuotes u

theorem inQuotes_append (t m u : Text) :
    inQuotes t ++ (m ++ inQuotes u) = inQuotes (t ++ '"' :: (m ++ '"' :: u)) := by
  simp [inQuotes]

theorem inDoubleQuotes_eq_false {t : Text} (hne : t ≠ []) (ht : '"' ∉ t) (r : Text) :
    inDoubleQuotes (t ++ r) = false := by
  obtain ⟨c, t, rfl⟩ := List.exists_cons_of_ne_nil hne
  rw [List.cons_append, inDoubleQuotes]
  rintro u h
  exact ht ((List.cons.inj h).1 ▸ List.mem_cons_self)

structure IsNodeId (id : Id) : Prop where
  isId : isId id
  getLast?_ne : id.getLast? ≠ some '-'

namespace NodeLine

def linked (n : NodeLine) (between : Text) (m : NodeLine) : Text := n.line ++ (between ++ m.line)

/-- The text between the outermost delimiters of two declarations on one line. -/
def linkedLabel (n : NodeLine) (between : Text) (m : NodeLine) : Text :=
  n.label ++ (n.shape.closing ++ (between ++ (m.id ++ (m.shape.opening ++ m.label))))

theorem linked_eq (n : NodeLine) (between : Text) (m : NodeLine) : n.linked between m =
    n.id ++ (n.shape.opening ++ (n.linkedLabel between m ++ m.shape.closing)) := by
  simp [linked, linkedLabel, line]

theorem linkedLabel_eq (n : NodeLine) (between : Text) (m : NodeLine) : n.linkedLabel between m =
    n.label ++ ((n.shape.closing ++ (between ++ (m.id ++ m.shape.opening))) ++ m.label) := by
  simp [linkedLabel]

theorem isSetOff_linkedLabel {n m : NodeLine} (hn : IsSetOff n.label) (hm : IsSetOff m.label)
    (between : Text) : IsSetOff (n.linkedLabel between m) := by
  rw [linkedLabel_eq]
  exact hn.append hm _

/-- What is read when the outermost delimiters of the line enclose it. -/
def swallow (n : NodeLine) (between : Text) (m : NodeLine) : NodeLine :=
  ⟨n.id, n.linkedLabel between m, n.shape⟩

theorem codeOf_linked {n m : NodeLine} {between : Text} (hid : isId n.id)
    (hpercent : '%' ∉ n.linked between m) : codeOf (n.linked between m) = n.linked between m := by
  have hcode : IsTrimmed (n.linked between m) := by
    rw [linked_eq, ← List.append_assoc n.shape.opening]
    exact isTrimmed_append (ne_nil_of_isId hid) m.shape.closing_ne_nil (isWord_of_isId hid)
      m.shape.isWord_closing _
  rw [codeOf, beforeComment_eq_self (not_infix_percents hpercent), trim_eq_self hcode]

theorem percent_not_mem_linked {n m : NodeLine} {between : Text} (hn : isId n.id) (hm : isId m.id)
    (hlabel : '%' ∉ n.label) (hbetween : '%' ∉ between) (hlabel' : '%' ∉ m.label) :
    '%' ∉ n.linked between m := by
  simp [linked, line, percent_not_mem_id hn, percent_not_mem_id hm, hlabel, hlabel', hbetween,
    Shape.percent_not_mem_opening, Shape.percent_not_mem_closing]

/-- A shape that closes as the first node does finds the link behind its closing. -/
theorem admits_linkedLabel_eq_false {i s : Shape} (hi : i.closing <:+ s.closing) {t : Text}
    (ht : IsPlain t) {b : Id} (hb : isId b) (a : Id) (l : Link) (e : Shape) (u : Text) {v : Text}
    (hv : v ⊆ delimiterChars) (w : Text) :
    i.admits (v ++ (linkedLabel ⟨a, t, s⟩ l.text ⟨b, u, e⟩ ++ w)) = false := by
  have hquote : '"' ∉ v ++ t := by
    intro h
    rcases List.mem_append.1 h with h | h
    · exact absurd (hv h) (by decide)
    · exact ht.quote_not_mem h
  have hquotes :
      inDoubleQuotes (v ++ (linkedLabel ⟨a, t, s⟩ l.text ⟨b, u, e⟩ ++ w)) = false := by
    rw [linkedLabel, List.append_assoc, ← List.append_assoc]
    exact inDoubleQuotes_eq_false (by simp [ht.ne_nil]) hquote _
  have hgoes :
      goesOnWithLink i.closing (v ++ (linkedLabel ⟨a, t, s⟩ l.text ⟨b, u, e⟩ ++ w)) := by
    obtain ⟨c, hc⟩ := hi
    refine goesOnWithLink_iff.2 ⟨v ++ (t ++ c), l.text ++ (b ++ (e.opening ++ (u ++ w))), ?_,
      startsLink_text_append_id l hb _⟩
    simp [linkedLabel, ← hc]
  rw [Shape.admits, hquotes, hgoes]
  rfl

section

variable {a b : Id} (ha : IsNodeId a) (hb : isId b) (s : Shape) (l : Link) {t u : Text}
include ha hb

theorem ofLine?_linked_of_percent_not_mem (e : Shape) (ht : '%' ∉ t) (hu : '%' ∉ u) :
    ofLine? (linked ⟨a, t, s⟩ l.text ⟨b, u, e⟩) =
      (enclosingShape? (s.opening ++ (linkedLabel ⟨a, t, s⟩ l.text ⟨b, u, e⟩ ++ e.closing))).map
        fun m ↦ ⟨a, m.2, m.1⟩ := by
  have hlink : '%' ∉ l.text := l.not_mem_text (by decide) (by decide)
  rw [ofLine?, codeOf_linked ha.isId (percent_not_mem_linked ha.isId hb ht hlink hu), linked_eq,
    ofCode?_append ha.isId ha.getLast?_ne]

theorem ofLine?_linked_inQuotes (ht : '%' ∉ t) (hu : '%' ∉ u) :
    ofLine? (linked ⟨a, inQuotes t, s⟩ l.text ⟨b, inQuotes u, s⟩) =
      some (swallow ⟨a, inQuotes t, s⟩ l.text ⟨b, inQuotes u, s⟩) := by
  have hpercent : ∀ v : Text, '%' ∉ v → '%' ∉ inQuotes v := fun v hv ↦ by simp [inQuotes, hv]
  have hsetOff := isSetOff_linkedLabel (n := ⟨a, inQuotes t, s⟩) (m := ⟨b, inQuotes u, s⟩)
    (isSetOff_inQuotes t) (isSetOff_inQuotes u) l.text
  have hadmits : s.admits (linkedLabel ⟨a, inQuotes t, s⟩ l.text ⟨b, inQuotes u, s⟩) := by
    rw [Shape.admits, linkedLabel_eq, inQuotes_append, inDoubleQuotes_inQuotes, Bool.true_or]
  rw [ofLine?_linked_of_percent_not_mem ha hb s l s (hpercent t ht) (hpercent u hu), swallow,
    enclosingShape?_eq_some hsetOff hadmits, Option.map_some]

theorem ofLine?_linked_of_isPlain (ht : IsPlain t) (hu : IsPlain u) :
    ofLine? (linked ⟨a, t, s⟩ l.text ⟨b, u, s⟩) = none := by
  have hsetOff := isSetOff_linkedLabel (n := ⟨a, t, s⟩) (m := ⟨b, u, s⟩) ht.isSetOff hu.isSetOff
    l.text
  rw [ofLine?_linked_of_percent_not_mem ha hb s l s ht.percent_not_mem hu.percent_not_mem,
    enclosingShape?_eq_none hsetOff, Option.map_none]
  intro i v w hv hw
  have hopening : v ⊆ delimiterChars := fun c hc ↦
    s.opening_subset (hv ▸ List.mem_append_right _ hc)
  exact admits_linkedLabel_eq_false ⟨w, hw⟩ ht hb a l s u hopening w

/-- Between two labels in quotes a link is swallowed, whatever the labels, while between the same
labels without quotes it is no node. -/
theorem ofLine?_linked (ht : '%' ∉ t) (hu : '%' ∉ u) :
    ofLine? (linked ⟨a, inQuotes t, s⟩ l.text ⟨b, inQuotes u, s⟩) =
      some (swallow ⟨a, inQuotes t, s⟩ l.text ⟨b, inQuotes u, s⟩) ∧
    (IsPlain t → IsPlain u → ofLine? (linked ⟨a, t, s⟩ l.text ⟨b, u, s⟩) = none) :=
  ⟨ofLine?_linked_inQuotes ha hb s l ht hu, ofLine?_linked_of_isPlain ha hb s l⟩

end

/-- The lines `A["x"] --> B["y"]` and `A[x] --> B[y]`. -/
theorem ofLine?_linked_boxes :
    let arrow : Link := ⟨[' '], "-->".toList, [' '], List.forall_mem_singleton.2 rfl, rfl,
      List.forall_mem_singleton.2 rfl⟩
    ofLine? (linked ⟨['A'], inQuotes ['x'], .rectangle⟩ arrow.text
      ⟨['B'], inQuotes ['y'], .rectangle⟩) =
        some ⟨['A'], "\"x\"] --> B[\"y\"".toList, .rectangle⟩ ∧
    ofLine? (linked ⟨['A'], ['x'], .rectangle⟩ arrow.text ⟨['B'], ['y'], .rectangle⟩) = none := by
  intro arrow
  have hboxes := ofLine?_linked (a := ['A']) (b := ['B']) (t := ['x']) (u := ['y'])
    ⟨by decide, by decide⟩ (by decide) .rectangle arrow (by decide) (by decide)
  exact ⟨hboxes.1, hboxes.2 (isPlain_singleton (by decide)) (isPlain_singleton (by decide))⟩

end NodeLine

theorem goesOnWithLink_append_pipe (s r : Text) : goesOnWithLink [']'] (s ++ '|' :: r) =
    (goesOnWithLink [']'] s || goesOnWithLink [']'] r) :=
  goesOnWithLink_append_cons (by decide) (by decide) (by decide) (by decide) (by decide) s r

theorem inside?_pipe (x : Text) (l : Link) (z : Text) :
    Shape.rectangle.inside? ('[' :: (x ++ ']' :: (l.text ++ '|' :: z))) =
      (before? [']'] z).map fun y ↦ x ++ ']' :: (l.text ++ '|' :: y) := by
  have hpipe := before?_append_cons (k := [']']) (c := '|') (by decide) (x ++ ']' :: l.text) z
  simp only [List.append_assoc, List.cons_append] at hpipe
  simp only [Shape.inside?, Shape.opening, Shape.closing, after?, if_true, Option.bind_some, hpipe]
  cases before? [']'] z with
  | none => rfl
  | some y => simp

section

variable {x : Text} (hx : IsPlain x) (l : Link)
include hx

theorem admits_append_pipe (y : Text) :
    Shape.rectangle.admits (x ++ ']' :: (l.text ++ '|' :: y)) = !goesOnWithLink [']'] y := by
  have hbracket : ']' ∉ x := fun h ↦ hx.not_mem_delimiterChars _ h (by decide)
  have hlink : ']' ∉ l.text := l.not_mem_text (by decide) (by decide)
  have hstarts : startsLink (l.text ++ '|' :: y) = false :=
    startsLink_text_append (by decide) (by decide) l y
  rw [Shape.admits, inDoubleQuotes_eq_false hx.ne_nil hx.quote_not_mem, Bool.false_or,
    Shape.closing, goesOnWithLink_append_closing hbracket, hstarts, Bool.false_or,
    goesOnWithLink_append_pipe, goesOnWithLink_eq_false (List.mem_singleton_self _) hlink,
    Bool.false_or]

theorem enclosingShape?_pipe (z : Text) :
    enclosingShape? ('[' :: (x ++ ']' :: (l.text ++ '|' :: z))) =
      ((before? [']'] z).filter (!goesOnWithLink [']'] ·)).map fun y ↦
        (.rectangle, x ++ ']' :: (l.text ++ '|' :: y)) := by
  have hbracket : ∀ i : Shape, i.opening <+: Shape.rectangle.opening → i = .rectangle := by
    intro i
    cases i <;> decide
  have hhead : enclosingShape? ('[' :: (x ++ ']' :: (l.text ++ '|' :: z))) =
      ((Shape.rectangle.inside? ('[' :: (x ++ ']' :: (l.text ++ '|' :: z)))).filter
        Shape.rectangle.admits).map fun label ↦ (.rectangle, label) := by
    obtain ⟨c, t, rfl⟩ := List.exists_cons_of_ne_nil hx.ne_nil
    exact enclosingShape?_of_head hbracket (hx.not_mem_delimiterChars c List.mem_cons_self) _
  rw [hhead, inside?_pipe]
  cases before? [']'] z with
  | none => rfl
  | some y =>
    rw [Option.map_some, Option.filter_some, Option.filter_some, admits_append_pipe hx]
    split <;> rfl

variable {a : Id} (ha : IsNodeId a)
include ha

theorem codeOf_pipe (r : Text) : codeOf (a ++ '[' :: (x ++ ']' :: (l.text ++ '|' :: r))) =
    a ++ '[' :: (x ++ ']' :: (l.text ++ '|' :: trimEnd (beforeComment r))) := by
  have hpercent : '%' ∉ a ++ '[' :: (x ++ ']' :: (l.text ++ ['|'])) := by
    simp [percent_not_mem_id ha.isId, hx.percent_not_mem,
      l.not_mem_text (c := '%') (by decide) (by decide)]
  have hbefore := beforeComment_append hpercent r
  have hend := trimEnd_append_cons (c := '|') (by decide) (a ++ '[' :: (x ++ ']' :: l.text))
    (beforeComment r)
  have hstart := trimStart_append_id ha.isId
    ('[' :: (x ++ ']' :: (l.text ++ '|' :: beforeComment r)))
  simp only [List.append_assoc, List.cons_append, List.nil_append] at hbefore hend
  rw [codeOf, hbefore, trim, hstart, hend]

theorem NodeLine.ofLine?_pipe (r : Text) :
    ofLine? (a ++ '[' :: (x ++ ']' :: (l.text ++ '|' :: r))) =
      ((before? [']'] (trimEnd (beforeComment r))).filter (!goesOnWithLink [']'] ·)).map fun y ↦
        ⟨a, x ++ ']' :: (l.text ++ '|' :: y), .rectangle⟩ := by
  have happend := ofCode?_append ha.isId ha.getLast?_ne .rectangle
    (x ++ ']' :: (l.text ++ '|' :: trimEnd (beforeComment r)))
  simp only [Shape.opening, List.cons_append, List.nil_append] at happend
  rw [ofLine?, codeOf_pipe hx l ha, happend, enclosingShape?_pipe hx, Option.map_map]
  rfl

theorem Statement.ofLine_pipe (r : Text) :
    ofLine (a ++ '[' :: (x ++ ']' :: (l.text ++ '|' :: r))) =
      ((NodeLine.ofLine? (a ++ '[' :: (x ++ ']' :: (l.text ++ '|' :: r)))).map .node).getD
        .unrecognised := by
  have happend := NodeLine.statement_append ha.isId .rectangle
    (x ++ ']' :: (l.text ++ '|' :: trimEnd (beforeComment r)))
  simp only [Shape.opening, List.cons_append, List.nil_append] at happend
  have hedge : Edge.ofCode? (a ++ '[' :: (x ++ ']' :: (l.text ++ '|' ::
      trimEnd (beforeComment r)))) = none :=
    Edge.ofCode?_eq_none (c := '[') (by simp) (by decide) (by decide) (by decide)
  rw [ofLine, NodeLine.ofLine?, codeOf_pipe hx l ha, happend, hedge, Option.map_none,
    Option.or_none]
  simp [ne_nil_of_isId ha.isId]

end

theorem beforeComment_append_of_infix {s : Text} (h : ['%', '%'] <:+: s) (r : Text) :
    beforeComment (s ++ r) = beforeComment s := by
  fun_induction beforeComment s with
  | case1 => simp at h
  | case2 s => rfl
  | case3 c s hne ih =>
    have hs : ['%', '%'] <:+: s := by
      rcases List.infix_cons_iff.1 h with ⟨u, hu⟩ | h
      · obtain ⟨hc, hs⟩ := List.cons.inj hu
        exact (hne u hc.symm hs.symm).elim
      · exact h
    have hrest : ∀ u, c = '%' → s ++ r = '%' :: u → False := by
      intro u hc hu
      cases s with
      | nil => simp at hs
      | cons d s =>
        obtain ⟨rfl, -⟩ := List.cons.inj hu
        exact hne s hc rfl
    rw [List.cons_append, beforeComment, ih hs]
    exact hrest

def Link.labelled (l : Link) (t w : Text) : Text := l.text ++ '|' :: (t ++ '|' :: w)

namespace NodeLine

theorem linked_labelled (a x : Text) (l : Link) (t w b y : Text) :
    linked ⟨a, x, .rectangle⟩ (l.labelled t w) ⟨b, y, .rectangle⟩ = a ++ '[' ::
      (x ++ ']' :: (l.text ++ '|' :: (t ++ '|' :: (w ++ (b ++ '[' :: y)) ++ [']']))) := by
  simp [linked, line, Link.labelled, Shape.opening, Shape.closing]

theorem linkedLabel_labelled (a x : Text) (l : Link) (t w b y : Text) :
    linkedLabel ⟨a, x, .rectangle⟩ (l.labelled t w) ⟨b, y, .rectangle⟩ =
      x ++ ']' :: (l.text ++ '|' :: (t ++ '|' :: (w ++ (b ++ '[' :: y)))) := by
  simp [linkedLabel, Link.labelled, Shape.opening, Shape.closing]

/-- A comment in the text cuts the line, and what is left of the text decides. -/
theorem ofLine?_labelled_of_commented {a x : Text} (ha : IsNodeId a) (hx : IsPlain x) (l : Link)
    {t : Text} (ht : ['%', '%'] <:+: t) (w b y : Text) :
    ofLine? (linked ⟨a, x, .rectangle⟩ (l.labelled t w) ⟨b, y, .rectangle⟩) =
      ((before? [']'] (trimEnd (beforeComment t))).filter (!goesOnWithLink [']'] ·)).map fun u ↦
        ⟨a, x ++ ']' :: (l.text ++ '|' :: u), .rectangle⟩ := by
  rw [linked_labelled, ofLine?_pipe hx l ha, List.append_assoc, beforeComment_append_of_infix ht]

section

variable {a b : Id} (ha : IsNodeId a) (hb : isId b) {x y : Text} (hx : IsPlain x) (hy : IsPlain y)
  (l : Link) {t w : Text} (hw : ∀ c ∈ w, isBlank c)
include ha hb hx hy hw

theorem ofLine?_labelled_of_uncommented (ht : ¬['%', '%'] <:+: t) :
    ofLine? (linked ⟨a, x, .rectangle⟩ (l.labelled t w) ⟨b, y, .rectangle⟩) =
      if goesOnWithLink [']'] t then none
      else some (swallow ⟨a, x, .rectangle⟩ (l.labelled t w) ⟨b, y, .rectangle⟩) := by
  have hbracket : ']' ∉ w ++ (b ++ '[' :: y) := by
    have hb' : ']' ∉ b := fun h ↦ absurd (isIdChar_of_mem_id hb _ h) (by decide)
    have hy' : ']' ∉ y := fun h ↦ hy.not_mem_delimiterChars _ h (by decide)
    have hw' : ']' ∉ w := fun h ↦ absurd (hw _ h) (by decide)
    simp [hb', hy', hw']
  have hpercent : ¬['%', '%'] <:+: t ++ '|' :: (w ++ (b ++ '[' :: y)) ++ [']'] := by
    rw [List.append_assoc, List.cons_append]
    intro h
    rcases infix_percents_of_append_cons (by decide) h with h | h
    · exact ht h
    · refine not_infix_percents ?_ h
      simp [percent_not_mem_blanks hw, percent_not_mem_id hb, hy.percent_not_mem]
  have hend : trimEnd (t ++ '|' :: (w ++ (b ++ '[' :: y)) ++ [']']) =
      t ++ '|' :: (w ++ (b ++ '[' :: y)) ++ [']'] :=
    trimEnd_append_cons (c := ']') (by decide) _ []
  have hgoes : goesOnWithLink [']'] (t ++ '|' :: (w ++ (b ++ '[' :: y))) =
      goesOnWithLink [']'] t := by
    rw [goesOnWithLink_append_pipe, goesOnWithLink_eq_false (List.mem_singleton_self _) hbracket,
      Bool.or_false]
  rw [linked_labelled, ofLine?_pipe hx l ha, beforeComment_eq_self hpercent, hend,
    before?_eq_some_iff.2 rfl, Option.filter_some, hgoes, swallow, linkedLabel_labelled]
  cases goesOnWithLink [']'] t <;> rfl

/-- A link with a text is dropped when the text closes the label and goes on with a link. Otherwise
it is read as a node, whose label holds the rest of the line. -/
theorem ofLine?_labelled :
    (¬['%', '%'] <:+: t →
      ofLine? (linked ⟨a, x, .rectangle⟩ (l.labelled t w) ⟨b, y, .rectangle⟩) =
        if goesOnWithLink [']'] t then none
        else some (swallow ⟨a, x, .rectangle⟩ (l.labelled t w) ⟨b, y, .rectangle⟩)) ∧
    (['%', '%'] <:+: t →
      ofLine? (linked ⟨a, x, .rectangle⟩ (l.labelled t w) ⟨b, y, .rectangle⟩) =
        ((before? [']'] (trimEnd (beforeComment t))).filter (!goesOnWithLink [']'] ·)).map fun u ↦
          ⟨a, x ++ ']' :: (l.text ++ '|' :: u), .rectangle⟩) ∧
    Statement.ofLine (linked ⟨a, x, .rectangle⟩ (l.labelled t w) ⟨b, y, .rectangle⟩) =
      ((ofLine? (linked ⟨a, x, .rectangle⟩ (l.labelled t w) ⟨b, y, .rectangle⟩)).map .node).getD
        .unrecognised := by
  refine ⟨ofLine?_labelled_of_uncommented ha hb hx hy l hw,
    fun ht ↦ ofLine?_labelled_of_commented ha hx l ht w b y, ?_⟩
  rw [linked_labelled]
  exact Statement.ofLine_pipe hx l ha _

end

/-- The line `A[x] -->|yes| B[y]`. -/
theorem ofLine?_labelled_yes :
    let arrow : Link := ⟨[' '], "-->".toList, [], List.forall_mem_singleton.2 rfl, rfl, nofun⟩
    let line := linked ⟨['A'], ['x'], .rectangle⟩ (arrow.labelled "yes".toList [' '])
      ⟨['B'], ['y'], .rectangle⟩
    line = "A[x] -->|yes| B[y]".toList ∧
    ofLine? line = some ⟨['A'], "x] -->|yes| B[y".toList, .rectangle⟩ := by
  intro arrow line
  have hyes := (ofLine?_labelled (a := ['A']) (b := ['B']) (x := ['x']) (y := ['y'])
    (t := "yes".toList) (w := [' ']) ⟨by decide, by decide⟩ (by decide)
    (isPlain_singleton (by decide)) (isPlain_singleton (by decide)) arrow
    (List.forall_mem_singleton.2 rfl)).1 (by decide)
  exact ⟨by decide, hyes⟩

end NodeLine

end FlowchartView

import FlowchartView.Proofs.Drawing.Lines

namespace FlowchartView

open Text

namespace Diagram

section

variable {source : Text} {l : Line} (hl : l ∈ (Preamble.ofLines (Line.ofText source)).body)
include hl

theorem mem_memberships_of_mem_body {a : ClassMembership}
    (h : Statement.ofLine l.text = .membership a) : a ∈ (ofText source).memberships :=
  List.mem_filterMap.2 ⟨_, List.mem_map_of_mem hl, by rw [h]; rfl⟩

theorem mem_styleClasses_of_mem_body {c : StyleClass}
    (h : Statement.ofLine l.text = .styleClass c) : c ∈ (ofText source).styleClasses :=
  List.mem_filterMap.2 ⟨_, List.mem_map_of_mem hl, by rw [h]; rfl⟩

end

theorem mem_shownMemberships {d : Diagram} {v : Visibility} {a : ClassMembership}
    (ha : a ∈ d.memberships) (hid : ∃ id ∈ a.ids, v.isVisible id) :
    { a with ids := a.ids.filter v.isVisible } ∈ d.shownMemberships v := by
  refine List.mem_filter.2 ⟨List.mem_map_of_mem ha, ?_⟩
  obtain ⟨id, hmem, hvisible⟩ := hid
  have hids := List.ne_nil_of_mem (List.mem_filter.2 ⟨hmem, hvisible⟩)
  rw [Bool.not_eq_true']
  exact List.isEmpty_eq_false_iff.2 hids

theorem exists_mem_lines_of_says {d : Diagram} {v : Visibility} {style : Style}
    (hblank : ∀ c ∈ style.indent, isBlank c) (hone : IsOneLine style.indent) {code : Text}
    {s : Statement} (hs : Says code s) {lines : List Text}
    (hsection : lines ∈ d.sections v style) (hline : style.indent ++ code ∈ lines) :
    ∃ drawn ∈ splitLines (d.draw v style), drawn = style.indent ++ code ∧
      Statement.ofLine drawn = s := by
  have honeLine := isOneLine_append.2 ⟨hone, hs.isCode.isOneLine⟩
  exact ⟨_, mem_splitLines_joinLines (mem_drawing hsection hline) honeLine, rfl,
    hs.ofLine_append hblank⟩

/-- A drawing has a line for each class line of its source, and this line says what the class line
says of the ids that are visible. -/
theorem classLines_of_render (source : Text) (v : Visibility) {style : Style}
    (hblank : ∀ c ∈ style.indent, isBlank c) (hone : IsOneLine style.indent) :
    ∃ text, (ofText source).render v style = .ok text ∧
      ∀ l ∈ (Preamble.ofLines (Line.ofText source)).body,
        (∀ ids className, Statement.ofLine l.text = .membership ⟨ids, className⟩ →
          (∃ id ∈ ids, v.isVisible id) → ∃ drawn ∈ splitLines text,
            drawn = style.indent ++ ClassMembership.line ⟨ids.filter v.isVisible, className⟩ ∧
              Statement.ofLine drawn = .membership ⟨ids.filter v.isVisible, className⟩) ∧
        ∀ c, Statement.ofLine l.text = .styleClass c → ∃ drawn ∈ splitLines text,
          drawn = style.indent ++ c.line ∧ Statement.ofLine drawn = .styleClass c := by
  have hd := isLegible_ofText source
  refine ⟨_, (isSound_ofText source).render_eq v style, fun l hl ↦ ⟨?_, ?_⟩⟩
  · intro ids className hread hid
    have hshown := mem_shownMemberships (mem_memberships_of_mem_body hl hread) hid
    have hsection : (ofText source).classSection v style ∈ (ofText source).sections v style := by
      simp [sections]
    exact exists_mem_lines_of_says hblank hone (hd.of_mem_shownMemberships v hshown) hsection
      (List.mem_map_of_mem hshown)
  · intro c hread
    have hc := mem_styleClasses_of_mem_body hl hread
    have hsection : (ofText source).headSection style ∈ (ofText source).sections v style := by
      simp [sections]
    exact exists_mem_lines_of_says hblank hone (hd.styleClasses c hc) hsection
      (List.mem_cons_of_mem _ (List.mem_map_of_mem hc))

/-- A list with blanks, commas, a repeated id, a link for an id and the hidden `B`, and a class name
with a comma in it. -/
theorem classLines_of_render_commas :
    let source := "graph\nclassDef x,y  fill:red\n class  A,\u00a0B --> ,A x,y %% c".toList
    let v : Visibility := ⟨.ofKeys [['B']] false⟩
    let style : Style := { indent := ['\t'] }
    let text := "graph\n\tclassDef x,y  fill:red\n\n\tclass A,-->,A x,y\n".toList
    (∀ c ∈ style.indent, isBlank c) ∧ IsOneLine style.indent ∧
      (ofText source).render v style = .ok text ∧
      (∃ l ∈ (Preamble.ofLines (Line.ofText source)).body, Statement.ofLine l.text =
        .membership ⟨[['A'], ['B'], "-->".toList, ['A']], "x,y".toList⟩) ∧
      (∃ l ∈ (Preamble.ofLines (Line.ofText source)).body, Statement.ofLine l.text =
        .styleClass ⟨"x,y".toList, "fill:red".toList, "classDef x,y  fill:red".toList⟩) ∧
      (∃ drawn ∈ splitLines text, drawn = "\tclass A,-->,A x,y".toList ∧
        Statement.ofLine drawn = .membership ⟨[['A'], "-->".toList, ['A']], "x,y".toList⟩) ∧
      ∃ drawn ∈ splitLines text, drawn = "\tclassDef x,y  fill:red".toList ∧
        Statement.ofLine drawn =
          .styleClass ⟨"x,y".toList, "fill:red".toList, "classDef x,y  fill:red".toList⟩ := by
  intro source v style text
  have hblank : ∀ c ∈ style.indent, isBlank c := List.all_eq_true.1 (by decide)
  have hone : IsOneLine style.indent := by decide
  have hdraw : (ofText source).draw v style = text := by decide +kernel
  have hclass : (⟨3, " class  A,\u00a0B --> ,A x,y %% c".toList⟩ : Line) ∈
      (Preamble.ofLines (Line.ofText source)).body := by decide +kernel
  have hdef : (⟨2, "classDef x,y  fill:red".toList⟩ : Line) ∈
      (Preamble.ofLines (Line.ofText source)).body := by decide +kernel
  have hread : Statement.ofLine " class  A,\u00a0B --> ,A x,y %% c".toList =
      .membership ⟨[['A'], ['B'], "-->".toList, ['A']], "x,y".toList⟩ := by decide +kernel
  have hdefRead : Statement.ofLine "classDef x,y  fill:red".toList =
      .styleClass ⟨"x,y".toList, "fill:red".toList, "classDef x,y  fill:red".toList⟩ := by
    decide +kernel
  obtain ⟨drawnText, hrender, hlines⟩ := classLines_of_render source v hblank hone
  have htext : drawnText = text := by
    rw [(isSound_ofText source).render_eq, hdraw] at hrender
    exact (Except.ok.inj hrender).symm
  subst htext
  have hdrawn := (hlines _ hclass).1 _ _ hread ⟨['A'], List.mem_cons_self, rfl⟩
  have hdefined := (hlines _ hdef).2 _ hdefRead
  exact ⟨hblank, hone, hrender, ⟨_, hclass, hread⟩, ⟨_, hdef, hdefRead⟩, hdrawn, hdefined⟩

end Diagram

end FlowchartView

import FlowchartView.Proofs.Drawing.RoundTrip

namespace FlowchartView

open Text

namespace Edge.IsLegal

variable {e : Edge} (h : e.IsLegal)
include h

theorem isId_operator : isId e.operator = false := by
  obtain ⟨o, t, ho, hlink⟩ := h.operator_eq_cons
  rw [ho, isId, (of_isLinkChar hlink).2.1, Bool.false_and]

theorem membership?_ofCode_line : (Statement.ofCode e.line).membership? =
    if e.left = classKeyword then some ⟨[e.operator], e.right⟩ else none := by
  rw [h.statement_line]
  by_cases hclass : e.left = classKeyword
  · rw [if_neg (by rw [hclass]; decide), if_pos hclass, if_pos hclass]
    rfl
  · rw [if_neg hclass, if_neg hclass]
    split
    · rfl
    · split <;> rfl

end Edge.IsLegal

namespace Diagram

theorem IsLegible.mem_memberships_drawnStatements {d : Diagram} (hd : d.IsLegible) {v : Visibility}
    {style : Style} {a : ClassMembership}
    (ha : a ∈ (d.drawnStatements v style).filterMap Statement.membership?) :
    a ∈ d.shownMemberships v ∨ ∃ e ∈ d.edges, a.ids = [e.operator] := by
  have hframe : ∀ t : Statement, t.isFrame → t.membership? = none := fun t ht ↦
    (t.eq_none_of_isFrame ht).2.2
  rw [hd.filterMap_drawnStatements v style hframe rfl, List.mem_append, List.mem_append] at ha
  rcases ha with hstyle | hdrawn | hedge
  · obtain ⟨c, -, hc⟩ := List.mem_filterMap.1 hstyle
    cases hc
  · obtain ⟨b, hb, hba⟩ := List.mem_filterMap.1 hdrawn
    exact .inl (Option.some.inj hba ▸ hb)
  -- An edge whose left id is `class` is read as a class line too, which lists its operator.
  · obtain ⟨e, he, hea⟩ := List.mem_filterMap.1 hedge
    have hmem : e ∈ d.edges := (List.mem_filter.1 he).1
    rw [(hd.edges e hmem).membership?_ofCode_line, Option.ite_none_right_eq_some] at hea
    exact .inr ⟨e, hmem, congrArg ClassMembership.ids (Option.some.inj hea.2).symm⟩

theorem isVisible_of_mem_shownMemberships {d : Diagram} {v : Visibility} {a : ClassMembership}
    (ha : a ∈ d.shownMemberships v) {id : Id} (hid : id ∈ a.ids) : v.isVisible id := by
  obtain ⟨b, -, rfl⟩ := List.mem_map.1 (List.mem_filter.1 ha).1
  exact (List.mem_filter.1 hid).2

theorem mem_memberships_ofText_draw {source : Text} {v : Visibility} {style : Style}
    (hstyle : style.IsReadable) {a : ClassMembership}
    (ha : a ∈ (ofText ((ofText source).draw v style)).memberships) :
    a ∈ (ofText source).shownMemberships v ∨
      ∃ e ∈ (ofText source).edges, a.ids = [e.operator] := by
  cases hopen : leavesFrontMatterOpen source with
  | false =>
    have hd := isLegible_ofText source
    obtain ⟨r, hr, -, -, -, -, -, hmemberships, -⟩ := hd.ofText_draw v style
      (isSound_ofText source) (isClosedFrontMatter_ofText hopen) hstyle
    rw [hr, hmemberships] at ha
    exact hd.mem_memberships_drawnStatements ha
  | true =>
    rw [ofText_draw_of_open hopen v hstyle] at ha
    cases ha

/-- A drawing that is read again gives edges between visible ids, in the order they had, and no
class line that lists an id that is hidden. -/
theorem nothing_hidden_of_render (source : Text) (v : Visibility) :
    ∃ text, (ofText source).render v {} = .ok text ∧
      (ofText text).edges.Sublist
        ((ofText source).edges.filter fun e ↦ v.isVisible e.left && v.isVisible e.right) ∧
      ∀ a ∈ (ofText text).memberships, ∀ id ∈ a.ids, isId id → v.isVisible id := by
  refine ⟨_, render_ofText source v {}, ?_, ?_⟩
  · rw [edges_ofText_draw source v Style.isReadable_default]
    exact List.filter_sublist
  · intro a ha id hid hform
    rcases mem_memberships_ofText_draw Style.isReadable_default ha with hshown | ⟨e, he, hids⟩
    · exact isVisible_of_mem_shownMemberships hshown hid
    · have hlegal := (isLegible_ofText source).edges e he
      rw [hids, List.mem_singleton] at hid
      rw [hid, hlegal.isId_operator] at hform
      cases hform

end Diagram

end FlowchartView

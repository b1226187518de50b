import FlowchartView.Proofs.Diagram.Containers
import FlowchartView.Proofs.Drawing.RoundTrip
import FlowchartView.Proofs.Session.Run

namespace FlowchartView

namespace Session

open Diagram

structure Agrees (s : Session) (d : Diagram) (renderHandlers clickHandlers : List Handler)
    (text : Text) (rows : List SidebarRow) : Prop where
  handle_text : (s.handle .text).2 = { answer := .text text }
  render : d.render s.visibility s.style = .ok text
  handle_sidebar : (s.handle .sidebar).2 = { answer := .sidebar rows }
  count_rows : ∀ id, (rows.map SidebarRow.id).count id = if d.nodes.contains id then 1 else 0
  visible : ∀ row ∈ rows, row.visible = (ofText text).nodes.contains row.id
  label : ∀ row ∈ rows, row.visible →
    ∃ n, (ofText text).nodes.find? row.id = some n ∧ row.label = n.plainLabel
  handle_click : ∀ row ∈ rows, (s.handle (.click row.id)).2 =
    if row.visible then
      { answer := .clicked true, clickCalls := clickHandlers.map fun h ↦ (h, row.id) }
    else { answer := .clicked false, notices := [.hiddenClick row.id] }
  announced : ∀ q, q = .refresh ∨ (∃ c, q = .change c) → ∃ later,
    d.render (s.handle q).1.visibility (s.handle q).1.style = .ok later ∧
    (s.handle q).2 =
      { answer := .text later, renderCalls := renderHandlers.map fun h ↦ (h, later) } ∧
    ((s.handle q).1.handle .text).2 = { answer := .text later }

section

variable {s : Session} {source : Text} (hdiagram : s.diagram = ofText source)
include hdiagram

theorem render_eq_drawing :
    (ofText source).render s.visibility s.style = .ok s.drawing := by
  rw [render_ofText, drawing, hdiagram]

theorem exists_of_mem_sidebar {row : SidebarRow} (h : row ∈ s.sidebar) :
    ∃ n, (ofText source).nodes.find? row.id = some n ∧ row.label = n.plainLabel ∧
      row.visible = s.visibility.isVisible row.id := by
  rw [sidebar, hdiagram] at h
  obtain ⟨n, hn, rfl⟩ := List.mem_map.1 h
  obtain ⟨id, -, hfind⟩ := List.mem_filterMap.1 hn
  exact ⟨n, (isSound_ofText source).keyed id n hfind ▸ hfind, rfl, rfl⟩

theorem agrees_of_diagram_eq (hstyle : s.style.IsReadable) :
    s.Agrees (ofText source) s.renderHandlers s.clickHandlers s.drawing s.sidebar := by
  have hs := isSound_ofText source
  have hview : (ofText s.drawing).IsViewOf (ofText source) s.visibility := by
    rw [drawing, hdiagram]
    exact (isViewOf_draw source s.visibility hstyle).1
  refine ⟨rfl, render_eq_drawing hdiagram, rfl, fun id ↦ ?_, fun row hrow ↦ ?_,
    fun row hrow hshown ↦ ?_, fun row hrow ↦ ?_, fun q hq ↦ ?_⟩
  · have hids : s.sidebar.map SidebarRow.id = (ofText source).placedIds := by
      rw [sidebar, hdiagram, List.map_map]
      exact hs.map_id_nodesOf fun _ h ↦ h
    rw [hids, hs.count_placedIds]
  · obtain ⟨n, hn, -, hvisible⟩ := exists_of_mem_sidebar hdiagram hrow
    have hcontains : (ofText source).nodes.contains row.id = true := by
      rw [OrderedMap.contains, hn]
      rfl
    rw [hvisible, hview.contains_eq, hcontains, Bool.and_true]
  · obtain ⟨n, hn, hlabel, hvisible⟩ := exists_of_mem_sidebar hdiagram hrow
    obtain ⟨m, hm, hmn⟩ := hview.exists_find? hn (hvisible ▸ hshown)
    have hsame : m.unplaced.label = n.unplaced.label := congrArg Node.label hmn
    exact ⟨m, hm, hlabel.trans (congrArg unescapeBreaks hsame.symm)⟩
  · obtain ⟨-, -, -, hvisible⟩ := exists_of_mem_sidebar hdiagram hrow
    rw [hvisible]
    rfl
  · have hafter : (s.handle q).1.diagram = ofText source := (s.handle_frame q).1.trans hdiagram
    refine ⟨(s.handle q).1.drawing, render_eq_drawing hafter, ?_, rfl⟩
    obtain rfl | ⟨c, rfl⟩ := hq <;> rfl

end

/-- After any requests to a session that views a source, all it says of a node agrees. -/
theorem agrees_handleAll (source : Text) (requests : List Request) : ∃ text rows,
    ((start (ofText source) {}).handleAll requests).1.Agrees (ofText source)
      (requests.filterMap Request.renderHandler?) (requests.filterMap Request.clickHandler?)
      text rows := by
  obtain ⟨hdiagram, -, hstyle⟩ := (start (ofText source) {}).handleAll_frame requests
  obtain ⟨hrender, hclick⟩ := (start (ofText source) {}).handlers_handleAll requests
  have hagrees := agrees_of_diagram_eq hdiagram (hstyle ▸ Style.isReadable_default)
  rw [hrender, hclick] at hagrees
  exact ⟨_, _, hagrees⟩

end Session

end FlowchartView

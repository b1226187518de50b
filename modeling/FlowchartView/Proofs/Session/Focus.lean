import FlowchartView.Proofs.Drawing.Hooks
import FlowchartView.Proofs.Reachability.Restriction
import FlowchartView.Proofs.Session.Run
import FlowchartView.Proofs.Visibility

namespace FlowchartView

open Text

namespace Edge

/-- An edge that points both ways leaves, and enters, both of its ends. -/
def Leaves (e : Edge) (id : Id) : Prop :=
  ('>' ∈ e.operator ∧ e.left = id) ∨ ('<' ∈ e.operator ∧ e.right = id)

def Enters (e : Edge) (id : Id) : Prop :=
  ('>' ∈ e.operator ∧ e.right = id) ∨ ('<' ∈ e.operator ∧ e.left = id)

variable {e : Edge} {id : Id}

theorem Leaves.eq_or_eq (h : e.Leaves id) : id = e.left ∨ id = e.right :=
  h.imp (·.2.symm) (·.2.symm)

theorem Enters.eq_or_eq (h : e.Enters id) : id = e.left ∨ id = e.right :=
  h.symm.imp (·.2.symm) (·.2.symm)

end Edge

namespace LeadsTo

variable {edges : List Edge} {e : Edge} {a b : Id}

theorem ends_of_leaves (he : e ∈ edges) (hb : e.Leaves b) (h : LeadsTo edges a b) :
    LeadsTo edges a e.left ∧ LeadsTo edges a e.right := by
  rcases hb with ⟨hop, rfl⟩ | ⟨hop, rfl⟩
  · exact ⟨h, h.right he hop⟩
  · exact ⟨h.left he hop, h⟩

theorem ends_of_enters (he : e ∈ edges) (ha : e.Enters a) (h : LeadsTo edges a b) :
    LeadsTo edges e.left b ∧ LeadsTo edges e.right b := by
  rcases ha with ⟨hop, rfl⟩ | ⟨hop, rfl⟩
  · exact ⟨.of_arc (Edge.arc_right he hop) h, h⟩
  · exact ⟨h, .of_arc (Edge.arc_left he hop) h⟩

end LeadsTo

namespace Session

/-- A session of the source after any requests, when everything was hidden and one change made. -/
def narrowed (source : Text) (style : Style) (requests : List Request) (c : Visibility.Change) :
    Session :=
  ((start (.ofText source) style).handleAll (requests ++ [.change .hideAll, .change c])).1

/-- The ids `within` are all that is visible. The text of the session is that of the diagram without
edges and hooks, then the hooks, then a line for each edge between these ids, and no edge that
touches one of them is lost. -/
structure IsFocused (s : Session) (d : Diagram) (within : Id → Prop)
    (touches : Edge → Id → Prop) : Prop where
  visibleIds : ∀ id, id ∈ s.visibility.visibleIds ↔ within id
  shownEdges : s.diagram.shownEdges s.visibility = d.edges.filter fun e ↦
    s.visibility.visibleIds.contains e.left && s.visibility.visibleIds.contains e.right
  render : d.render s.visibility s.style = .ok s.drawing
  drawing : ∃ before,
    ({ d with edges := [] } : Diagram).render s.visibility { s.style with clickHooks := false } =
      .ok (joinLines before) ∧
    s.drawing = joinLines (before ++ setApart [d.clickSection s.visibility s.style,
      (s.diagram.shownEdges s.visibility).map fun e ↦ s.style.indent ++ e.line])
  keeps : ∀ e ∈ d.edges, ∀ id, touches e id → s.visibility.isVisible id →
    e ∈ s.diagram.shownEdges s.visibility

theorem isFocused_of_closed {s : Session} {within : Id → Prop} {touches : Edge → Id → Prop}
    (hsound : s.diagram.IsSound) (hholds : ∀ id ∈ s.diagram.allIds, s.visibility.holds id)
    (hwithin : ∀ id, id ∈ s.visibility.visibleIds ↔ within id)
    (hends : ∀ e id, touches e id → id = e.left ∨ id = e.right)
    (hclosed : ∀ e ∈ s.diagram.edges, ∀ id, touches e id → within id →
      within e.left ∧ within e.right) :
    s.IsFocused s.diagram within touches := by
  -- Ends of edges have flags, so that to be visible and to be listed as such are one for them.
  have hvisible : ∀ e ∈ s.diagram.edges, ∀ id, id = e.left ∨ id = e.right →
      (s.visibility.isVisible id ↔ id ∈ s.visibility.visibleIds) := by
    intro e he id hid
    have hknown : id ∈ s.diagram.allIds := Diagram.mem_allIds.2 (.inr ⟨e, he, hid⟩)
    rw [Visibility.mem_visibleIds, and_iff_right (hholds id hknown)]
  exact {
    visibleIds := hwithin
    shownEdges := by
      refine List.filter_congr fun e he ↦ ?_
      rw [Bool.eq_iff_iff, Bool.and_eq_true, Bool.and_eq_true, List.contains_iff_mem,
        List.contains_iff_mem, hvisible e he e.left (.inl rfl), hvisible e he e.right (.inr rfl)]
    render := hsound.render_eq _ _
    drawing := by
      have hbare : ({ s.diagram with edges := [] } : Diagram).IsSound :=
        ⟨hsound.keyed, hsound.nodup, hsound.mem_placedIds⟩
      refine ⟨s.diagram.linesBeforeHooks s.visibility s.style, ?_, ?_⟩
      · rw [hbare.render_eq, Diagram.draw, Diagram.drawing_edges_nil]
      · rw [Session.drawing, Diagram.draw, Diagram.drawing_eq_append]
        rfl
    keeps := by
      intro e he id htouches hid
      have hid : within id := by rwa [hvisible e he id (hends e id htouches), hwithin] at hid
      obtain ⟨hleft, hright⟩ := hclosed e he id htouches hid
      rw [← hwithin, ← hvisible e he _ (.inl rfl)] at hleft
      rw [← hwithin, ← hvisible e he _ (.inr rfl)] at hright
      exact List.mem_filter.2 ⟨he, by rw [hleft, hright]; rfl⟩ }

theorem IsFocused.shownEdges_eq_edgesWithin {s : Session} {d : Diagram} {within : Id → Prop}
    {touches : Edge → Id → Prop} (h : s.IsFocused d within touches) {ids : List Id}
    (hids : ∀ id, id ∈ ids ↔ within id) :
    s.diagram.shownEdges s.visibility = edgesWithin ids d.edges := by
  rw [h.shownEdges]
  refine List.filter_congr fun e _ ↦ ?_
  rw [Bool.eq_iff_iff, Bool.and_eq_true, List.contains_iff_mem, List.contains_iff_mem,
    h.visibleIds, h.visibleIds, staysWithin_iff, hids, hids]

section

variable (source : Text) (style : Style) (requests : List Request) (c : Visibility.Change)

theorem narrowed_diagram : (narrowed source style requests c).diagram = .ofText source :=
  (handleAll_frame _ _).1

theorem narrowed_visibility : ∃ v : Visibility,
    (narrowed source style requests c).visibility =
        v.hideAll.apply (.ofDiagram (.ofText source)) c ∧
      ∀ id ∈ (Diagram.ofText source).allIds, v.holds id := by
  -- All that earlier requests leave behind is some visibility with a flag for each known id.
  refine ⟨(Visibility.ofDiagram (.ofText source)).applyAll (.ofDiagram (.ofText source))
    (requests.filterMap Request.change?), ?_, fun id hid ↦ ?_⟩
  · rw [narrowed, visibility_handleAll, List.filterMap_append, Visibility.applyAll,
      List.foldl_append]
    rfl
  · exact Visibility.holds_applyAll.2 (.inl (Visibility.holds_ofDiagram.2 hid))

variable {source style requests c}

theorem isFocused_narrowed_of_shows {ids : List Id} {within : Id → Prop}
    {touches : Edge → Id → Prop}
    (hc : ∀ v : Visibility, v.apply (.ofDiagram (.ofText source)) c = v.setAll ids true)
    (hids : ∀ id, id ∈ ids ↔ within id)
    (hends : ∀ e id, touches e id → id = e.left ∨ id = e.right)
    (hclosed : ∀ e ∈ (Diagram.ofText source).edges, ∀ id, touches e id → within id →
      within e.left ∧ within e.right) :
    (narrowed source style requests c).IsFocused (.ofText source) within touches := by
  obtain ⟨v, hv, hholds⟩ := narrowed_visibility source style requests c
  rw [hc] at hv
  have hsound := Diagram.isSound_ofText source
  rw [← narrowed_diagram source style requests c] at hholds hclosed hsound ⊢
  refine isFocused_of_closed hsound (fun id hid ↦ ?_) (fun id ↦ ?_) hends hclosed
  · rw [hv, Visibility.holds_setAll, Visibility.holds_hideAll]
    exact .inl (hholds id hid)
  · rw [hv, Visibility.mem_visibleIds_setAll_hideAll, hids]

end

theorem isFocused_showDescendants (source : Text) (style : Style) (requests : List Request)
    (id : Id) : (narrowed source style requests (.showDescendants id)).IsFocused (.ofText source)
      (LeadsTo (Diagram.ofText source).edges id) Edge.Leaves :=
  isFocused_narrowed_of_shows (fun _ ↦ rfl) (fun _ ↦ Reachability.mem_descendants)
    (fun _ _ ↦ Edge.Leaves.eq_or_eq) fun _ he _ ↦ LeadsTo.ends_of_leaves he

theorem isFocused_showAncestors (source : Text) (style : Style) (requests : List Request)
    (id : Id) : (narrowed source style requests (.showAncestors id)).IsFocused (.ofText source)
      (LeadsTo (Diagram.ofText source).edges · id) Edge.Enters :=
  isFocused_narrowed_of_shows (fun _ ↦ rfl) (fun _ ↦ Reachability.mem_ancestors)
    (fun _ _ ↦ Edge.Enters.eq_or_eq) fun _ he _ ↦ LeadsTo.ends_of_enters he

/-- Whatever was requested before, focusing on an id shows the part of the diagram downstream or
upstream of it, with all its edges. -/
theorem isFocused_narrowed (source : Text) (style : Style) (requests : List Request) (id : Id) :
    (narrowed source style requests (.showDescendants id)).IsFocused (.ofText source)
        (LeadsTo (Diagram.ofText source).edges id) Edge.Leaves ∧
      (narrowed source style requests (.showAncestors id)).IsFocused (.ofText source)
        (LeadsTo (Diagram.ofText source).edges · id) Edge.Enters :=
  ⟨isFocused_showDescendants source style requests id,
    isFocused_showAncestors source style requests id⟩

/-- A search from the id along the edges that are drawn finds what the whole diagram gives. -/
theorem closures_shownEdges_narrowed (source : Text) (style : Style) (requests : List Request)
    (id : Id) (others : List Id) :
    let down := narrowed source style requests (.showDescendants id)
    let up := narrowed source style requests (.showAncestors id)
    (Reachability.ofEdges (down.diagram.shownEdges down.visibility) others).descendants id =
        (Reachability.ofDiagram (.ofText source)).descendants id ∧
      (Reachability.ofEdges (up.diagram.shownEdges up.visibility) others).ancestors id =
        (Reachability.ofDiagram (.ofText source)).ancestors id := by
  intro down up
  have hdown := isFocused_showDescendants source style requests id
  have hup := isFocused_showAncestors source style requests id
  constructor
  · rw [hdown.shownEdges_eq_edgesWithin fun _ ↦ Reachability.mem_descendants]
    exact Reachability.descendants_edgesWithin _ _ others id
  · rw [hup.shownEdges_eq_edgesWithin fun _ ↦ Reachability.mem_ancestors]
    exact Reachability.ancestors_edgesWithin _ _ others id

end Session

end FlowchartView

import FlowchartView.Proofs.Drawing.Mention
import FlowchartView.Proofs.Reachability.Edges
import FlowchartView.Proofs.Session.Run
import FlowchartView.Proofs.Visibility.History

namespace FlowchartView

theorem LeadsTo.eq_of_start {edges : List Edge} {a b : Id}
    (ha : ∀ e ∈ edges, ¬(a = e.left ∨ a = e.right)) (h : LeadsTo edges a b) : b = a := by
  induction h with
  | refl => rfl
  | right _ he _ ih => exact absurd (.inl ih.symm) (ha _ he)
  | left _ he _ ih => exact absurd (.inr ih.symm) (ha _ he)

theorem LeadsTo.eq_of_end {edges : List Edge} {a b : Id}
    (hb : ∀ e ∈ edges, ¬(b = e.left ∨ b = e.right)) (h : LeadsTo edges a b) : a = b := by
  cases h with
  | refl => rfl
  | right _ he _ => exact absurd (.inr rfl) (hb _ he)
  | left _ he _ => exact absurd (.inl rfl) (hb _ he)

def Reachability.Isolates (r : Reachability) (q : Id) : Prop :=
  (∀ id ∈ r.descendants q, id = q) ∧ ∀ id ∈ r.ancestors q, id = q

theorem Diagram.isolates_of_not_mentions {d : Diagram} {q : Id} (hq : ¬d.Mentions q) :
    (Reachability.ofDiagram d).Isolates q := by
  have hends : ∀ e ∈ d.edges, ¬(q = e.left ∨ q = e.right) := by
    intro e he hend
    exact hq (.inl (mem_allIds.2 (.inr ⟨e, he, hend⟩)))
  constructor
  · intro id hid
    exact (Reachability.mem_descendants.1 hid).eq_of_start hends
  · intro id hid
    exact (Reachability.mem_ancestors.1 hid).eq_of_end hends

namespace Visibility

variable {q id : Id} {v w : Visibility} {r : Reachability}

def AgreesOff (q : Id) (v w : Visibility) : Prop :=
  ∀ id, id ≠ q → v.flags.find? id = w.flags.find? id

theorem AgreesOff.isVisible_eq (h : v.AgreesOff q w) (hid : id ≠ q) :
    v.isVisible id = w.isVisible id := by
  rw [isVisible, isVisible, h id hid]

theorem AgreesOff.mem_touches_iff (h : v.AgreesOff q w) (c : Change) (hid : id ≠ q) :
    id ∈ c.touches r v.storedIds ↔ id ∈ c.touches r w.storedIds := by
  have hstored : id ∈ v.storedIds ↔ id ∈ w.storedIds := by
    rw [mem_storedIds, mem_storedIds, h id hid]
  cases c with
  | showAll => exact hstored
  | hideAll => exact hstored
  | _ => exact Iff.rfl

theorem AgreesOff.apply (h : v.AgreesOff q w) (c : Change) :
    (v.apply r c).AgreesOff q (w.apply r c) := by
  intro id hid
  rw [find?_apply, find?_apply, h id hid]
  simp only [h.mem_touches_iff c hid]

theorem AgreesOff.apply_left (h : v.AgreesOff q w) {c : Change} (hlocal : c.IsLocal)
    (htargets : ∀ id ∈ c.targets r, id = q) : (v.apply r c).AgreesOff q w := by
  intro id hid
  have hspared : id ∉ c.targets r := fun hmem ↦ hid (htargets id hmem)
  rw [find?_apply, touches_of_isLocal hlocal, if_neg hspared, h id hid]

end Visibility

namespace Session

/-- The commands on an id that may leave every other id alone. -/
inductive Request.IsAbout (q : Id) : Request → Prop
  | set (visible : Bool) : IsAbout q (.change (.set q visible))
  | showDescendants : IsAbout q (.change (.showDescendants q))
  | showAncestors : IsAbout q (.change (.showAncestors q))

/-- Two runs that share their requests but for those that pass. -/
inductive DifferBy (p : Request → Prop) : List Request → List Request → Prop
  | nil : DifferBy p [] []
  | shared (c : Request) {cs ds : List Request} : DifferBy p cs ds → DifferBy p (c :: cs) (c :: ds)
  | left {c : Request} {cs ds : List Request} : p c → DifferBy p cs ds → DifferBy p (c :: cs) ds
  | right {d : Request} {cs ds : List Request} : p d → DifferBy p cs ds → DifferBy p cs (d :: ds)

structure AgreesOff (q : Id) (s t : Session) : Prop where
  diagram : s.diagram = t.diagram
  reachability : s.reachability = t.reachability
  style : s.style = t.style
  renderHandlers : s.renderHandlers = t.renderHandlers
  clickHandlers : s.clickHandlers = t.clickHandlers
  visibility : s.visibility.AgreesOff q t.visibility

namespace AgreesOff

variable {q : Id} {s t : Session}

theorem refl (q : Id) (s : Session) : s.AgreesOff q s := ⟨rfl, rfl, rfl, rfl, rfl, fun _ _ ↦ rfl⟩

theorem symm (h : s.AgreesOff q t) : t.AgreesOff q s :=
  ⟨h.diagram.symm, h.reachability.symm, h.style.symm, h.renderHandlers.symm, h.clickHandlers.symm,
    fun id hid ↦ (h.visibility id hid).symm⟩

theorem handle (h : s.AgreesOff q t) (c : Request) :
    (s.handle c).1.AgreesOff q (t.handle c).1 := by
  obtain ⟨hsd, hsr, hss⟩ := s.handle_frame c
  obtain ⟨htd, htr, hts⟩ := t.handle_frame c
  obtain ⟨hsrender, hsclick⟩ := s.handlers_handle c
  obtain ⟨htrender, htclick⟩ := t.handlers_handle c
  exact {
    diagram := by rw [hsd, htd, h.diagram]
    reachability := by rw [hsr, htr, h.reachability]
    style := by rw [hss, hts, h.style]
    renderHandlers := by rw [hsrender, htrender, h.renderHandlers]
    clickHandlers := by rw [hsclick, htclick, h.clickHandlers]
    visibility := by
      cases c with
      | change c =>
        change (s.visibility.apply s.reachability c).AgreesOff q
          (t.visibility.apply t.reachability c)
        rw [← h.reachability]
        exact h.visibility.apply c
      | _ => exact h.visibility }

theorem handle_left (h : s.AgreesOff q t) {c : Request} (hc : c.IsAbout q)
    (hq : s.reachability.Isolates q) : (s.handle c).1.AgreesOff q t := by
  refine ⟨(s.handle_frame c).1.trans h.diagram, (s.handle_frame c).2.1.trans h.reachability,
    (s.handle_frame c).2.2.trans h.style, ?_, ?_, ?_⟩
  · cases hc <;> exact h.renderHandlers
  · cases hc <;> exact h.clickHandlers
  · cases hc with
    | set visible =>
      have htargets : ∀ id ∈ (Visibility.Change.set q visible).targets s.reachability, id = q :=
        fun id hid ↦ List.mem_singleton.1 hid
      exact h.visibility.apply_left ⟨nofun, nofun⟩ htargets
    | showDescendants =>
      exact h.visibility.apply_left (c := .showDescendants q) ⟨nofun, nofun⟩ hq.1
    | showAncestors =>
      exact h.visibility.apply_left (c := .showAncestors q) ⟨nofun, nofun⟩ hq.2

theorem handleAll (h : s.AgreesOff q t) (hq : s.reachability.Isolates q) {cs ds : List Request}
    (hdiffer : DifferBy (Request.IsAbout q) cs ds) :
    (s.handleAll cs).1.AgreesOff q (t.handleAll ds).1 := by
  have hafter : ∀ (s : Session) (c : Request), s.reachability.Isolates q →
      (s.handle c).1.reachability.Isolates q := by
    intro s c hs
    rw [(s.handle_frame c).2.1]
    exact hs
  induction hdiffer generalizing s t with
  | nil => exact h
  | shared c _ ih => exact ih (h.handle c) (hafter s c hq)
  | left hc _ ih => exact ih (h.handle_left hc hq) (hafter s _ hq)
  | right hd _ ih =>
    rw [h.reachability] at hq
    have hright := h.symm.handle_left hd hq
    exact ih hright.symm (h.reachability ▸ hq)

theorem click_eq (h : s.AgreesOff q t) {id : Id} (hid : id ≠ q) : s.click id = t.click id := by
  rw [Session.click, Session.click, h.visibility.isVisible_eq hid, h.clickHandlers]

end AgreesOff

/-- The sessions show the same, to the eye and to questions about any id but `q`. -/
structure LooksLike (s t : Session) (q : Id) : Prop where
  text : ∃ text, s.diagram.render s.visibility s.style = .ok text ∧
    t.diagram.render t.visibility t.style = .ok text
  sidebar : s.sidebar = t.sidebar
  isVisible : ∀ id, id ≠ q → s.visibility.isVisible id = t.visibility.isVisible id

section

variable {source : Text} {q : Id} (hq : ¬(Diagram.ofText source).Mentions q) {s t : Session}
  (h : s.AgreesOff q t) (hdiagram : s.diagram = .ofText source)
include hq h hdiagram

theorem AgreesOff.isVisible_of_mentions {id : Id} (hid : s.diagram.Mentions id) :
    s.visibility.isVisible id = t.visibility.isVisible id := by
  apply h.visibility.isVisible_eq
  rintro rfl
  rw [hdiagram] at hid
  exact hq hid

theorem AgreesOff.drawing_eq : s.drawing = t.drawing := by
  have hs := Diagram.isSound_ofText source
  rw [drawing, drawing, ← h.diagram, ← h.style]
  exact Diagram.draw_congr (fun id hid ↦ h.isVisible_of_mentions hq hdiagram hid)
    (hdiagram ▸ hs.keyed) s.style

theorem AgreesOff.sidebar_eq : s.sidebar = t.sidebar := by
  have hs := Diagram.isSound_ofText source
  rw [sidebar, sidebar, ← h.diagram]
  apply List.map_congr_left
  intro n hn
  have hkeyed : s.diagram.IsKeyed := hdiagram ▸ hs.keyed
  rw [h.isVisible_of_mentions hq hdiagram (.inl (hkeyed.id_mem_allIds hn))]

theorem AgreesOff.looksLike : s.LooksLike t q := by
  have hs := Diagram.isSound_ofText source
  refine ⟨⟨s.drawing, ?_, ?_⟩, h.sidebar_eq hq hdiagram, fun id hid ↦ h.visibility.isVisible_eq hid⟩
  · rw [drawing, hdiagram, hs.render_eq]
  · rw [h.drawing_eq hq hdiagram, drawing, ← h.diagram, hdiagram, hs.render_eq]

theorem AgreesOff.announce_eq : s.announce = t.announce := by
  rw [announce, announce, h.drawing_eq hq hdiagram, h.renderHandlers]

theorem AgreesOff.reply_eq {c : Request} (hc : c ≠ .click q) :
    (s.handle c).2 = (t.handle c).2 := by
  cases c with
  | change c =>
    have hafter := h.handle (.change c)
    exact hafter.announce_eq hq hdiagram
  | refresh => exact h.announce_eq hq hdiagram
  | text => simp only [Session.handle, h.drawing_eq hq hdiagram]
  | sidebar => simp only [Session.handle, h.sidebar_eq hq hdiagram]
  | click id => exact h.click_eq fun hid ↦ hc (congrArg Request.click hid)
  | onRender k => rfl
  | onClick k => rfl

end

/-- Behind every request that two runs share, be there what may of commands on an id that the
source does not mention, the sessions look the same and give the same reply. A click on that id is
the exception, since it asks for the one flag that may differ. -/
theorem looksLike_of_differBy {source : Text} {q : Id} (hq : ¬(Diagram.ofText source).Mentions q)
    {cs ds : List Request} (hdiffer : DifferBy (Request.IsAbout q) cs ds) (style : Style)
    (c : Request) :
    let s := ((start (.ofText source) style).handleAll cs).1
    let t := ((start (.ofText source) style).handleAll ds).1
    (s.handle c).1.LooksLike (t.handle c).1 q ∧
      (c ≠ .click q → (s.handle c).2 = (t.handle c).2) := by
  intro s t
  have hdiagram : s.diagram = .ofText source := (handleAll_frame _ cs).1
  have hisolated : (start (.ofText source) style).reachability.Isolates q :=
    Diagram.isolates_of_not_mentions hq
  have hagrees : s.AgreesOff q t :=
    (AgreesOff.refl q (start (.ofText source) style)).handleAll hisolated hdiffer
  constructor
  · have hafter : (s.handle c).1.diagram = .ofText source := (s.handle_frame c).1.trans hdiagram
    exact (hagrees.handle c).looksLike hq hafter
  · intro hc
    exact hagrees.reply_eq hq hdiagram hc

/-- The one run shows what lies upstream of `Z` before everything is hidden, the other shows `Z`
behind that. -/
theorem looksLike_of_differBy_chain :
    let source := "graph\nA-->B".toList
    let cs : List Request := [.change (.showAncestors ['Z']), .change .hideAll]
    let ds : List Request := [.change .hideAll, .change (.set ['Z'] true)]
    ¬(Diagram.ofText source).Mentions ['Z'] ∧ DifferBy (Request.IsAbout ['Z']) cs ds ∧
      let s := ((start (.ofText source) {}).handleAll cs).1
      let t := ((start (.ofText source) {}).handleAll ds).1
      (s.handle (.change (.showDescendants ['A']))).1.LooksLike
          (t.handle (.change (.showDescendants ['A']))).1 ['Z'] ∧
        (Request.change (.showDescendants ['A']) ≠ .click ['Z'] →
          (s.handle (.change (.showDescendants ['A']))).2 =
            (t.handle (.change (.showDescendants ['A']))).2) := by
  intro source cs ds
  have hq : ¬(Diagram.ofText source).Mentions ['Z'] := by decide +kernel
  have hdiffer : DifferBy (Request.IsAbout ['Z']) cs ds :=
    .left .showAncestors (.shared _ (.right (.set true) .nil))
  exact ⟨hq, hdiffer, looksLike_of_differBy hq hdiffer {} _⟩

end Session

end FlowchartView

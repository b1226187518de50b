import FlowchartView.Proofs.Diagram.Containers
import FlowchartView.Proofs.Diagram.Numbering
import FlowchartView.Proofs.Drawing.Composition
import FlowchartView.Proofs.Drawing.RoundTrip

namespace FlowchartView

open Text

theorem getElem?_filter_countP {α : Type} {p : α → Bool} {l : List α} {k : Nat} {a : α}
    (h : l[k]? = some a) (ha : p a) : (l.filter p)[(l.take k).countP p]? = some a := by
  obtain ⟨hk, rfl⟩ := List.getElem?_eq_some_iff.1 h
  have hsplit : l.filter p = (l.take k).filter p ++ l[k] :: (l.drop (k + 1)).filter p := by
    rw [← List.filter_cons_of_pos ha, ← List.filter_append, ← List.drop_eq_getElem_cons,
      List.take_append_drop]
  rw [hsplit, List.countP_eq_length_filter, List.getElem?_append_right (Nat.le_refl _),
    Nat.sub_self, List.getElem?_cons_zero]

theorem getElem?_frames {subgraphs : List Subgraph} {k : Nat} {s : Subgraph}
    (h : subgraphs[k]? = some s) (hs : s.members ≠ []) :
    (frames subgraphs)[(subgraphs.take k).countP (!·.members.isEmpty)]? = some s.unnamed := by
  have hfilter := getElem?_filter_countP (p := (!·.members.isEmpty)) h (by simpa using hs)
  rw [frames, List.getElem?_map, hfilter, Option.map_some]

theorem countP_take_eq_iff {α : Type} {p : α → Bool} {l : List α} {k : Nat} (h : k < l.length) :
    (l.take k).countP p = k ↔ ∀ a ∈ l.take k, p a := by
  have hlength : (l.take k).length = k := by
    rw [List.length_take]
    omega
  rw [← List.countP_eq_length, hlength]

namespace Diagram

variable {source : Text} {k : Nat} {s : Subgraph}

def shownBefore (d : Diagram) (v : Visibility) (k : Nat) : Nat :=
  (d.subgraphs.take k).countP fun s ↦ !(s.restrict v).members.isEmpty

theorem exists_getElem?_ofText_draw (v : Visibility) {style : Style} (hstyle : style.IsReadable)
    (hs : (ofText source).subgraphs[k]? = some s) (hne : (s.restrict v).members ≠ []) :
    ∃ t, (ofText ((ofText source).draw v style)).subgraphs[(ofText source).shownBefore v k]? =
      some t ∧ t.header = s.header ∧ t.members = (s.restrict v).members := by
  -- Front matter that is left open has no subgraphs behind it.
  have hopen : leavesFrontMatterOpen source = false := by
    cases hopen : leavesFrontMatterOpen source with
    | false => rfl
    | true =>
      rw [ofText_of_leavesFrontMatterOpen hopen] at hs
      cases hs
  obtain ⟨r, hr, -, -, -, -, -, -, -, hprefix⟩ := (isLegible_ofText source).ofText_draw v style
    (isSound_ofText source) (isClosedFrontMatter_ofText hopen) hstyle
  have hrestrict : ((ofText source).subgraphs.map (·.restrict v))[k]? = some (s.restrict v) := by
    rw [List.getElem?_map, hs, Option.map_some]
  have hframe := getElem?_frames hrestrict hne
  rw [← List.map_take, List.countP_map] at hframe
  obtain ⟨more, hmore⟩ := hprefix
  have hlt := (List.getElem?_eq_some_iff.1 hframe).1
  rw [← List.getElem?_append_left hlt, hmore, List.getElem?_map, Option.map_eq_some_iff] at hframe
  obtain ⟨t, ht, hts⟩ := hframe
  have hheader : t.unnamed.header = (s.restrict v).unnamed.header := congrArg Subgraph.header hts
  have hmembers : t.unnamed.members = (s.restrict v).unnamed.members :=
    congrArg Subgraph.members hts
  rw [hr]
  exact ⟨t, ht, hheader, hmembers⟩

theorem container?_ofText_draw (v : Visibility) {style : Style} (hstyle : style.IsReadable)
    (hs : (ofText source).subgraphs[k]? = some s) {id : Id} (hid : id ∈ (s.restrict v).members)
    {m : Node} (hm : (ofText ((ofText source).draw v style)).nodes.find? id = some m) :
    m.container? = some (idInPlace s.header ((ofText source).shownBefore v k)) := by
  obtain ⟨t, ht, hheader, hmembers⟩ :=
    exists_getElem?_ofText_draw v hstyle hs (List.ne_nil_of_mem hid)
  refine (container?_ofText hm).2 (.inl ⟨t, List.mem_of_getElem? ht, hmembers ▸ hid, ?_⟩)
  rw [id_eq_idInPlace ht, hheader]

/-- The node `m` stands where the node `n` of `d` stands, but subgraphs without members are not
counted when the others are numbered. -/
inductive Renumbers (d : Diagram) (n m : Node) : Prop
  | topLevel : n.id ∈ d.topLevel → n.container? = none → m.container? = none → Renumbers d n m
  | inside {k : Nat} {s : Subgraph} : d.subgraphs[k]? = some s → n.id ∈ s.members →
      n.container? = some (idInPlace s.header k) →
      m.container? = some (idInPlace s.header
        ((d.subgraphs.take k).countP (!·.members.isEmpty))) →
      (m.container? = n.container? ↔
        (headerId? s.header).isSome ∨ ∀ t ∈ d.subgraphs.take k, t.members ≠ []) →
      Renumbers d n m

theorem renumbers_ofText_draw {v : Visibility} (hv : ∀ id, v.isVisible id) {style : Style}
    (hstyle : style.IsReadable) {id : Id} {n m : Node}
    (hn : (ofText source).nodes.find? id = some n)
    (hm : (ofText ((ofText source).draw v style)).nodes.find? id = some m) :
    (ofText source).Renumbers n m := by
  have hs := isSound_ofText source
  have hview := (isViewOf_draw source v hstyle).1
  obtain rfl := hs.keyed id n hn
  have hplaced : n.id ∈ (ofText source).placedIds :=
    (hs.mem_placedIds n.id).2 (Option.isSome_iff_exists.2 ⟨n, hn⟩)
  rcases List.mem_append.1 hplaced with hinside | htop
  · obtain ⟨s, hmem, hid⟩ := List.mem_flatMap.1 hinside
    obtain ⟨k, hk⟩ := List.getElem?_of_mem hmem
    have hmembers : ∀ t : Subgraph, (t.restrict v).members = t.members := fun t ↦
      List.filter_eq_self.2 fun id _ ↦ hv id
    have hbefore : n.container? = some (idInPlace s.header k) := by
      rw [← id_eq_idInPlace hk]
      exact (container?_ofText hn).2 (.inl ⟨s, hmem, hid, rfl⟩)
    have hafter := container?_ofText_draw v hstyle hk (hmembers s ▸ hid) hm
    simp only [shownBefore, hmembers] at hafter
    refine .inside hk hid hbefore hafter ?_
    rw [hbefore, hafter, Option.some_inj, idInPlace_eq_iff,
      countP_take_eq_iff (List.getElem?_eq_some_iff.1 hk).1]
    simp
  · have hkept : n.id ∈ (ofText ((ofText source).draw v style)).topLevel := by
      rw [hview.topLevel]
      exact List.mem_filter.2 ⟨htop, hv n.id⟩
    exact .topLevel htop ((container?_ofText hn).2 (.inr ⟨htop, rfl⟩))
      ((container?_ofText hm).2 (.inr ⟨hkept, rfl⟩))

/-- Drawn with everything visible and read again, a node keeps its subgraph. The subgraph keeps an
id that its header names; a number goes down by the subgraphs without members before it. -/
theorem renumbers_of_render (source : Text) :
    ∃ text, (ofText source).render (.ofDiagram (ofText source)) {} = .ok text ∧
      (∀ id, (ofText text).nodes.contains id = (ofText source).nodes.contains id) ∧
      ∀ id n m, (ofText source).nodes.find? id = some n → (ofText text).nodes.find? id = some m →
        (ofText source).Renumbers n m := by
  have hv : ∀ id, (Visibility.ofDiagram (ofText source)).isVisible id :=
    Visibility.isVisible_ofIds _
  have hstyle := Style.isReadable_default
  refine ⟨_, render_ofText source _ {}, fun id ↦ ?_, fun id n m ↦ renumbers_ofText_draw hv hstyle⟩
  rw [(isViewOf_draw source _ hstyle).1.contains_eq, hv, Bool.true_and]

/-- The second of two subgraphs, behind one without members: `sg2` becomes `sg1`. -/
theorem not_same_container_of_render : ¬∀ source : Text,
    ∃ text, (ofText source).render (.ofDiagram (ofText source)) {} = .ok text ∧
      ∀ id m, (ofText text).nodes.find? id = some m →
        ∃ n, (ofText source).nodes.find? id = some n ∧ m.container? = n.container? := by
  intro h
  let source := "graph\nsubgraph\nend\nsubgraph\nA[a]\nend".toList
  obtain ⟨text, htext, hsame⟩ := h source
  rw [render_ofText] at htext
  obtain rfl := Except.ok.inj htext
  have hread : ((ofText ((ofText source).draw (.ofDiagram (ofText source)) {})).nodes.find?
      ['A']).map Node.container? = some (some "sg1".toList) := by decide +kernel
  have hsource : ((ofText source).nodes.find? ['A']).map Node.container? =
      some (some "sg2".toList) := by decide +kernel
  obtain ⟨m, hm, hmcontainer⟩ := Option.map_eq_some_iff.1 hread
  obtain ⟨n, hn, hcontainer⟩ := hsame ['A'] m hm
  rw [hn, Option.map_some, ← hcontainer, hmcontainer] at hsource
  cases hsource

end Diagram

end FlowchartView

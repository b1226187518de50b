import FlowchartView.Proofs.Diagram.Placement
import FlowchartView.Proofs.Diagram.Preamble
import FlowchartView.Proofs.Statement.EdgeLine

namespace FlowchartView

open Text

def Node.declaration (n : Node) : NodeLine := ⟨n.id, n.label, n.shape⟩

structure Node.IsLegible (n : Node) : Prop where
  isId : isId n.id
  shape? : n.shape? = some n.shape
  line : Says n.line (.node n.declaration)

structure Subgraph.IsLegible (s : Subgraph) : Prop where
  header : ∃ title, Says s.header (.subgraph s.header title)
  direction : ∀ t ∈ s.direction?, Says t (.direction t)

theorem Says.readFrom {code : Text} {s : Statement} (h : Says code s) : s.ReadFrom code :=
  h.ofCode_eq ▸ Statement.readFrom_ofCode code

theorem NodeLine.isLegible_of_says {code : Text} {n : NodeLine} (h : Says code (.node n))
    (container? : Option Id) : (⟨n.id, n.label, some n.shape, container?⟩ : Node).IsLegible := by
  cases h.readFrom with
  | node hn => exact ⟨(parts_of_ofCode? hn).1, rfl, says_line h.isCode hn⟩

theorem StyleClass.says_line_of_says {code : Text} {c : StyleClass}
    (h : Says code (.styleClass c)) : Says c.line (.styleClass c) := by
  cases h.readFrom with
  | styleClass hc =>
    obtain ⟨body, -, hbody⟩ := Option.bind_eq_some_iff.1 hc
    obtain ⟨style, -, rfl⟩ := Option.map_eq_some_iff.1 hbody
    exact h

theorem ClassMembership.isLegal_of_says {code : Text} {a : ClassMembership}
    (h : Says code (.membership a)) : a.IsLegal := by
  cases h.readFrom with
  | membership ha => exact isLegal_of_ofCode? h.isCode ha

theorem Edge.isLegal_of_says {code : Text} {e : Edge} (h : Says code (.edge e)) : e.IsLegal := by
  cases h.readFrom with
  | edge he => exact isLegal_of_ofCode? he

theorem Says.eq_header {code header title : Text} (h : Says code (.subgraph header title)) :
    header = code := by
  cases h.readFrom with
  | subgraph => rfl

theorem Says.eq_direction {code t : Text} (h : Says code (.direction t)) : t = code := by
  cases h.readFrom with
  | direction => rfl

namespace Layout

structure IsLegible (l : Layout) : Prop where
  nodes : ∀ id n, l.nodes.find? id = some n → n.IsLegible
  subgraphs : ∀ s ∈ l.subgraphs, s.IsLegible

theorem frame_of_mem_register {l : Layout} {n : NodeLine} {s : Subgraph}
    (h : s ∈ (l.register n).subgraphs) :
    ∃ t ∈ l.subgraphs, s.header = t.header ∧ s.direction? = t.direction? := by
  cases hold : l.nodes.find? n.id with
  | some old =>
    rw [register_of_known hold] at h
    exact ⟨s, h, rfl, rfl⟩
  | none =>
    cases ht : l.current? with
    | none =>
      rw [register_of_no_current hold ht] at h
      exact ⟨s, h, rfl, rfl⟩
    | some t =>
      rw [register_of_current hold ht] at h
      rcases List.mem_append.1 h with h | h
      · exact ⟨s, List.mem_append_left _ h, rfl, rfl⟩
      · obtain rfl := List.mem_singleton.1 h
        exact ⟨t, by simp [Layout.subgraphs, ht], rfl, rfl⟩

theorem IsLegible.register {l : Layout} (h : l.IsLegible) {code : Text} {n : NodeLine}
    (hn : Says code (.node n)) : (l.register n).IsLegible := by
  constructor
  · intro id m hm
    rw [nodes_register, OrderedMap.find?_insert] at hm
    split at hm
    · exact Option.some.inj hm ▸ NodeLine.isLegible_of_says hn _
    · exact h.nodes id m hm
  · intro s hs
    obtain ⟨t, ht, hheader, hdirection⟩ := frame_of_mem_register hs
    obtain ⟨hh, hd⟩ := h.subgraphs t ht
    exact ⟨hheader ▸ hh, hdirection ▸ hd⟩

theorem IsLegible.step {l : Layout} (h : l.IsLegible) {code : Text} {s : Statement}
    (hs : Says code s) : (l.step s).IsLegible := by
  cases s with
  | node n => exact h.register hs
  | subgraph header title =>
    refine ⟨h.nodes, List.forall_mem_append.2 ⟨h.subgraphs, ?_⟩⟩
    intro t ht
    obtain rfl := List.mem_singleton.1 ht
    obtain rfl := hs.eq_header
    exact ⟨⟨title, hs⟩, by simp⟩
  | direction t =>
    refine ⟨h.nodes, ?_⟩
    obtain rfl := hs.eq_direction
    intro u hu
    rcases List.mem_append.1 hu with hu | hu
    · exact h.subgraphs u (List.mem_append_left _ hu)
    · obtain ⟨o, ho, rfl⟩ := Option.map_eq_some_iff.1 (Option.mem_toList.1 hu)
      have hopen := h.subgraphs o (List.mem_append_right _ (Option.mem_toList.2 ho))
      refine ⟨hopen.header, ?_⟩
      rintro _ ⟨⟩
      exact hs
  | endSubgraph => exact ⟨h.nodes, by simpa [Layout.step, Layout.subgraphs] using h.subgraphs⟩
  | _ => exact h

theorem IsLegible.run {statements : List Statement}
    (hs : ∀ s ∈ statements, s = .blank ∨ ∃ code, Says code s) {l : Layout} (h : l.IsLegible) :
    (statements.foldl Layout.step l).IsLegible := by
  induction statements generalizing l with
  | nil => exact h
  | cons s statements ih =>
    obtain ⟨hfirst, hrest⟩ := List.forall_mem_cons.1 hs
    refine ih hrest ?_
    rcases hfirst with rfl | ⟨code, hcode⟩
    · exact h
    · exact h.step hcode

end Layout

namespace Diagram

/-- Every part of the diagram can be written and read again. -/
structure IsLegible (d : Diagram) : Prop where
  frontMatter : ∀ s ∈ d.frontMatter, IsOneLine s
  directive : ∀ t ∈ d.directive?, IsTrimmed t ∧ isDirective t ∧ IsOneLine t
  nodes : ∀ id n, d.nodes.find? id = some n → n.IsLegible
  subgraphs : ∀ s ∈ d.subgraphs, s.IsLegible
  edges : ∀ e ∈ d.edges, e.IsLegal
  styleClasses : ∀ c ∈ d.styleClasses, Says c.line (.styleClass c)
  memberships : ∀ a ∈ d.memberships, a.IsLegal

theorem isOneLine_of_mem_ofText {source : Text} {l : Line} (h : l ∈ Line.ofText source) :
    IsOneLine l.text := by
  have htext : l.text ∈ (Line.ofText source).map Line.text := List.mem_map_of_mem h
  rw [Line.map_text_ofText] at htext
  exact isLineBreak_of_mem_splitLines source _ htext

theorem says_statements_ofText (source : Text) :
    ∀ s ∈ (Preamble.ofLines (Line.ofText source)).statements, s = .blank ∨ ∃ code, Says code s := by
  rw [Preamble.statements, List.forall_mem_map]
  intro l hl
  have hmem := (Preamble.ofLines_subset (Line.ofText source)).2.1 hl
  exact (says_codeOf (isOneLine_of_mem_ofText hmem)).imp_right fun h ↦ ⟨_, h⟩

theorem isLegible_ofText (source : Text) : (ofText source).IsLegible := by
  obtain ⟨hfront, -, hdirective⟩ := Preamble.ofLines_subset (Line.ofText source)
  have hsaid := says_statements_ofText source
  have hlayout : (Layout.ofStatements
      (Preamble.ofLines (Line.ofText source)).statements).IsLegible :=
    Layout.IsLegible.run hsaid ⟨by simp, by simp [Layout.subgraphs]⟩
  have hpart : ∀ {α : Type} {f : Statement → Option α} (a : α), f .blank = none →
      a ∈ (Preamble.ofLines (Line.ofText source)).statements.filterMap f →
      ∃ s, f s = some a ∧ ∃ code, Says code s := by
    intro α f a hblank ha
    obtain ⟨s, hs, hsa⟩ := List.mem_filterMap.1 ha
    refine ⟨s, hsa, (hsaid s hs).resolve_left ?_⟩
    rintro rfl
    rw [hblank] at hsa
    cases hsa
  exact {
    frontMatter := by
      intro s hs
      obtain ⟨l, hl, rfl⟩ := List.mem_map.1 hs
      exact isOneLine_of_mem_ofText (hfront hl)
    directive := by
      intro t ht
      obtain ⟨l, hl, rfl⟩ := Option.map_eq_some_iff.1 ht
      obtain ⟨hmem, hdir⟩ := hdirective l hl
      exact ⟨isTrimmed_trim _, hdir, (isOneLine_of_mem_ofText hmem).of_isInfix (trim_isInfix _)⟩
    nodes := hlayout.nodes
    subgraphs := hlayout.subgraphs
    edges := by
      intro e he
      obtain ⟨s, hse, code, hcode⟩ := hpart e rfl he
      cases s <;> cases hse
      exact Edge.isLegal_of_says hcode
    styleClasses := by
      intro c hc
      obtain ⟨s, hsc, code, hcode⟩ := hpart c rfl hc
      cases s <;> cases hsc
      exact StyleClass.says_line_of_says hcode
    memberships := by
      intro a ha
      obtain ⟨s, hsa, code, hcode⟩ := hpart a rfl ha
      cases s <;> cases hsa
      exact ClassMembership.isLegal_of_says hcode }

end Diagram

end FlowchartView

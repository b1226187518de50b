import FlowchartView.Proofs.Diagram.Containers
import FlowchartView.Proofs.Diagram.Declarations
import FlowchartView.Proofs.Diagram.Preamble

namespace FlowchartView

open Text

namespace Layout

structure Follows (l : Layout) (statements : List Statement) : Prop where
  keys : l.nodes.keys = distinct (declaredIds statements)
  header : l.subgraphs.map Subgraph.header = headers statements
  current? : openPlace? statements = l.current?.map fun _ ↦ l.closed.length
  members : ∀ k s, l.subgraphs[k]? = some s → s.members = idsAt statements (some k)
  topLevel : l.topLevel = idsAt statements none

variable {l m : Layout} {statements : List Statement}

theorem Follows.of_frame (h : l.Follows statements) {s : Statement}
    (hdeclared : ∀ n, s = .node n → n.id ∈ declaredIds statements) (hheader : s.header? = none)
    (hkeys : m.nodes.keys = l.nodes.keys) (htop : m.topLevel = l.topLevel)
    (hframes : m.subgraphs.map (fun t ↦ (t.header, t.members)) =
      l.subgraphs.map fun t ↦ (t.header, t.members))
    (hcurrent : openPlace? (statements ++ [s]) = m.current?.map fun _ ↦ m.closed.length) :
    m.Follows (statements ++ [s]) := by
  have hids : distinct (declaredIds (statements ++ [s])) = distinct (declaredIds statements) :=
    distinct_declaredIds_append hdeclared
  exact {
    keys := by rw [hkeys, h.keys, hids]
    header := by
      have hheaders := congrArg (List.map Prod.fst) hframes
      rw [List.map_map, List.map_map] at hheaders
      have hnone : headers [s] = [] := by simp [headers, hheader]
      rw [headers_append, hnone, List.append_nil, ← h.header]
      exact hheaders
    current? := hcurrent
    members := by
      intro k t ht
      have hk := congrArg (·[k]?) hframes
      simp only [List.getElem?_map, ht, Option.map_some] at hk
      obtain ⟨u, hu, htu⟩ := Option.map_eq_some_iff.1 hk.symm
      rw [idsAt_append_of_declared hdeclared, ← h.members k u hu]
      exact (congrArg Prod.snd htu).symm
    topLevel := by rw [htop, h.topLevel, idsAt_append_of_declared hdeclared] }

theorem Follows.subgraph (h : l.Follows statements) (header title : Text) :
    (l.step (.subgraph header title)).Follows (statements ++ [.subgraph header title]) := by
  have hdeclared : ∀ n, Statement.subgraph header title = .node n → n.id ∈ declaredIds statements :=
    declared_of_node?_eq_none rfl
  have hlength : l.subgraphs.length = (headers statements).length := by
    rw [← h.header, List.length_map]
  exact {
    keys := by
      rw [distinct_declaredIds_append hdeclared]
      exact h.keys
    header := by
      rw [headers_append, ← h.header]
      simp [Layout.step, subgraphs, headers, Statement.header?]
    current? := by
      rw [openPlace?_append_singleton, ← hlength]
      rfl
    members := by
      intro k t ht
      rw [idsAt_append_of_declared hdeclared]
      have hopened : (l.subgraphs ++ [⟨l.subgraphId title, header, [], none⟩])[k]? = some t := ht
      rw [List.getElem?_append] at hopened
      split at hopened
      · exact h.members k t hopened
      · next hk =>
        obtain rfl := List.mem_singleton.1 (List.mem_of_getElem? hopened)
        rw [idsAt_eq_nil (by omega)]
    topLevel := by
      rw [idsAt_append_of_declared hdeclared]
      exact h.topLevel }

theorem Follows.mem_keys (h : l.Follows statements) {id : Id} :
    id ∈ l.nodes.keys ↔ id ∈ declaredIds statements := by
  rw [h.keys, mem_distinct]

theorem Follows.keys_register (h : l.Follows statements) (n : NodeLine) :
    (l.register n).nodes.keys = distinct (declaredIds (statements ++ [.node n])) := by
  rw [nodes_register, OrderedMap.keys_insert]
  split
  · next hn =>
    rw [h.keys, distinct_declaredIds_append]
    rintro _ ⟨⟩
    exact h.mem_keys.1 hn
  · next hn => rw [h.keys, distinct_declaredIds_append_new fun hnew ↦ hn (h.mem_keys.2 hnew)]

theorem Follows.node_of_declared (h : l.Follows statements) {n : NodeLine}
    (hn : n.id ∈ declaredIds statements) : (l.register n).Follows (statements ++ [.node n]) := by
  obtain ⟨old, hold⟩ := Option.isSome_iff_exists.1 (OrderedMap.contains_iff.2 (h.mem_keys.2 hn))
  have hdeclared : ∀ m, Statement.node n = .node m → m.id ∈ declaredIds statements := by
    rintro _ ⟨⟩
    exact hn
  have hkeys := h.keys_register n
  rw [distinct_declaredIds_append hdeclared, ← h.keys, register_of_known hold] at hkeys
  rw [register_of_known hold]
  refine h.of_frame hdeclared rfl hkeys rfl rfl ?_
  rw [openPlace?_append_singleton]
  exact h.current?

section

variable {n : NodeLine} (hnew : n.id ∉ declaredIds statements)
include hnew

theorem Follows.find?_eq_none (h : l.Follows statements) : l.nodes.find? n.id = none := by
  rwa [← h.mem_keys, ← OrderedMap.contains_iff, OrderedMap.contains, Bool.not_eq_true,
    Option.isSome_eq_false_iff, Option.isNone_iff_eq_none] at hnew

theorem Follows.node_of_no_current (h : l.Follows statements) (hl : l.current? = none) :
    (l.register n).Follows (statements ++ [.node n]) := by
  have hplace : openPlace? statements = none := by rw [h.current?, hl, Option.map_none]
  have hkeys := h.keys_register n
  rw [register_of_no_current (h.find?_eq_none hnew) hl] at hkeys ⊢
  exact {
    keys := hkeys
    header := by
      rw [headers_append, ← h.header]
      exact (List.append_nil _).symm
    current? := by
      rw [openPlace?_append_singleton]
      exact h.current?
    members := by
      intro k t hk
      rw [idsAt_append_of_new hnew, hplace, if_neg (by simp), List.append_nil]
      exact h.members k t hk
    topLevel := by rw [idsAt_append_of_new hnew, hplace, if_pos rfl, ← h.topLevel] }

theorem Follows.node_of_current (h : l.Follows statements) {c : Subgraph}
    (hc : l.current? = some c) : (l.register n).Follows (statements ++ [.node n]) := by
  have hplace : openPlace? statements = some l.closed.length := by
    rw [h.current?, hc, Option.map_some]
  have hsub : l.subgraphs = l.closed ++ [c] := by rw [subgraphs, hc, Option.toList_some]
  have hkeys := h.keys_register n
  rw [register_of_current (h.find?_eq_none hnew) hc] at hkeys ⊢
  exact {
    keys := hkeys
    header := by
      rw [headers_append, ← h.header, hsub]
      simp [subgraphs, headers, Statement.header?]
    current? := by
      rw [openPlace?_append_singleton]
      exact hplace
    members := by
      intro k t hk
      rw [idsAt_append_of_new hnew, hplace]
      simp only [subgraphs, Option.toList_some, List.getElem?_append] at hk
      split at hk
      -- Of all subgraphs only the last, which is open, gets the new id.
      · next hlt =>
        rw [if_neg (by simpa using (Nat.ne_of_lt hlt).symm), List.append_nil]
        exact h.members k t (by rw [hsub, List.getElem?_append_left hlt, hk])
      · next hge =>
        obtain rfl := List.mem_singleton.1 (List.mem_of_getElem? hk)
        have hlt := (List.getElem?_eq_some_iff.1 hk).1
        rw [List.length_singleton] at hlt
        obtain rfl : k = l.closed.length := by omega
        have hmembers := h.members l.closed.length c (by rw [hsub]; simp)
        rw [if_pos rfl, ← hmembers]
    topLevel := by
      rw [idsAt_append_of_new hnew, hplace, if_neg (by simp), List.append_nil]
      exact h.topLevel }

end

theorem Follows.step (h : l.Follows statements) (s : Statement) :
    (l.step s).Follows (statements ++ [s]) := by
  cases s with
  | subgraph header title => exact h.subgraph header title
  | direction code =>
    refine h.of_frame (declared_of_node?_eq_none rfl) rfl rfl rfl ?_ ?_
    · cases ht : l.current? <;> simp [Layout.step, subgraphs, ht]
    · rw [openPlace?_append_singleton, if_neg (by simp [Statement.isBoundary]), h.current?]
      simp [Layout.step, Function.comp_def]
  | endSubgraph =>
    refine h.of_frame (declared_of_node?_eq_none rfl) rfl rfl rfl ?_ ?_
    · simp [Layout.step, subgraphs]
    · rw [openPlace?_append_singleton]
      rfl
  | node n =>
    by_cases hn : n.id ∈ declaredIds statements
    · exact h.node_of_declared hn
    · cases hc : l.current? with
      | none => exact h.node_of_no_current hn hc
      | some c => exact h.node_of_current hn hc
  | _ =>
    refine h.of_frame (declared_of_node?_eq_none rfl) rfl rfl rfl rfl ?_
    rw [openPlace?_append_singleton]
    exact h.current?

theorem Follows.run (h : l.Follows statements) (more : List Statement) :
    (more.foldl Layout.step l).Follows (statements ++ more) := by
  induction more generalizing l statements with
  | nil => rwa [List.append_nil]
  | cons s more ih =>
    rw [List.append_cons]
    exact ih (h.step s)

theorem Follows.exists_subgraph (h : l.Follows statements) {earlier later : List Statement}
    {header title : Text} (hsplit : statements = earlier ++ .subgraph header title :: later) :
    ∃ s, l.subgraphs[(headers earlier).length]? = some s ∧ s.header = header := by
  have hheader : (l.subgraphs.map Subgraph.header)[(headers earlier).length]? =
      some header := by
    rw [h.header, hsplit, headers_append, List.getElem?_append_right (Nat.le_refl _), Nat.sub_self]
    rfl
  rwa [List.getElem?_map, Option.map_eq_some_iff] at hheader

section

variable {earlier later : List Statement} {n : NodeLine}
  (hsplit : statements = earlier ++ .node n :: later)
include hsplit

theorem Follows.exists_node (h : l.Follows statements) : ∃ m, l.nodes.find? n.id = some m := by
  rw [← Option.isSome_iff_exists, ← OrderedMap.contains, OrderedMap.contains_iff, h.mem_keys,
    mem_declaredIds]
  exact ⟨n, by simp [hsplit], rfl⟩

theorem find?_of_last (hlast : n.id ∉ declaredIds later) :
    ∃ m, (ofStatements statements).nodes.find? n.id = some m ∧ m.label = n.label ∧
      m.shape? = some n.shape := by
  have hfind := find?_foldl_step statements {} n.id
  have hnone : (later.filterMap Statement.node?).reverse.find? (·.id = n.id) = none := by
    rw [List.find?_eq_none]
    intro m hm
    have hne : m.id ≠ n.id := fun hid ↦ hlast (hid ▸ List.mem_map_of_mem (List.mem_reverse.1 hm))
    simpa using hne
  have hdeclared : statements.filterMap Statement.node? =
      earlier.filterMap Statement.node? ++ n :: later.filterMap Statement.node? := by
    rw [hsplit, List.filterMap_append]
    rfl
  rw [hdeclared, List.reverse_append, List.reverse_cons, List.append_assoc, List.find?_append,
    hnone, Option.none_or, List.singleton_append, List.find?_cons_of_pos (by simp),
    Option.map_some, Option.some_or, Option.map_eq_some_iff] at hfind
  obtain ⟨m, hm, hplain⟩ := hfind
  exact ⟨m, hm, congrArg Node.label hplain, congrArg Node.shape? hplain⟩

end

theorem follows_ofStatements (statements : List Statement) :
    (ofStatements statements).Follows statements := by
  have hempty : ({} : Layout).Follows [] := ⟨rfl, rfl, rfl, by simp [subgraphs], rfl⟩
  exact hempty.run statements

end Layout

namespace Diagram

/-- The registry is what the declarations among the statements say: of several for one id the last
gives label and shape and the first gives the place. -/
structure IsDeclaredBy (d : Diagram) (statements : List Statement) : Prop where
  contains_iff : ∀ id, d.nodes.contains id ↔ ∃ n, .node n ∈ statements ∧ n.id = id
  keys : d.nodes.keys = distinct (declaredIds statements)
  last : ∀ earlier n later, statements = earlier ++ .node n :: later → n.id ∉ declaredIds later →
    ∃ m, d.nodes.find? n.id = some m ∧ m.label = n.label ∧ m.shape? = some n.shape
  inside : ∀ earlier header title between n later,
    statements = earlier ++ .subgraph header title :: (between ++ .node n :: later) →
    (∀ s ∈ between, s.isBoundary = false) → n.id ∉ declaredIds (earlier ++ between) →
    ∃ m s, d.nodes.find? n.id = some m ∧ d.subgraphs[(headers earlier).length]? = some s ∧
      s.header = header ∧ n.id ∈ s.members ∧ m.container? = some s.id
  outside : ∀ earlier n later, statements = earlier ++ .node n :: later →
    (∀ before header title between, earlier = before ++ .subgraph header title :: between →
      ∃ s ∈ between, s.isBoundary) → n.id ∉ declaredIds earlier →
    ∃ m, d.nodes.find? n.id = some m ∧ n.id ∈ d.topLevel ∧ m.container? = none
  members : ∀ s ∈ d.subgraphs, s.members.Sublist d.nodes.keys
  topLevel : d.topLevel.Sublist d.nodes.keys

theorem isDeclaredBy_ofText (source : Text) :
    (ofText source).IsDeclaredBy (Preamble.ofLines (Line.ofText source)).statements := by
  have h := Layout.follows_ofStatements (Preamble.ofLines (Line.ofText source)).statements
  have htop : (ofText source).topLevel = idsAt _ none := h.topLevel
  have hkeys : (ofText source).nodes.keys = distinct (declaredIds _) := h.keys
  exact {
    contains_iff := fun id ↦ OrderedMap.contains_iff.trans (h.mem_keys.trans mem_declaredIds)
    keys := hkeys
    last := fun earlier n later ↦ Layout.find?_of_last
    inside := by
      intro earlier header title between n later hsplit hbetween hfirst
      obtain ⟨s, hs, hheader⟩ := h.exists_subgraph hsplit
      have hopen : openPlace? (earlier ++ .subgraph header title :: between) =
          some (headers earlier).length :=
        openPlace?_eq_some_iff.2 ⟨earlier, header, title, between, rfl, hbetween, rfl⟩
      rw [← List.cons_append, ← List.append_assoc] at hsplit
      have hfirst : n.id ∉ declaredIds (earlier ++ .subgraph header title :: between) := by
        rwa [declaredIds_append] at hfirst ⊢
      have hmem : n.id ∈ s.members := by
        rw [h.members _ s hs]
        exact mem_idsAt hsplit hfirst hopen
      obtain ⟨m, hm⟩ := h.exists_node hsplit
      exact ⟨m, s, hm, hs, hheader, hmem,
        (container?_ofText hm).2 (.inl ⟨s, List.mem_of_getElem? hs, hmem, rfl⟩)⟩
    outside := by
      intro earlier n later hsplit hnone hfirst
      have hopen : openPlace? earlier = none := by
        rw [Option.eq_none_iff_forall_ne_some]
        intro k hk
        obtain ⟨before, header, title, between, hearlier, hbetween, -⟩ :=
          openPlace?_eq_some_iff.1 hk
        obtain ⟨s, hs, hboundary⟩ := hnone before header title between hearlier
        rw [hbetween s hs] at hboundary
        cases hboundary
      have hmem : n.id ∈ (ofText source).topLevel := by
        rw [htop]
        exact mem_idsAt hsplit hfirst hopen
      obtain ⟨m, hm⟩ := h.exists_node hsplit
      exact ⟨m, hm, hmem, (container?_ofText hm).2 (.inr ⟨hmem, rfl⟩)⟩
    members := by
      intro s hs
      obtain ⟨k, hk⟩ := List.getElem?_of_mem hs
      rw [h.members k s hk, hkeys]
      exact List.filter_sublist
    topLevel := by
      rw [htop, hkeys]
      exact List.filter_sublist }

end Diagram

end FlowchartView

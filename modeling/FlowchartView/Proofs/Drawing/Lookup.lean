import FlowchartView.Drawing.Basic

namespace FlowchartView

open Text

def failAt {α : Type} (missing? : Option Id) (a : α) : Except MissingNode α :=
  match missing? with
  | some id => .error ⟨id⟩
  | none => .ok a

theorem failAt_bind {α β : Type} (first? second? : Option Id) (a : α) (f : α → β) :
    (failAt first? a >>= fun x ↦ failAt second? (f x)) = failAt (first?.or second?) (f a) := by
  cases first? <;> rfl

theorem failAt_map {α β : Type} (missing? : Option Id) (a : α) (f : α → β) :
    (failAt missing? a >>= fun x ↦ pure (f x)) = failAt missing? (f a) := by
  cases missing? <;> rfl

theorem failAt_eq_error_iff {α : Type} {missing? : Option Id} {a : α} {e : MissingNode} :
    failAt missing? a = .error e ↔ missing? = some e.id := by
  cases missing? with
  | none => simp [failAt]
  | some id =>
    constructor
    · rintro ⟨⟩
      rfl
    · rintro ⟨⟩
      rfl

theorem failAt_eq_ok_iff {α : Type} {missing? : Option Id} {a b : α} :
    failAt missing? a = .ok b ↔ missing? = none ∧ a = b := by
  cases missing? <;> simp [failAt]

namespace Diagram

def missing? (d : Diagram) (ids : List Id) : Option Id := ids.find? (!d.nodes.contains ·)

def lookUpAll (d : Diagram) (ids : List Id) : Except MissingNode (List Node) :=
  ids.mapM fun id ↦
    match d.nodes.find? id with
    | some n => .ok n
    | none => .error ⟨id⟩

theorem lookUpAll_eq (d : Diagram) (ids : List Id) :
    d.lookUpAll ids = failAt (d.missing? ids) (d.nodesOf ids) := by
  induction ids with
  | nil => rfl
  | cons id ids ih =>
    rw [lookUpAll] at ih ⊢
    rw [List.mapM_cons, ih]
    cases hn : d.nodes.find? id with
    | none =>
      have hmissing : d.missing? (id :: ids) = some id :=
        List.find?_cons_of_pos (by simp [OrderedMap.contains, hn])
      rw [hmissing]
      rfl
    | some n =>
      have hmissing : d.missing? (id :: ids) = d.missing? ids :=
        List.find?_cons_of_neg (by simp [OrderedMap.contains, hn])
      have hnodes : d.nodesOf (id :: ids) = n :: d.nodesOf ids := List.filterMap_cons_some hn
      rw [hmissing, hnodes]
      exact failAt_map _ _ _

theorem missing?_append (d : Diagram) (ids more : List Id) :
    d.missing? (ids ++ more) = (d.missing? ids).or (d.missing? more) := List.find?_append

theorem mapM_members {β : Type} (d : Diagram) (f : Subgraph → β) (subgraphs : List Subgraph) :
    subgraphs.mapM (fun s ↦ failAt (d.missing? s.members) (f s)) =
      failAt (d.missing? (subgraphs.flatMap Subgraph.members)) (subgraphs.map f) := by
  induction subgraphs with
  | nil => rfl
  | cons s subgraphs ih =>
    simp only [List.mapM_cons, ih, failAt_map, failAt_bind, List.flatMap_cons, missing?_append,
      List.map_cons]

def blockLines (style : Style) (s : Subgraph) : List Node → List Text
  | [] => []
  | kept =>
    (style.indent ++ s.header) ::
      (s.direction?.toList ++ kept.map Node.line).map (style.indent ++ style.indent ++ ·) ++
      [style.indent ++ endKeyword]

theorem subgraphSection_eq (d : Diagram) (v : Visibility) (style : Style) (s : Subgraph) :
    d.subgraphSection v style s = blockLines style s (d.shownNodes v s.members) := by
  rw [subgraphSection]
  cases d.shownNodes v s.members <;> rfl

/-- Looks up all members before the hidden ones are left out. -/
def lookUpBlock (d : Diagram) (v : Visibility) (style : Style) (s : Subgraph) :
    Except MissingNode (List Text) := do
  let members ← d.lookUpAll s.members
  return blockLines style s (members.filter fun n ↦ v.isVisible n.id)

def lookUpTopLevel (d : Diagram) (v : Visibility) (style : Style) :
    Except MissingNode (List Text) := do
  let nodes ← d.lookUpAll d.topLevel
  return (nodes.filter fun n ↦ v.isVisible n.id).map fun n ↦ style.indent ++ n.line

def lookUpClicks (d : Diagram) (v : Visibility) (style : Style) :
    Except MissingNode (List Text) := do
  if style.clickHooks then
    let members ← d.subgraphs.mapM fun s ↦ d.lookUpAll s.members
    let nodes ← d.lookUpAll d.topLevel
    let shown := (members.flatten ++ nodes).filter fun n ↦ v.isVisible n.id
    let ends := ((d.shownEdges v).flatMap Edge.endpoints).filter (!d.nodes.contains ·)
    return (distinct (shown.map Node.id ++ ends)).map fun id ↦
      style.indent ++ clickLine id style.clickCallback
  else return []

/-- The drawing, section by section. Each section looks up the nodes that it needs. -/
def renderByLookUp (d : Diagram) (v : Visibility) (style : Style) : Except MissingNode Text := do
  let blocks ← d.subgraphs.mapM (d.lookUpBlock v style)
  let topLevel ← d.lookUpTopLevel v style
  let clicks ← d.lookUpClicks v style
  let sections := [d.frontMatter, d.headSection style] ++ blocks ++
    [topLevel, d.classSection v style, clicks, d.edgeSection v style]
  return joinLines ([[]].intercalate (sections.filter (!·.isEmpty)))

section

variable (d : Diagram) (v : Visibility) (style : Style)

theorem lookUpBlock_eq : d.lookUpBlock v style = fun s ↦
    failAt (d.missing? s.members) (d.subgraphSection v style s) := by
  funext s
  rw [lookUpBlock, lookUpAll_eq, failAt_map, subgraphSection_eq, shownNodes]

theorem lookUpTopLevel_eq : d.lookUpTopLevel v style =
    failAt (d.missing? d.topLevel) (d.topLevelSection v style) := by
  rw [lookUpTopLevel, lookUpAll_eq, failAt_map]
  rfl

theorem placedNodes_eq_append : d.placedNodes =
    (d.subgraphs.map fun s ↦ d.nodesOf s.members).flatten ++ d.nodesOf d.topLevel := by
  rw [placedNodes, placedIds, nodesOf, List.filterMap_append, List.filterMap_flatMap,
    List.flatMap_def]
  rfl

theorem unregistered?_eq : d.unregistered? =
    (d.missing? (d.subgraphs.flatMap Subgraph.members)).or (d.missing? d.topLevel) :=
  d.missing?_append _ _

theorem lookUpClicks_eq : d.lookUpClicks v style =
    failAt (if style.clickHooks then d.unregistered? else none) (d.clickSection v style) := by
  rw [lookUpClicks, clickSection]
  split
  · simp only [lookUpAll_eq, mapM_members, failAt_map, failAt_bind, ← unregistered?_eq]
    rw [← placedNodes_eq_append]
    rfl
  · rfl

theorem render_eq_failAt : d.render v style = failAt d.unregistered? (d.draw v style) := rfl

theorem renderByLookUp_eq : d.renderByLookUp v style = d.render v style := by
  -- The hooks look up nothing that the containers' own sections have not found before.
  have hfirst : (d.missing? (d.subgraphs.flatMap Subgraph.members)).or
      ((d.missing? d.topLevel).or (if style.clickHooks then d.unregistered? else none)) =
        d.unregistered? := by
    rw [← Option.or_assoc, ← unregistered?_eq]
    cases d.unregistered? <;> simp
  rw [renderByLookUp, lookUpBlock_eq, mapM_members, lookUpTopLevel_eq, lookUpClicks_eq]
  simp only [failAt_map, failAt_bind, hfirst]
  rfl

theorem unregistered?_eq_some_iff {id : Id} : d.unregistered? = some id ↔
    ∃ before after, d.placedIds = before ++ id :: after ∧ id ∉ d.nodes.keys ∧
      ∀ x ∈ before, x ∈ d.nodes.keys := by
  have hcontains : ∀ x, (!d.nodes.contains x) = true ↔ x ∉ d.nodes.keys := by
    intro x
    rw [← OrderedMap.contains_iff, Bool.not_eq_true', Bool.not_eq_true]
  rw [unregistered?, List.find?_eq_some_iff_append, hcontains]
  simp only [Bool.not_not, OrderedMap.contains_iff]
  constructor
  · rintro ⟨hid, before, after, hsplit, hbefore⟩
    exact ⟨before, after, hsplit, hid, hbefore⟩
  · rintro ⟨before, after, hsplit, hid, hbefore⟩
    exact ⟨hid, before, after, hsplit, hbefore⟩

theorem unregistered?_eq_none_iff :
    d.unregistered? = none ↔ ∀ id ∈ d.placedIds, id ∈ d.nodes.keys := by
  rw [unregistered?, List.find?_eq_none]
  simp only [Bool.not_eq_true, Bool.not_eq_false', OrderedMap.contains_iff]

theorem render_eq_error_iff {id : Id} : d.render v style = .error ⟨id⟩ ↔
    ∃ before after, d.placedIds = before ++ id :: after ∧ id ∉ d.nodes.keys ∧
      ∀ x ∈ before, x ∈ d.nodes.keys := by
  rw [render_eq_failAt, failAt_eq_error_iff, unregistered?_eq_some_iff]

theorem exists_render_ok_iff :
    (∃ text, d.render v style = .ok text) ↔ ∀ id ∈ d.placedIds, id ∈ d.nodes.keys := by
  rw [← unregistered?_eq_none_iff]
  simp only [render_eq_failAt, failAt_eq_ok_iff, exists_and_left, exists_eq', and_true]

theorem exists_render_error_iff :
    (∃ e, d.render v style = .error e) ↔ ∃ id ∈ d.placedIds, id ∉ d.nodes.keys := by
  constructor
  · rintro ⟨⟨id⟩, he⟩
    obtain ⟨before, after, hsplit, hid, -⟩ := (d.render_eq_error_iff v style).1 he
    exact ⟨id, hsplit ▸ List.mem_append_right before List.mem_cons_self, hid⟩
  · rintro ⟨id, hplaced, hid⟩
    cases hrender : d.render v style with
    | error e => exact ⟨e, rfl⟩
    | ok text => exact absurd ((d.exists_render_ok_iff v style).1 ⟨text, hrender⟩ id hplaced) hid

/-- A drawing fails for the first placed id that no node has, and succeeds if there is none. What is
hidden, the style, the edges and the class lines have no part in it. -/
theorem render_fails_iff_missing :
    d.renderByLookUp v style = d.render v style ∧
      (∀ id, d.render v style = .error ⟨id⟩ ↔ ∃ before after,
        d.subgraphs.flatMap Subgraph.members ++ d.topLevel = before ++ id :: after ∧
          id ∉ d.nodes.keys ∧ ∀ x ∈ before, x ∈ d.nodes.keys) ∧
      ((∃ e, d.render v style = .error e) ↔
        ∃ id ∈ d.subgraphs.flatMap Subgraph.members ++ d.topLevel, id ∉ d.nodes.keys) ∧
      ((∃ text, d.render v style = .ok text) ↔
        ∀ id ∈ d.subgraphs.flatMap Subgraph.members ++ d.topLevel, id ∈ d.nodes.keys) ∧
      ∀ (edges : List Edge) (memberships : List ClassMembership) (w : Visibility) (other : Style)
        (e : MissingNode), { d with edges, memberships }.render w other = .error e ↔
          d.render v style = .error e := by
  refine ⟨d.renderByLookUp_eq v style, fun _ ↦ d.render_eq_error_iff v style,
    d.exists_render_error_iff v style, d.exists_render_ok_iff v style, ?_⟩
  rintro edges memberships w other ⟨id⟩
  rw [render_eq_error_iff, render_eq_error_iff]
  rfl

/-- The hidden `Q`, which no node has, comes before the visible `Z`. -/
example :
    ({ subgraphs := [⟨['S'], "subgraph S".toList, [['A'], ['Q']], none⟩]
       topLevel := [['Z']]
       nodes := .ofList [(['A'], { id := ['A'], label := ['a'] })] } : Diagram).render
      ⟨.ofKeys [['Q']] false⟩ {} = .error ⟨['Q']⟩ := rfl

end

end Diagram

end FlowchartView

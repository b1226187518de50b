import FlowchartView.Command.FileTree
import FlowchartView.Drawing.Filter
import FlowchartView.Proofs.Command.Source
import FlowchartView.Proofs.Drawing.Composition
import FlowchartView.Proofs.Drawing.Mention
import FlowchartView.Proofs.Reachability.Edges
import FlowchartView.Proofs.Session.Run
import FlowchartView.Proofs.Visibility.History

namespace FlowchartView

open Text

namespace Visibility

variable {r : Reachability} {c : Change} {changes : List Change} {b : Bool}

theorem applyAll_append (v : Visibility) (r : Reachability) (changes more : List Change) :
    v.applyAll r (changes ++ more) = (v.applyAll r changes).applyAll r more := List.foldl_append

theorem isVisible_apply (hc : c.IsLocal) (v : Visibility) (id : Id) :
    (v.apply r c).isVisible id = if id ∈ c.targets r then c.flag else v.isVisible id := by
  rw [isVisible, find?_apply, touches_of_isLocal hc]
  split <;> rfl

/-- Local commands that write one flag may come in any order. -/
theorem isVisible_applyAll (h : ∀ c ∈ changes, c.IsLocal ∧ c.flag = b) (v : Visibility) (id : Id) :
    (v.applyAll r changes).isVisible id =
      if id ∈ changes.flatMap (·.targets r) then b else v.isVisible id := by
  induction changes generalizing v with
  | nil => rfl
  | cons c changes ih =>
    obtain ⟨⟨hlocal, hflag⟩, hchanges⟩ := List.forall_mem_cons.1 h
    rw [applyAll, List.foldl_cons, ← applyAll, ih hchanges, isVisible_apply hlocal, hflag,
      List.flatMap_cons]
    by_cases hmem : id ∈ changes.flatMap (·.targets r)
    · simp [hmem]
    · simp [hmem]

end Visibility

namespace Command

theorem run_readSource_standardInput (printed : Text → Text) (t : FileTree) :
    (readSource (FileTree.access printed) none).run t = (decodeSource t.standardInput, t) := rfl

namespace Arguments

/-- What the options say of an id, known to the diagram or not. -/
def Shows (a : Arguments) (d : Diagram) (id : Id) : Prop :=
  id ∉ a.hidden ∧ (id ∈ d.allIds → a.hideAll = false ∨ id ∈ a.shown ∨
    (∃ x ∈ a.descendants, LeadsTo d.edges x id) ∨ ∃ x ∈ a.ancestors, LeadsTo d.edges id x)

def showing (a : Arguments) : List Visibility.Change :=
  a.shown.map (.set · true) ++ a.descendants.map .showDescendants ++
    a.ancestors.map .showAncestors

theorem changes_eq (a : Arguments) : a.changes =
    (if a.hideAll then [.hideAll] else []) ++ a.showing ++ a.hidden.map (.set · false) := by
  simp [changes, showing]

theorem isLocal_of_mem_showing (a : Arguments) :
    ∀ c ∈ a.showing, c.IsLocal ∧ c.flag = true := by
  intro c hc
  simp only [showing, List.mem_append, List.mem_map] at hc
  obtain (⟨x, -, rfl⟩ | ⟨x, -, rfl⟩) | ⟨x, -, rfl⟩ := hc
  all_goals exact ⟨⟨nofun, nofun⟩, rfl⟩

theorem isLocal_of_mem_hiding (a : Arguments) :
    ∀ c ∈ a.hidden.map (Visibility.Change.set · false), c.IsLocal ∧ c.flag = false := by
  intro c hc
  obtain ⟨x, -, rfl⟩ := List.mem_map.1 hc
  exact ⟨⟨nofun, nofun⟩, rfl⟩

theorem mem_targets_showing {a : Arguments} {d : Diagram} {id : Id} :
    id ∈ a.showing.flatMap (·.targets (.ofDiagram d)) ↔ id ∈ a.shown ∨
      (∃ x ∈ a.descendants, LeadsTo d.edges x id) ∨ ∃ x ∈ a.ancestors, LeadsTo d.edges id x := by
  have hdescendants : ∀ x, id ∈ (Reachability.ofDiagram d).descendants x ↔ LeadsTo d.edges x id :=
    fun _ ↦ Reachability.mem_descendants
  have hancestors : ∀ x, id ∈ (Reachability.ofDiagram d).ancestors x ↔ LeadsTo d.edges id x :=
    fun _ ↦ Reachability.mem_ancestors
  simp only [showing, List.flatMap_append, List.flatMap_map, Visibility.Change.targets,
    List.mem_append, List.mem_flatMap, hdescendants, hancestors, List.mem_singleton, or_assoc]
  simp

theorem mem_targets_hiding {a : Arguments} {r : Reachability} {id : Id} :
    id ∈ (a.hidden.map (Visibility.Change.set · false)).flatMap (·.targets r) ↔ id ∈ a.hidden := by
  simp [List.flatMap_map, Visibility.Change.targets]

section

variable (a : Arguments) (source : Text)

theorem session_eq : a.session source =
    { Session.start (.ofText source) a.style with
      visibility := (Visibility.ofDiagram (.ofText source)).applyAll
        (.ofDiagram (.ofText source)) a.changes } :=
  Session.foldl_change _ _

theorem isVisible_session (id : Id) :
    (a.session source).visibility.isVisible id ↔ a.Shows (.ofText source) id := by
  have hstart : ∀ r, ((Visibility.ofDiagram (.ofText source)).applyAll r
      (if a.hideAll then [.hideAll] else [])).isVisible id =
        (!a.hideAll || !decide (id ∈ (Diagram.ofText source).allIds)) := by
    intro r
    cases a.hideAll with
    | false => exact Visibility.isVisible_ofIds _ id
    | true =>
      have hhidden := Visibility.isVisible_hideAll (.ofDiagram (.ofText source)) id
      rw [Bool.eq_iff_iff.2 (Visibility.holds_ofDiagram.trans decide_eq_true_iff.symm)] at hhidden
      exact hhidden
  rw [session_eq, changes_eq, Visibility.applyAll_append, Visibility.applyAll_append,
    Visibility.isVisible_applyAll a.isLocal_of_mem_hiding,
    Visibility.isVisible_applyAll a.isLocal_of_mem_showing, hstart, Shows, ← mem_targets_showing]
  simp only [mem_targets_hiding]
  by_cases hhidden : id ∈ a.hidden
  · simp [hhidden]
  · by_cases hshown : id ∈ a.showing.flatMap (·.targets (.ofDiagram (.ofText source)))
    · simp [hhidden, hshown]
    · cases a.hideAll <;> simp [hhidden, hshown]

theorem result_eq : a.result source =
    if a.list then joinLines ((a.session source).sidebar.map SidebarRow.line)
    else (Diagram.ofText source).draw (a.session source).visibility a.style := by
  rw [result, Session.drawing, session_eq]
  rfl

theorem sidebar_session : (a.session source).sidebar = (Diagram.ofText source).placedNodes.map
    fun n ↦ ⟨n.id, n.plainLabel, (a.session source).visibility.isVisible n.id⟩ := by
  rw [Session.sidebar, session_eq]
  rfl

end

theorem render_eq_result {a : Arguments} {source : Text} {v : Visibility}
    (hv : ∀ id, v.isVisible id ↔ a.Shows (.ofText source) id) (hlist : a.list = false) :
    (Diagram.ofText source).render v a.style = .ok (a.result source) := by
  have hs := Diagram.isSound_ofText source
  have hvisible : ∀ id, v.isVisible id = (a.session source).visibility.isVisible id := by
    intro id
    rw [Bool.eq_iff_iff, hv, isVisible_session]
  rw [hs.render_eq, Arguments.result_eq, hlist,
    Diagram.draw_congr (fun id _ ↦ hvisible id) hs.keyed]
  rfl

/-- `b` gives the values of `a`, in another order or more than once. -/
structure IsRephrasing (b a : Arguments) : Prop where
  hideAll : b.hideAll = a.hideAll
  shown : ∀ id, id ∈ b.shown ↔ id ∈ a.shown
  descendants : ∀ id, id ∈ b.descendants ↔ id ∈ a.descendants
  ancestors : ∀ id, id ∈ b.ancestors ↔ id ∈ a.ancestors
  hidden : ∀ id, id ∈ b.hidden ↔ id ∈ a.hidden
  list : b.list = a.list
  style : b.style = a.style

theorem IsRephrasing.shows_iff {a b : Arguments} (h : b.IsRephrasing a) (d : Diagram) (id : Id) :
    b.Shows d id ↔ a.Shows d id := by
  simp only [Shows, h.hideAll, h.shown, h.descendants, h.ancestors, h.hidden]

theorem IsRephrasing.result_eq {a b : Arguments} (h : b.IsRephrasing a) (source : Text) :
    b.result source = a.result source := by
  have hvisible : ∀ id, (b.session source).visibility.isVisible id =
      (a.session source).visibility.isVisible id := by
    intro id
    rw [Bool.eq_iff_iff, isVisible_session, isVisible_session, h.shows_iff]
  rw [Arguments.result_eq, Arguments.result_eq, h.list, h.style, sidebar_session, sidebar_session,
    Diagram.draw_congr (fun id _ ↦ hvisible id) (Diagram.isSound_ofText source).keyed]
  simp only [hvisible]

structure OnlyHides (a : Arguments) : Prop where
  hideAll : a.hideAll = false
  shown : a.shown = []
  descendants : a.descendants = []
  ancestors : a.ancestors = []

theorem OnlyHides.visibility_session {a : Arguments} (h : a.OnlyHides) (source : Text) :
    (a.session source).visibility = (Diagram.ofText source).hiding a.hidden := by
  rw [session_eq, changes, h.hideAll, h.shown, h.descendants, h.ancestors, Visibility.applyAll,
    Diagram.hiding, Visibility.setAll, List.map_nil, List.map_nil, List.map_nil, if_neg (by decide),
    List.nil_append, List.nil_append, List.nil_append, List.nil_append, List.foldl_map]
  rfl

theorem check_style {a : Arguments} (h : isIdentifier a.callback) :
    a.style.check = .ok a.style := by
  have hdirective : (trim a.style.defaultDirective).isEmpty = false := rfl
  have hcallback : isIdentifier a.style.clickCallback = true := h
  rw [Style.check, Style.fault?, hdirective, hcallback]
  rfl

section

variable {a : Arguments} {source : Text} {printed : Text → Text} {t : FileTree}
  {input? : Option Text}
  (hread : (readSource (FileTree.access printed) input?).run t = (.ok source, t))
  (hcallback : isIdentifier a.callback)
include hread hcallback

theorem run_view : (view (FileTree.access printed) a input?).run t =
    (deliver (FileTree.access printed) a source).run t := by
  simp only [view, StateT.run_bind, hread, check_style hcallback]
  rfl

theorem run_view_of_no_output (houtput : a.output = []) :
    (view (FileTree.access printed) a input?).run t = ({
      output := printed (a.result source)
      errors := (FileTree.access printed).errors a source }, t) := by
  rw [run_view hread hcallback, deliver, if_pos (by rw [houtput]; rfl)]
  rfl

theorem run_view_of_output (houtput : a.output ≠ []) {t' : FileTree}
    (hwrite : t.write a.output (String.ofList (a.result source)).toUTF8 = .ok t') :
    (view (FileTree.access printed) a input?).run t =
      ({ errors := (FileTree.access printed).errors a source }, t') := by
  have hfile : ((FileTree.access printed).write a.output (a.result source)).run t =
      (.ok (), t') := by
    simp only [FileTree.access, StateT.run_bind, StateT.run_get, pure_bind, hwrite]
    rfl
  rw [run_view hread hcallback, deliver, if_neg (by simpa using houtput)]
  simp only [StateT.run_bind, hfile]
  rfl

end

/-- Printing leaves a text alone in which no control sequence can begin. -/
def PrintsPlainly (printed : Text → Text) : Prop := ∀ s : Text, '\x1b' ∉ s → printed s = s

theorem printsPlainly_stripControls : PrintsPlainly stripControls := by
  intro s hs
  induction s with
  | nil => rw [stripControls]
  | cons c s ih =>
    rw [List.mem_cons, not_or] at hs
    have hnone : afterControl? (c :: s) = none := by
      rw [afterControl?]
      rintro t ⟨rfl, -⟩
      exact hs.1 rfl
    rw [stripControls]
    split
    · next r hr => simp [hnone] at hr
    · rw [ih hs.2]

/-- What a command does with a source: it draws, or lists, the nodes that its options show. A file
receives the result as it is. Where no file is named the result is printed, and comes out as it is
unless an escape character stands in it. -/
structure Filters (a : Arguments) (source : Text) : Prop where
  visible : ∃ v : Visibility, ∀ id, v.isVisible id ↔ a.Shows (.ofText source) id
  drawn : ∀ v : Visibility, (∀ id, v.isVisible id ↔ a.Shows (.ofText source) id) →
    a.list = false → (Diagram.ofText source).render v a.style = .ok (a.result source)
  listed : a.list → ∃ rows : List SidebarRow,
    rows.map SidebarRow.id = (Diagram.ofText source).placedNodes.map Node.id ∧
    rows.map SidebarRow.label = (Diagram.ofText source).placedNodes.map Node.plainLabel ∧
    (∀ row ∈ rows, row.visible ↔ a.Shows (.ofText source) row.id) ∧
    a.result source = joinLines (rows.map SidebarRow.line)
  rephrased : ∀ b : Arguments, b.IsRephrasing a → b.result source = a.result source
  hides : a.OnlyHides → a.list = false → a.result source = filterText source a.hidden a.style
  printed : ∀ (printed : Text → Text) (t : FileTree) (input? : Option Text),
    (readSource (FileTree.access printed) input?).run t = (.ok source, t) →
    isIdentifier a.callback → a.output = [] → (view (FileTree.access printed) a input?).run t = ({
      output := printed (a.result source)
      errors := (FileTree.access printed).errors a source }, t)
  printed_plainly : ∀ (printed : Text → Text) (t : FileTree) (input? : Option Text),
    PrintsPlainly printed → '\x1b' ∉ a.result source →
    (readSource (FileTree.access printed) input?).run t = (.ok source, t) →
    isIdentifier a.callback → a.output = [] →
    ((view (FileTree.access printed) a input?).run t).1.output = a.result source
  written : ∀ (printed : Text → Text) (t t' : FileTree) (input? : Option Text),
    (readSource (FileTree.access printed) input?).run t = (.ok source, t) →
    isIdentifier a.callback → a.output ≠ [] →
    t.write a.output (String.ofList (a.result source)).toUTF8 = .ok t' →
    (view (FileTree.access printed) a input?).run t =
      ({ errors := (FileTree.access printed).errors a source }, t')

theorem filters (a : Arguments) (source : Text) : a.Filters source where
  visible := ⟨_, isVisible_session a source⟩
  drawn _ hv hlist := render_eq_result hv hlist
  listed hlist := by
    refine ⟨(a.session source).sidebar, ?_, ?_, ?_, ?_⟩
    · rw [sidebar_session, List.map_map]
      rfl
    · rw [sidebar_session, List.map_map]
      rfl
    · intro row hrow
      rw [sidebar_session] at hrow
      obtain ⟨n, -, rfl⟩ := List.mem_map.1 hrow
      exact isVisible_session a source n.id
    · rw [Arguments.result_eq, if_pos hlist]
  rephrased _ hb := hb.result_eq source
  hides hhides hlist := by
    rw [Arguments.result_eq, hlist, hhides.visibility_session]
    rfl
  printed _ _ _ hread hcallback houtput := run_view_of_no_output hread hcallback houtput
  printed_plainly _ _ _ hplainly hescape hread hcallback houtput := by
    rw [run_view_of_no_output hread hcallback houtput]
    exact hplainly _ hescape
  written _ _ _ _ hread hcallback houtput hwrite :=
    run_view_of_output hread hcallback houtput hwrite

/-- The label of `A` holds a control sequence. A file gets it, and what is printed lacks it. -/
theorem filters_control_sequence :
    let source := "graph\nA[\x1b[mx]".toList
    let drawing := "graph\n\n    A[\x1b[mx]\n\n    click A onNodeClick\n".toList
    let t : FileTree := { standardInput := "graph\nA[\x1b[mx]".toUTF8 }
    let toFile : Arguments := { output := ['o'] }
    PrintsPlainly stripControls ∧ (readSource FileTree.access none).run t = (.ok source, t) ∧
      (∃ v : Visibility, (∀ id, v.isVisible id ↔ toFile.Shows (.ofText source) id) ∧
        (Diagram.ofText source).render v {} = .ok drawing) ∧
      ((view FileTree.access toFile none).run t).2.read ['o'] =
        .ok (String.ofList drawing).toUTF8 ∧
      ((view FileTree.access {} none).run t).1.output =
        "graph\n\n    A[x]\n\n    click A onNodeClick\n".toList := by
  intro source drawing t toFile
  have hread : (readSource FileTree.access none).run t = (.ok source, t) := by
    rw [run_readSource_standardInput, decodeSource_toUTF8]
    rfl
  have hresult : toFile.result source = drawing := by decide +kernel
  have hwrite : t.write ['o'] (String.ofList drawing).toUTF8 = .ok { t with
      entries := t.entries.insert [['o']] (.file (String.ofList drawing).toUTF8) } := rfl
  obtain ⟨v, hv⟩ := (filters toFile source).visible
  have hdrawn := (filters toFile source).drawn v hv rfl
  have hwritten := (filters toFile source).written stripControls t _ none hread (by decide)
    (by decide) (by rw [hresult]; exact hwrite)
  have hprinted := (filters {} source).printed stripControls t none hread (by decide) rfl
  rw [hresult] at hdrawn
  refine ⟨printsPlainly_stripControls, hread, ⟨v, hv, hdrawn⟩, ?_, ?_⟩
  · rw [hwritten]
    rfl
  · rw [hprinted]
    decide +kernel

end Arguments

end Command

end FlowchartView

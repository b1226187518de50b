import FlowchartView.Distinct
import FlowchartView.Statement.Basic

namespace FlowchartView

namespace Statement

def header? : Statement → Option Text
  | subgraph header _ => some header
  | _ => none

def isBoundary : Statement → Bool
  | subgraph _ _ | endSubgraph => true
  | _ => false

def declares (id : Id) : Statement → Bool
  | node n => n.id = id
  | _ => false

end Statement

def headers (statements : List Statement) : List Text := statements.filterMap Statement.header?

def declaredIds (statements : List Statement) : List Id :=
  (statements.filterMap Statement.node?).map NodeLine.id

/-- Which subgraph is open behind the statements, counted in order of opening: the last one, unless
an end follows its header. -/
def openPlace? (statements : List Statement) : Option Nat :=
  match statements.reverse.dropWhile (!·.isBoundary) with
  | .subgraph _ _ :: earlier => some (headers earlier.reverse).length
  | _ => none

/-- Which subgraph is open where the id is declared for the first time. -/
def home? (statements : List Statement) (id : Id) : Option Nat :=
  openPlace? (statements.takeWhile (!·.declares id))

/-- The declared ids that have their home in the place, in order of first declaration. -/
def idsAt (statements : List Statement) (place : Option Nat) : List Id :=
  (distinct (declaredIds statements)).filter fun id ↦ home? statements id = place

section

variable {statements earlier later : List Statement} {id : Id} {n : NodeLine}

theorem headers_append (statements more : List Statement) :
    headers (statements ++ more) = headers statements ++ headers more := List.filterMap_append

theorem declaredIds_append (statements more : List Statement) :
    declaredIds (statements ++ more) = declaredIds statements ++ declaredIds more := by
  simp [declaredIds]

theorem mem_declaredIds : id ∈ declaredIds statements ↔ ∃ n, .node n ∈ statements ∧ n.id = id := by
  constructor
  · intro h
    obtain ⟨n, hn, rfl⟩ := List.mem_map.1 h
    obtain ⟨s, hs, hsn⟩ := List.mem_filterMap.1 hn
    cases s <;> cases hsn
    exact ⟨n, hs, rfl⟩
  · rintro ⟨n, hn, rfl⟩
    exact List.mem_map_of_mem (List.mem_filterMap.2 ⟨_, hn, rfl⟩)

theorem openPlace?_append_singleton (statements : List Statement) (s : Statement) :
    openPlace? (statements ++ [s]) =
      if s.isBoundary then s.header?.map fun _ ↦ (headers statements).length
      else openPlace? statements := by
  rw [openPlace?, List.reverse_append, List.reverse_singleton, List.singleton_append]
  cases s <;> simp [Statement.isBoundary, Statement.header?, openPlace?]

theorem openPlace?_eq_some_iff {k : Nat} : openPlace? statements = some k ↔
    ∃ earlier header title later, statements = earlier ++ .subgraph header title :: later ∧
      (∀ s ∈ later, s.isBoundary = false) ∧ (headers earlier).length = k := by
  constructor
  · intro h
    rw [openPlace?] at h
    split at h
    · next header title before hdrop =>
      have hsplit := List.takeWhile_append_dropWhile (p := (!·.isBoundary))
        (l := statements.reverse)
      rw [hdrop, eq_comm, List.reverse_eq_iff, List.reverse_append, List.reverse_cons,
        List.append_assoc] at hsplit
      refine ⟨before.reverse, header, title, _, hsplit, fun s hs ↦ ?_, Option.some.inj h⟩
      have hs := List.all_eq_true.1 List.all_takeWhile s (List.mem_reverse.1 hs)
      simpa using hs
    · cases h
  · rintro ⟨earlier, header, title, later, rfl, hlater, rfl⟩
    have hskip : ∀ s ∈ later.reverse, (!s.isBoundary) = true := fun s hs ↦ by
      rw [hlater s (List.mem_reverse.1 hs)]
      rfl
    rw [openPlace?, List.reverse_append, List.reverse_cons, List.append_assoc,
      List.dropWhile_append_of_pos hskip]
    simp [Statement.isBoundary]

theorem exists_first_declaration (h : id ∈ declaredIds statements) : ∃ earlier n later,
    statements = earlier ++ .node n :: later ∧ n.id = id ∧ id ∉ declaredIds earlier := by
  induction statements with
  | nil => cases h
  | cons s statements ih =>
    by_cases hs : ∃ n, s = .node n ∧ n.id = id
    · obtain ⟨n, rfl, hn⟩ := hs
      exact ⟨[], n, statements, rfl, hn, by simp [declaredIds]⟩
    · have hnone : id ∉ declaredIds [s] := fun hmem ↦ by
        obtain ⟨n, hn, hid⟩ := mem_declaredIds.1 hmem
        exact hs ⟨n, (List.mem_singleton.1 hn).symm, hid⟩
      have hrest : id ∈ declaredIds [s] ++ declaredIds statements := declaredIds_append [s] _ ▸ h
      have hmem : id ∈ declaredIds statements := (List.mem_append.1 hrest).resolve_left hnone
      obtain ⟨earlier, n, later, rfl, hn, hfirst⟩ := ih hmem
      refine ⟨s :: earlier, n, later, rfl, hn, ?_⟩
      have happend := declaredIds_append [s] earlier
      rw [List.singleton_append] at happend
      rw [happend, List.mem_append, not_or]
      exact ⟨hnone, hfirst⟩

theorem home?_eq (h : n.id ∉ declaredIds earlier) :
    home? (earlier ++ .node n :: later) n.id = openPlace? earlier := by
  have hearlier : ∀ s ∈ earlier, (!s.declares n.id) = true := by
    intro s hs
    cases s with
    | node m =>
      have hne : m.id ≠ n.id := fun hm ↦ h (mem_declaredIds.2 ⟨m, hs, hm⟩)
      simp [Statement.declares, hne]
    | _ => rfl
  rw [home?, List.takeWhile_append_of_pos hearlier,
    List.takeWhile_cons_of_neg (by simp [Statement.declares]), List.append_nil]

theorem home?_append (h : id ∈ declaredIds statements) (more : List Statement) :
    home? (statements ++ more) id = home? statements id := by
  obtain ⟨earlier, n, later, rfl, rfl, hfirst⟩ := exists_first_declaration h
  rw [List.append_assoc, List.cons_append, home?_eq hfirst, home?_eq hfirst]

theorem openPlace?_lt {k : Nat} (h : openPlace? statements = some k) :
    k < (headers statements).length := by
  obtain ⟨earlier, header, title, later, rfl, -, rfl⟩ := openPlace?_eq_some_iff.1 h
  simp [headers, Statement.header?]

theorem idsAt_eq_nil {k : Nat} (h : (headers statements).length ≤ k) :
    idsAt statements (some k) = [] := by
  rw [idsAt, List.filter_eq_nil_iff]
  intro id _ hhome
  have hk := openPlace?_lt (of_decide_eq_true hhome)
  have hprefix : headers (statements.takeWhile (!·.declares id)) <+: headers statements :=
    (List.takeWhile_prefix _).filterMap _
  have hlength := hprefix.length_le
  omega

theorem mem_idsAt {place : Option Nat} (h : statements = earlier ++ .node n :: later)
    (hfirst : n.id ∉ declaredIds earlier) (hplace : openPlace? earlier = place) :
    n.id ∈ idsAt statements place := by
  have hmem : n.id ∈ declaredIds statements := mem_declaredIds.2 ⟨n, by simp [h], rfl⟩
  refine List.mem_filter.2 ⟨mem_distinct.2 hmem, ?_⟩
  rw [h, home?_eq hfirst, hplace]
  exact decide_eq_true rfl

theorem declared_of_node?_eq_none {s : Statement} (h : s.node? = none) :
    ∀ n, s = .node n → n.id ∈ declaredIds statements := by
  rintro n rfl
  cases h

theorem distinct_declaredIds_append {s : Statement}
    (h : ∀ n, s = .node n → n.id ∈ declaredIds statements) :
    distinct (declaredIds (statements ++ [s])) = distinct (declaredIds statements) := by
  rw [declaredIds_append, distinct_append, List.append_right_eq_self, List.filter_eq_nil_iff]
  intro id hid
  obtain ⟨n, hn, rfl⟩ := mem_declaredIds.1 (mem_distinct.1 hid)
  simpa using h n (List.mem_singleton.1 hn).symm

theorem distinct_declaredIds_append_new (h : n.id ∉ declaredIds statements) :
    distinct (declaredIds (statements ++ [.node n])) =
      distinct (declaredIds statements) ++ [n.id] := by
  have hdistinct : distinct (declaredIds [.node n]) = [n.id] := rfl
  rw [declaredIds_append, distinct_append, hdistinct, List.filter_cons_of_pos (by simpa using h)]
  rfl

theorem idsAt_append_of_declared {s : Statement}
    (h : ∀ n, s = .node n → n.id ∈ declaredIds statements) (place : Option Nat) :
    idsAt (statements ++ [s]) place = idsAt statements place := by
  rw [idsAt, idsAt, distinct_declaredIds_append h]
  refine List.filter_congr fun id hid ↦ ?_
  rw [home?_append (mem_distinct.1 hid)]

theorem idsAt_append_of_new (h : n.id ∉ declaredIds statements) (place : Option Nat) :
    idsAt (statements ++ [.node n]) place =
      idsAt statements place ++ if openPlace? statements = place then [n.id] else [] := by
  have hnew : ([n.id].filter fun id ↦ home? (statements ++ [.node n]) id = place) =
      if openPlace? statements = place then [n.id] else [] := by
    rw [List.filter_cons, home?_eq h]
    simp
  rw [idsAt, idsAt, distinct_declaredIds_append_new h, List.filter_append, hnew]
  refine congrArg (· ++ _) (List.filter_congr fun id hid ↦ ?_)
  rw [home?_append (mem_distinct.1 hid)]

end

end FlowchartView

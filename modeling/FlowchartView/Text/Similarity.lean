import FlowchartView.Text.Blank

namespace FlowchartView.Text

def commonStart : Text → Text → Nat
  | c :: s, d :: t => if c = d then commonStart s t + 1 else 0
  | _, _ => 0

/-- Equal stretches of two texts. -/
structure Block where
  left : Nat
  right : Nat
  length : Nat
deriving DecidableEq, Repr

/-- The longest block at each pair of places, earlier places in the left text first. -/
def blocks (s t : Text) : List Block :=
  (List.range s.length).flatMap fun i ↦
    (List.range t.length).map fun j ↦ ⟨i, j, commonStart (s.drop i) (t.drop j)⟩

def firstLongest? : List Block → Option Block
  | [] => none
  | b :: bs =>
    match firstLongest? bs with
    | none => some b
    | some c => if b.length < c.length then some c else some b

theorem mem_of_firstLongest? {bs : List Block} {b : Block} (h : firstLongest? bs = some b) :
    b ∈ bs := by
  induction bs generalizing b with
  | nil => simp [firstLongest?] at h
  | cons a bs ih =>
    rw [firstLongest?] at h
    cases hc : firstLongest? bs with
    | none => simp_all
    | some c =>
      rw [hc] at h
      by_cases hlt : a.length < c.length
      · obtain rfl : c = b := by simpa [hlt] using h
        exact List.mem_cons_of_mem a (ih hc)
      · obtain rfl : a = b := by simpa [hlt] using h
        exact List.mem_cons_self

def longestBlock? (s t : Text) : Option Block :=
  firstLongest? ((blocks s t).filter fun b ↦ decide (0 < b.length))

theorem bounds_of_longestBlock? {s t : Text} {b : Block} (h : longestBlock? s t = some b) :
    b.left < s.length ∧ 0 < b.length := by
  obtain ⟨hb, hpos⟩ := List.mem_filter.1 (mem_of_firstLongest? h)
  simp only [blocks, List.mem_flatMap, List.mem_map, List.mem_range] at hb
  obtain ⟨i, hi, j, _, rfl⟩ := hb
  exact ⟨hi, of_decide_eq_true hpos⟩

/-- Two texts match in their longest common block, the earliest if there are several, and then in
what stands before it in both and in what stands after it in both. -/
def matching (s t : Text) : Nat :=
  match _h : longestBlock? s t with
  | none => 0
  | some b =>
    matching (s.take b.left) (t.take b.right) + b.length +
      matching (s.drop (b.left + b.length)) (t.drop (b.right + b.length))
termination_by s.length
decreasing_by
  all_goals
    have hb := bounds_of_longestBlock? _h
    simp only [List.length_take, List.length_drop]
    omega

def likeness (s t : Text) : Nat × Nat := (2 * matching s t, s.length + t.length)

/-- At least three characters in five match. -/
def isAlike (s t : Text) : Bool := decide (3 * (likeness s t).2 ≤ 5 * (likeness s t).1)

def inOrder : Text → Text → Bool
  | [], _ => true
  | _ :: _, [] => false
  | c :: s, d :: t => decide (c.toNat < d.toNat) || (c == d && inOrder s t)

/-- `a` is more like `t` than `b` is; of two that are equally alike, the later in the order of texts
counts as more like. -/
def isCloserTo (t a b : Text) : Bool :=
  let x := (likeness a t).1 * (likeness b t).2
  let y := (likeness b t).1 * (likeness a t).2
  decide (y < x) || (decide (x = y) && inOrder b a)

def mostAlike (n : Nat) (t : Text) (candidates : List Text) : List Text :=
  (((candidates.filter (isAlike · t)).mergeSort (isCloserTo t)).take n).mergeSort inOrder

end FlowchartView.Text

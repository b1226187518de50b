import FlowchartView.Text.Blank

namespace FlowchartView.Text

def isControlParameter (c : Char) : Bool := decide (0x30 ≤ c.toNat) && decide (c.toNat ≤ 0x3F)

def isControlIntermediate (c : Char) : Bool := decide (0x20 ≤ c.toNat) && decide (c.toNat ≤ 0x2F)

def isControlFinal (c : Char) : Bool := decide (0x40 ≤ c.toNat) && decide (c.toNat ≤ 0x7E)

/-- An escape character and a bracket, then parameter characters, then intermediate characters, then
one final character. -/
def afterControl? : Text → Option Text
  | '\x1b' :: '[' :: s =>
    match (s.dropWhile isControlParameter).dropWhile isControlIntermediate with
    | c :: r => if isControlFinal c then some r else none
    | [] => none
  | _ => none

theorem length_lt_of_afterControl? {s r : Text} (h : afterControl? s = some r) :
    r.length < s.length := by
  unfold afterControl? at h
  split at h
  · next t =>
    have hle := ((List.dropWhile_sublist isControlIntermediate).trans
      (List.dropWhile_sublist isControlParameter (l := t))).length_le
    split at h
    · next c u hu =>
      split at h
      · rw [hu] at hle
        simp only [Option.some.injEq] at h
        subst h
        simp only [List.length_cons] at hle ⊢
        omega
      · simp at h
    · simp at h
  · simp at h

/-- The text without its control sequences. What is left over when one is taken out is not read as
part of another. -/
def stripControls : Text → Text
  | [] => []
  | c :: s =>
    match _h : afterControl? (c :: s) with
    | some r => stripControls r
    | none => c :: stripControls s
termination_by s => s.length
decreasing_by
  · exact length_lt_of_afterControl? _h
  · simp

end FlowchartView.Text

import FlowchartView.Text.Piece

namespace FlowchartView

structure Line where
  number : Nat
  text : Text
deriving DecidableEq, Repr

def Line.numberFrom (n : Nat) : List Text → List Line
  | [] => []
  | s :: r => ⟨n, s⟩ :: numberFrom (n + 1) r

namespace Text

def isLineBreak (c : Char) : Bool :=
  let n := c.toNat
  (0x0A ≤ n && n ≤ 0x0D) || (0x1C ≤ n && n ≤ 0x1E) || n == 0x85 || n == 0x2028 || n == 0x2029

theorem isBlank_of_isLineBreak {c : Char} (h : isLineBreak c) : isBlank c := by
  simp only [isLineBreak, isBlank, Bool.or_eq_true, Bool.and_eq_true, decide_eq_true_eq,
    beq_iff_eq] at h ⊢
  omega

/-- Cuts a text after its line breaks and leaves them out. A carriage return and the line feed
after it are one break, and a break at the end opens no further line. -/
def splitLines : Text → List Text
  | [] => []
  | '\r' :: '\n' :: s => [] :: splitLines s
  | c :: s => if isLineBreak c then [] :: splitLines s else consFirst c (splitLines s)

def joinLines (lines : List Text) : Text := lines.flatMap (· ++ ['\n'])

/-- Writes each carriage return, and the line feed after it if there is one, as one line feed. -/
def toLineFeeds : Text → Text
  | [] => []
  | '\r' :: '\n' :: s => '\n' :: toLineFeeds s
  | c :: s => (if c = '\r' then '\n' else c) :: toLineFeeds s

theorem isLineBreak_of_mem_splitLines (t : Text) :
    ∀ s ∈ splitLines t, ∀ c ∈ s, isLineBreak c = false := by
  fun_induction splitLines t with
  | case1 => simp
  | case2 s ih => simpa using ih
  | case3 c s _ h ih => simpa using ih
  | case4 c s _ h ih =>
    intro r hr d hd
    rcases mem_consFirst hr with rfl | hr | ⟨u, hu, rfl⟩
    · simp_all
    · exact ih r hr d hd
    · rcases List.mem_cons.1 hd with rfl | hd
      · simpa using h
      · exact ih u hu d hd

end Text

end FlowchartView

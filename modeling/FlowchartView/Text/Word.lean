import FlowchartView.Text.Letter
import FlowchartView.Text.Numeric

namespace FlowchartView

abbrev Id := Text

namespace Text

def isWordChar (c : Char) : Bool := isLetter c || isNumeric c || c == '_'

def isIdChar (c : Char) : Bool := isWordChar c || c == '-'

def isId : Text → Bool
  | [] => false
  | c :: s => isAsciiLetter c && s.all isIdChar

def takeId? : Text → Option (Id × Text)
  | [] => none
  | c :: s =>
    if isAsciiLetter c then some (c :: s.takeWhile isIdChar, s.dropWhile isIdChar) else none

/-- What follows the run of blanks at the start of a text; there has to be one. -/
def skipBlanks? : Text → Option Text
  | [] => none
  | c :: s => if isBlank c then some (trimStart s) else none

theorem append_of_takeId? {s : Text} {id rest : Text} (h : takeId? s = some (id, rest)) :
    s = id ++ rest := by
  cases s with
  | nil => simp [takeId?] at h
  | cons c s =>
    simp only [takeId?, Option.ite_none_right_eq_some, Option.some.injEq, Prod.mk.injEq] at h
    rw [← h.2.1, ← h.2.2, List.cons_append, List.takeWhile_append_dropWhile]

theorem isId_of_takeId? {s : Text} {id rest : Text} (h : takeId? s = some (id, rest)) :
    isId id := by
  cases s with
  | nil => simp [takeId?] at h
  | cons c s =>
    simp only [takeId?, Option.ite_none_right_eq_some, Option.some.injEq, Prod.mk.injEq] at h
    rw [← h.2.1, isId, h.1, List.all_takeWhile, Bool.and_self]

def blankCodePoints : List Nat :=
  [0x09, 0x0A, 0x0B, 0x0C, 0x0D, 0x1C, 0x1D, 0x1E, 0x1F, 0x20, 0x85, 0xA0, 0x1680, 0x2000, 0x2001,
    0x2002, 0x2003, 0x2004, 0x2005, 0x2006, 0x2007, 0x2008, 0x2009, 0x200A, 0x2028, 0x2029, 0x202F,
    0x205F, 0x3000]

theorem isBlank_iff {c : Char} : isBlank c ↔ c.toNat ∈ blankCodePoints := by
  simp only [isBlank, blankCodePoints, Bool.or_eq_true, Bool.and_eq_true, decide_eq_true_eq,
    beq_iff_eq, List.mem_cons, List.not_mem_nil, or_false]
  omega

theorem isIdChar_of_isBlank {c : Char} (h : isBlank c) : isIdChar c = false := by
  have hall : ∀ n ∈ blankCodePoints, isIdChar (Char.ofNat n) = false := by decide +kernel
  have hc := hall c.toNat (isBlank_iff.1 h)
  rwa [Char.ofNat_toNat] at hc

end Text

end FlowchartView

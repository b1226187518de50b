import FlowchartView.Text.Blank

namespace FlowchartView.Text

def consFirst (c : Char) : List Text → List Text
  | [] => [[c]]
  | s :: r => (c :: s) :: r

theorem mem_consFirst {c : Char} {r : List Text} {s : Text} (h : s ∈ consFirst c r) :
    s = [c] ∨ s ∈ r ∨ ∃ t ∈ r, s = c :: t := by
  cases r with
  | nil => exact .inl (by simpa [consFirst] using h)
  | cons t r =>
    rcases List.mem_cons.1 h with rfl | h
    · exact .inr (.inr ⟨t, by simp, rfl⟩)
    · exact .inr (.inl (by simp [h]))

def pieces (isSeparator : Char → Bool) : Text → List Text
  | [] => [[]]
  | c :: s =>
    if isSeparator c then [] :: pieces isSeparator s else consFirst c (pieces isSeparator s)

def fields (isSeparator : Char → Bool) (s : Text) : List Text :=
  (pieces isSeparator s).filter (!·.isEmpty)

theorem pieces_ne_nil (p : Char → Bool) (s : Text) : pieces p s ≠ [] := by
  cases s with
  | nil => simp [pieces]
  | cons c s =>
    rw [pieces]
    split
    · simp
    · cases pieces p s <;> simp [consFirst]

theorem separator_of_mem_pieces (p : Char → Bool) (s : Text) :
    ∀ t ∈ pieces p s, ∀ c ∈ t, p c = false := by
  induction s with
  | nil => simp [pieces]
  | cons d s ih =>
    rw [pieces]
    split
    · simpa using ih
    · next h =>
      intro t ht c hc
      rcases mem_consFirst ht with rfl | ht | ⟨u, hu, rfl⟩
      · simp_all
      · exact ih t ht c hc
      · rcases List.mem_cons.1 hc with rfl | hc
        · simpa using h
        · exact ih u hu c hc

end FlowchartView.Text

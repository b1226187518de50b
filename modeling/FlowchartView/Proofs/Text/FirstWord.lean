import FlowchartView.Proofs.Text.Blank
import FlowchartView.Text.Keyword

namespace FlowchartView.Text

def firstWord (s : Text) : Text := s.takeWhile (!isBlank ·)

/-- What follows the first word, the blank in front included. -/
def afterFirstWord (s : Text) : Text := s.dropWhile (!isBlank ·)

def isKeywordAnyCase (k w : Text) : Bool := afterAnyCase? k w == some []

theorem firstWord_cons {c : Char} (hc : isBlank c = false) (s : Text) :
    firstWord (c :: s) = c :: firstWord s := by simp [firstWord, hc]

theorem afterFirstWord_cons {c : Char} (hc : isBlank c = false) (s : Text) :
    afterFirstWord (c :: s) = afterFirstWord s := by simp [afterFirstWord, hc]

theorem firstWord_append_blank {w : Text} (hw : IsWord w) {b : Char}
    (hb : isBlank b) (s : Text) : firstWord (w ++ b :: s) = w := by
  rw [firstWord, List.takeWhile_append_of_pos (by simpa [IsWord] using hw)]
  simp [hb]

theorem afterFirstWord_append_blank {w : Text} (hw : IsWord w) {b : Char}
    (hb : isBlank b) (s : Text) : afterFirstWord (w ++ b :: s) = b :: s := by
  rw [afterFirstWord, List.dropWhile_append_of_pos (by simpa [IsWord] using hw)]
  simp [hb]

theorem mem_firstWord {w : Text} (hw : IsWord w) (s : Text) {c : Char}
    (hc : c ∈ w) : c ∈ firstWord (w ++ s) := by
  rw [firstWord, List.takeWhile_append_of_pos (by simpa [IsWord] using hw)]
  exact List.mem_append_left _ hc

theorem isBlank_of_sameLetter {k c : Char} (hk : isBlank k = false) (h : sameLetter k c) :
    isBlank c = false := by
  have hlower : ∀ n ∈ blankCodePoints, (Char.ofNat n).toLower = Char.ofNat n ∧
      Char.ofNat n ≠ 'ſ' ∧ Char.ofNat n ≠ 'ı' ∧ Char.ofNat n ≠ 'İ' := by decide +kernel
  cases hc : isBlank c with
  | false => rfl
  | true =>
    obtain ⟨hl, hs, hi, hI⟩ := hlower c.toNat (isBlank_iff.1 hc)
    rw [Char.ofNat_toNat] at hl hs hi hI
    have hne : c ≠ k := by
      rintro rfl
      rw [hc] at hk
      cases hk
    simp [sameLetter, hl, hs, hi, hI, hne] at h

theorem exists_sameLetter_of_mem {k w : Text} (h : isKeywordAnyCase k w) {c : Char} (hc : c ∈ w) :
    ∃ a ∈ k, sameLetter a c := by
  induction k generalizing w with
  | nil =>
    have hw : w = [] := by simpa [isKeywordAnyCase, afterAnyCase?] using h
    simp [hw] at hc
  | cons a k ih =>
    cases w with
    | nil => simp at hc
    | cons d w =>
      cases had : sameLetter a d with
      | false => simp [isKeywordAnyCase, afterAnyCase?, had] at h
      | true =>
        rcases List.mem_cons.1 hc with rfl | hc
        · exact ⟨a, List.mem_cons_self, had⟩
        · have hw : isKeywordAnyCase k w := by simpa [isKeywordAnyCase, afterAnyCase?, had] using h
          obtain ⟨b, hb, hs⟩ := ih hw hc
          exact ⟨b, List.mem_cons_of_mem a hb, hs⟩

variable {k : Text} (hk : IsWord k)
include hk

theorem bind_skipBlanks?_after? (s : Text) : (after? k s).bind skipBlanks? =
    if firstWord s = k then skipBlanks? (afterFirstWord s) else none := by
  induction k generalizing s with
  | nil =>
    cases s with
    | nil => rfl
    | cons c s => cases hc : isBlank c <;> simp [after?, skipBlanks?, firstWord, afterFirstWord, hc]
  | cons a k ih =>
    obtain ⟨ha, htail⟩ := List.forall_mem_cons.1 hk
    cases s with
    | nil => simp [after?, firstWord]
    | cons c s =>
      by_cases hca : c = a
      · have hc : isBlank c = false := hca ▸ ha
        rw [after?, if_pos hca, ih htail, firstWord_cons hc, afterFirstWord_cons hc, hca]
        simp only [List.cons.injEq, true_and]
      · cases hc : isBlank c <;> simp [after?, firstWord, hca, hc]

theorem bind_skipBlanks?_afterAnyCase? (s : Text) : (afterAnyCase? k s).bind skipBlanks? =
    if isKeywordAnyCase k (firstWord s) then skipBlanks? (afterFirstWord s) else none := by
  induction k generalizing s with
  | nil =>
    cases s with
    | nil => rfl
    | cons c s =>
      cases hc : isBlank c <;>
        simp [afterAnyCase?, isKeywordAnyCase, skipBlanks?, firstWord, afterFirstWord, hc]
  | cons a k ih =>
    obtain ⟨ha, htail⟩ := List.forall_mem_cons.1 hk
    cases s with
    | nil => simp [afterAnyCase?, isKeywordAnyCase, firstWord]
    | cons c s =>
      cases hca : sameLetter a c with
      | false =>
        cases hc : isBlank c <;> simp [afterAnyCase?, isKeywordAnyCase, firstWord, hca, hc]
      | true =>
        have hc := isBlank_of_sameLetter ha hca
        rw [afterAnyCase?, if_pos hca, ih htail, firstWord_cons hc, afterFirstWord_cons hc,
          isKeywordAnyCase, isKeywordAnyCase, afterAnyCase?, if_pos hca]

theorem firstWord_of_isKeywordAnyCase {s : Text} (h : isKeywordAnyCase k s) : firstWord s = s := by
  induction k generalizing s with
  | nil =>
    have hs : s = [] := by simpa [isKeywordAnyCase, afterAnyCase?] using h
    rw [hs]
    rfl
  | cons a k ih =>
    obtain ⟨ha, htail⟩ := List.forall_mem_cons.1 hk
    cases s with
    | nil => rfl
    | cons c s =>
      cases hca : sameLetter a c with
      | false => simp [isKeywordAnyCase, afterAnyCase?, hca] at h
      | true =>
        have hs := ih htail (s := s) (by simpa [isKeywordAnyCase, afterAnyCase?, hca] using h)
        rw [firstWord_cons (isBlank_of_sameLetter ha hca), hs]

end FlowchartView.Text

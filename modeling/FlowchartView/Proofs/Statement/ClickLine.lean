import FlowchartView.Drawing.Entry
import FlowchartView.Proofs.Statement.Reading
import FlowchartView.Proofs.Text.Code
import FlowchartView.Proofs.Text.Ids
import FlowchartView.Text.Identifier

namespace FlowchartView

open Text

theorem not_isBlank_of_isIdentifierContinue {c : Char} (h : isIdentifierContinue c) :
    isBlank c = false := by
  have hall : ∀ n ∈ blankCodePoints, isIdentifierContinue (Char.ofNat n) = false := by
    decide +kernel
  cases hc : isBlank c with
  | false => rfl
  | true =>
    have hn := hall c.toNat (isBlank_iff.1 hc)
    rw [Char.ofNat_toNat, h] at hn
    cases hn

theorem of_isIdentifier {s : Text} (h : isIdentifier s) :
    s ≠ [] ∧ IsWord s ∧ '%' ∉ s := by
  cases s with
  | nil => cases h
  | cons c s =>
    rw [isIdentifier, Bool.and_eq_true, List.all_eq_true] at h
    have hc : isIdentifierContinue c := by rw [isIdentifierContinue, h.1, Bool.true_or]
    have hall : ∀ d ∈ c :: s, isIdentifierContinue d := List.forall_mem_cons.2 ⟨hc, h.2⟩
    refine ⟨List.cons_ne_nil c s, fun d hd ↦ not_isBlank_of_isIdentifierContinue (hall d hd), ?_⟩
    intro hp
    exact absurd (hall _ hp) (by decide)

section

variable {id : Id} {callback : Text} (hid : isId id) (hcallback : isIdentifier callback)
include hid hcallback

theorem statement_clickLine : Statement.ofCode (clickLine id callback) = .click := by
  obtain ⟨hne, hblank, -⟩ := of_isIdentifier hcallback
  have hline : clickLine id callback =
      clickKeyword ++ ' ' :: (id ++ ' ' :: callback) := by simp [clickLine]
  have hfirst : firstWord (clickLine id callback) = clickKeyword := by
    rw [hline]
    exact firstWord_append_blank (by decide) (by decide) _
  have hafter : afterFirstWord (clickLine id callback) = ' ' :: (id ++ ' ' :: callback) := by
    rw [hline]
    exact afterFirstWord_append_blank (by decide) (by decide) _
  have htrim : trimStart (id ++ ' ' :: callback) = id ++ ' ' :: callback := by
    refine trimStart_eq_self fun c hc ↦ isWord_of_isId hid c ?_
    rw [List.head?_append, List.head?_eq_some_head (ne_nil_of_isId hid), Option.some_or] at hc
    exact Option.some.inj hc ▸ List.head_mem _
  have htake : takeId? (id ++ ' ' :: callback) = some (id, ' ' :: callback) := by
    refine takeId?_append hid ?_
    rintro c ⟨⟩
    decide
  have hrest : trimStart callback = callback :=
    trimStart_eq_self fun c hc ↦ hblank c (List.mem_of_mem_head? hc)
  have hclick : isClick (clickLine id callback) = true := by
    rw [isClick, bind_skipBlanks?_after? (by decide), if_pos hfirst, hafter, skipBlanks?,
      if_pos (by decide), htrim, Option.bind_some, htake]
    simp [skipBlanks?, isBlank, hrest, hne]
  rw [Statement.ofCode, StyleClass.ofCode?_eq_none (by rw [hfirst]; decide),
    ClassMembership.ofCode?_eq_none (by rw [hfirst]; decide), hclick]
  rfl

theorem isCode_clickLine : IsCode (clickLine id callback) := by
  obtain ⟨hne, hblank, hpercent⟩ := of_isIdentifier hcallback
  exact {
    isTrimmed := by
      have hframe := isTrimmed_append (s := clickKeyword) (by decide) hne (by decide)
        hblank (' ' :: (id ++ [' ']))
      simpa [clickLine] using hframe
    uncommented := by
      have hkeyword : '%' ∉ clickKeyword := by decide
      refine not_infix_percents ?_
      simp [clickLine, hkeyword, percent_not_mem_id hid, hpercent]
    isOneLine := by
      simp only [clickLine, isOneLine_append]
      exact ⟨⟨⟨by decide, (isWord_of_isId hid).isOneLine⟩, by decide⟩,
        hblank.isOneLine⟩ }

theorem says_clickLine : Says (clickLine id callback) .click :=
  ⟨isCode_clickLine hid hcallback, by simp [clickLine], statement_clickLine hid hcallback⟩

end

theorem says_end : Says endKeyword .endSubgraph where
  isCode := ⟨by decide, not_infix_percents (by decide), by decide⟩
  ne_nil := by decide
  ofCode_eq := by decide

end FlowchartView

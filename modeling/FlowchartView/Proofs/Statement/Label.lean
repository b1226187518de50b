import FlowchartView.Proofs.Statement.InlineLink

namespace FlowchartView

open Text

/-- Delimiters around such a label are not taken for others, whatever stands in it. -/
inductive IsEnclosable : Text → Prop
  | bare {t : Text} : t ≠ [] → (∀ c ∈ t, c ∉ delimiterChars) → IsEnclosable t
  | quoted (t : Text) : IsEnclosable (inQuotes t)

namespace IsEnclosable

variable {t : Text} (h : IsEnclosable t)
include h

theorem isSetOff : IsSetOff t := by
  cases h with
  | bare hne hdelimiter => exact isSetOff_of_not_mem hne hdelimiter
  | quoted t => exact isSetOff_inQuotes t

theorem admits (s : Shape) : s.admits t := by
  cases h with
  | bare hne hdelimiter =>
    obtain ⟨c, k, hc⟩ := List.exists_cons_of_ne_nil s.closing_ne_nil
    have hmem : c ∈ s.closing := hc ▸ List.mem_cons_self
    have hnot : c ∉ t := fun ht ↦ hdelimiter c ht (s.closing_subset hmem)
    rw [Shape.admits, goesOnWithLink_eq_false hmem hnot, Bool.not_false, Bool.or_true]
  | quoted t => rw [Shape.admits, inDoubleQuotes_inQuotes, Bool.true_or]

end IsEnclosable

namespace NodeLine

theorem codeOf_line {n : NodeLine} (hid : isId n.id) (h : ¬['%', '%'] <:+: n.label) :
    codeOf n.line = n.line := by
  rw [codeOf, beforeComment_eq_self (mt (infix_percents_of_line hid) h),
    trim_eq_self (isTrimmed_line hid)]

theorem not_infix_percents_label {line : Text} {n : NodeLine} (h : ofLine? line = some n) :
    ¬['%', '%'] <:+: n.label := fun hpercent ↦
  not_infix_beforeComment line ((hpercent.trans (label_isInfix h)).trans (trim_isInfix _))

end NodeLine

/-- A node comes back from the line that is drawn for it, in whatever shape. -/
theorem Node.ofLine?_line_iff_isNodeId (n : Node) (h : IsEnclosable n.label) :
    NodeLine.ofLine? n.line = some ⟨n.id, n.label, n.shape⟩ ↔
      IsNodeId n.id ∧ ¬['%', '%'] <:+: n.label := by
  constructor
  · intro hread
    obtain ⟨hid, hlast, -⟩ := NodeLine.parts_of_ofCode? hread
    exact ⟨⟨hid, hlast⟩, NodeLine.not_infix_percents_label hread⟩
  · rintro ⟨hid, hpercent⟩
    have hcode := NodeLine.codeOf_line (n := ⟨n.id, n.label, n.shape⟩) hid.isId hpercent
    have hshape := enclosingShape?_eq_some h.isSetOff (h.admits n.shape)
    have hline : n.line = NodeLine.line ⟨n.id, n.label, n.shape⟩ := rfl
    rw [hline, NodeLine.ofLine?, hcode, NodeLine.line_eq,
      NodeLine.ofCode?_append hid.isId hid.getLast?_ne, hshape, Option.map_some]

/-- The line `a-b>"x] --> B[y"]`. -/
theorem Node.ofLine?_line_iff_isNodeId_quoted :
    let label := inQuotes "x] --> B[y".toList
    let n : Node := { id := "a-b".toList, label := label, shape? := some .asymmetric }
    n.line = "a-b>\"x] --> B[y\"]".toList ∧
    IsEnclosable n.label ∧ NodeLine.ofLine? n.line = some ⟨"a-b".toList, label, .asymmetric⟩ := by
  intro label n
  have hlabel : IsEnclosable n.label := .quoted _
  have hid : IsNodeId n.id := ⟨by decide +kernel, by decide +kernel⟩
  have hline : n.line = "a-b>\"x] --> B[y\"]".toList := by decide +kernel
  have hread := (n.ofLine?_line_iff_isNodeId hlabel).2 ⟨hid, by decide +kernel⟩
  exact ⟨hline, hlabel, hread⟩

end FlowchartView

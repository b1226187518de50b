import FlowchartView.Command.Run
import FlowchartView.Proofs.Text.Lines

namespace FlowchartView

open Text

namespace Text

def dropPaired : Text → Text
  | [] => []
  | '\r' :: '\n' :: s => '\n' :: dropPaired s
  | c :: s => c :: dropPaired s

/-- The pairs come first, then every carriage return that is left. -/
theorem toLineFeeds_eq_map (t : Text) :
    toLineFeeds t = (dropPaired t).map fun c ↦ if c = '\r' then '\n' else c := by
  fun_induction toLineFeeds t with
  | case1 => rfl
  | case2 s ih =>
    rw [dropPaired, List.map_cons, ih]
    rfl
  | case3 c s hpair ih =>
    rw [dropPaired, List.map_cons, ih]
    exact hpair

end Text

namespace Command

theorem decodeSource_toUTF8 (s : Text) :
    decodeSource (String.ofList s).toUTF8 = .ok (toLineFeeds s) := by
  have hdecode : String.fromUTF8? (String.ofList s).toUTF8 = some (String.ofList s) :=
    dif_pos (String.ofList s).isValidUTF8
  simp only [decodeSource, hdecode, String.toList_ofList]

end Command

namespace Diagram

/-- A command that reads a source writes its line ends anew, and what the source says stays the
same, dropped lines and front matter included. -/
theorem ofText_toLineFeeds (source : Text) :
    toLineFeeds source = (dropPaired source).map (fun c ↦ if c = '\r' then '\n' else c) ∧
      Command.decodeSource (String.ofList source).toUTF8 = .ok (toLineFeeds source) ∧
      ofText (toLineFeeds source) = ofText source ∧
      notices (toLineFeeds source) = notices source := by
  refine ⟨toLineFeeds_eq_map source, Command.decodeSource_toUTF8 source, ?_, ?_⟩
  · rw [ofText, splitLines_toLineFeeds, ← ofText]
  · rw [notices, splitLines_toLineFeeds, ← notices]

end Diagram

end FlowchartView

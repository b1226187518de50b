import FlowchartView.Text.Word

namespace FlowchartView.Text

def after? : Text → Text → Option Text
  | [], s => some s
  | _ :: _, [] => none
  | k :: ks, c :: s => if c = k then after? ks s else none

/-- `c` is the lower-case letter `k` when case is ignored. The long s counts as an s, the dotless
and the dotted capital i as an i. -/
def sameLetter (k c : Char) : Bool :=
  c.toLower == k || (k == 's' && c == 'ſ') || (k == 'i' && (c == 'ı' || c == 'İ'))

def afterAnyCase? : Text → Text → Option Text
  | [], s => some s
  | _ :: _, [] => none
  | k :: ks, c :: s => if sameLetter k c then afterAnyCase? ks s else none

theorem after?_eq_some_iff {k s r : Text} : after? k s = some r ↔ s = k ++ r := by
  induction k generalizing s with
  | nil => simp [after?]
  | cons a k ih =>
    cases s with
    | nil => simp [after?]
    | cons c s => by_cases h : c = a <;> simp [after?, h, ih]

def before? (k s : Text) : Option Text := (after? k.reverse s.reverse).map List.reverse

theorem before?_eq_some_iff {k s r : Text} : before? k s = some r ↔ s = r ++ k := by
  simp only [before?, Option.map_eq_some_iff, after?_eq_some_iff]
  constructor
  · rintro ⟨t, ht, rfl⟩
    rw [← List.reverse_reverse s, ht, List.reverse_append, List.reverse_reverse]
  · rintro rfl
    exact ⟨r.reverse, by simp, by simp⟩

theorem sameLetter_self {k : Char} (h : k.toLower = k) : sameLetter k k := by
  simp [sameLetter, h]

end FlowchartView.Text

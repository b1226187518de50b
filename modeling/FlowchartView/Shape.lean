import FlowchartView.Text.Blank

namespace FlowchartView

inductive Shape
  | circle
  | subroutine
  | hexagon
  | stadium
  | cylinder
  | parallelogram
  | parallelogramAlt
  | trapezoid
  | trapezoidAlt
  | rounded
  | asymmetric
  | rectangle
  | rhombus
deriving DecidableEq, Repr

namespace Shape

def opening : Shape → Text
  | circle => ['(', '(']
  | subroutine => ['[', '[']
  | hexagon => ['{', '{']
  | stadium => ['(', '[']
  | cylinder => ['[', '(']
  | parallelogram => ['[', '/']
  | parallelogramAlt => ['[', '\\']
  | trapezoid => ['[', '/']
  | trapezoidAlt => ['[', '\\']
  | rounded => ['(']
  | asymmetric => ['>']
  | rectangle => ['[']
  | rhombus => ['{']

def closing : Shape → Text
  | circle => [')', ')']
  | subroutine => [']', ']']
  | hexagon => ['}', '}']
  | stadium => [']', ')']
  | cylinder => [')', ']']
  | parallelogram => ['/', ']']
  | parallelogramAlt => ['\\', ']']
  | trapezoid => ['\\', ']']
  | trapezoidAlt => ['/', ']']
  | rounded => [')']
  | asymmetric => [']']
  | rectangle => [']']
  | rhombus => ['}']

def catalog : List Shape :=
  [circle, subroutine, hexagon, stadium, cylinder, parallelogram, parallelogramAlt, trapezoid,
    trapezoidAlt, rounded, asymmetric, rectangle, rhombus]

/-- Longer openings first, in catalog order within a length: the order in which shapes are tried. -/
def longestFirst : List Shape :=
  catalog.filter (·.opening.length = 2) ++ catalog.filter (·.opening.length = 1)

theorem mem_catalog (s : Shape) : s ∈ catalog := by cases s <;> decide

instance {p : Shape → Prop} [DecidablePred p] : Decidable (∀ s, p s) :=
  decidable_of_iff (∀ s ∈ catalog, p s) ⟨fun h s ↦ h s (mem_catalog s), fun h s _ ↦ h s⟩

theorem longestFirst_eq_catalog : longestFirst = catalog := by decide

def standard : Shape := rectangle

end Shape

end FlowchartView

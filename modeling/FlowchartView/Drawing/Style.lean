import FlowchartView.Text.Identifier

namespace FlowchartView

open Text

structure Style where
  /-- The directive of a drawing whose source has none. -/
  defaultDirective : Text := "flowchart TD".toList
  indent : Text := "    ".toList
  clickHooks : Bool := true
  clickCallback : Text := "onNodeClick".toList
deriving DecidableEq, Repr

inductive StyleError
  | emptyDirective
  | badCallback (callback : Text)
deriving DecidableEq, Repr

namespace StyleError

def message : StyleError → String
  | emptyDirective => "default_directive must not be empty"
  | badCallback c => s!"click_callback '{String.ofList c}' is not a valid identifier"

end StyleError

namespace Style

/-- Of two faults the directive's is reported. -/
def fault? (s : Style) : Option StyleError :=
  if (trim s.defaultDirective).isEmpty then some .emptyDirective
  else if isIdentifier s.clickCallback then none
  else some (.badCallback s.clickCallback)

def check (s : Style) : Except StyleError Style :=
  match s.fault? with
  | none => .ok s
  | some e => .error e

theorem check_default : check {} = .ok {} := rfl

end Style

end FlowchartView

import FlowchartView.Command.File
import FlowchartView.Command.View

namespace FlowchartView.Command

open Text

inductive Ending
  | exit (code : Nat)
  | undecodable
deriving DecidableEq, Repr

structure Outcome where
  output : Text := []
  errors : Text := []
  ending : Ending := .exit 0
deriving DecidableEq, Repr

def decodeSource (bytes : ByteArray) : Except Outcome Text :=
  match String.fromUTF8? bytes with
  | none => .error { ending := .undecodable }
  | some s => .ok (toLineFeeds s.toList)

section

variable {m : Type → Type} (machine : Machine m)

def Machine.fail (code : Nat) (message : String) : Outcome :=
  { errors := machine.printed message.toList, ending := .exit code }

def Machine.usage (e : UsageError) : Outcome := machine.fail 2 e.report

/-- The log and the diagnostics that accompany the result. The log is written as it is. -/
def Machine.errors (a : Arguments) (source : Text) : Text :=
  joinLines ((a.logLines source).map String.toList ++
    (a.diagnosticLines source).map fun l ↦ machine.printed l.toList)

variable [Monad m]

def deliver (a : Arguments) (source : Text) : m Outcome := do
  let result := a.result source
  let errors := machine.errors a source
  if a.output.isEmpty then return { output := machine.printed result, errors }
  match ← machine.write a.output result with
  | .ok _ => return { errors }
  | .error e =>
    let failure := machine.fail 1
      s!"error: cannot write '{String.ofList a.output}': {e.message a.output}\n"
    return { failure with errors := errors ++ failure.errors }

def readSource (input? : Option Text) : m (Except Outcome Text) := do
  match input? with
  | none => return decodeSource (← machine.standardInput)
  | some path =>
    match ← machine.read path with
    | .error e =>
      return .error <| machine.fail 1
        s!"error: cannot read '{String.ofList path}': {e.message path}\n"
    | .ok bytes => return decodeSource bytes

def view (a : Arguments) (input? : Option Text) : m Outcome := do
  match ← readSource machine input? with
  | .error outcome => return outcome
  | .ok source =>
    match a.style.check with
    | .error e => return machine.fail 1 s!"error: {e.message}\n"
    | .ok _ => deliver machine a source

/-- Of two faults of a command line the one in an option is reported, then a missing input, then
operands to spare. -/
def run (words : List Text) : m Outcome := do
  match Arguments.ofWords words with
  | .error e => return machine.usage e
  | .ok a =>
    if a.help then return { output := helpText.toList }
    match a.operands with
    | [] => view machine a none
    | input :: extra =>
      if !(← machine.contains input) then return machine.usage (.noSuchPath input)
      if !extra.isEmpty then return machine.usage (.extraOperands extra)
      view machine a (some input)

end

end FlowchartView.Command

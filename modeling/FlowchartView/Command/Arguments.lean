import FlowchartView.Command.Option
import FlowchartView.Drawing.Style
import FlowchartView.Text.Quoted
import FlowchartView.Text.Word

namespace FlowchartView.Command

open Text

structure Arguments where
  hideAll : Bool := false
  shown : List Id := []
  descendants : List Id := []
  ancestors : List Id := []
  hidden : List Id := []
  list : Bool := false
  clickHooks : Bool := true
  callback : Text := ({} : Style).clickCallback
  diagnostics : Bool := false
  verbose : Bool := false
  output : Text := []
  help : Bool := false
  operands : List Text := []
deriving DecidableEq, Repr

inductive UsageError
  /-- No option has the name; those in the list have one like it. -/
  | noSuchOption (name : Text) (alike : List Text)
  | unwantedValue (name : Text)
  | missingValue (name : Text)
  | noSuchPath (path : Text)
  | extraOperands (operands : List Text)
deriving DecidableEq, Repr

namespace UsageError

def suggestion : List Text → String
  | [] => ""
  | [name] => s!" Did you mean {String.ofList (quoted name)}?"
  | names =>
    let list := ", ".intercalate (names.map fun n ↦ String.ofList (quoted n))
    s!" (Did you mean one of: {list}?)"

def message : UsageError → String
  | noSuchOption name alike =>
    s!"No such option {String.ofList (quoted name)}." ++ suggestion alike
  | unwantedValue name => s!"Option {String.ofList (quoted name)} does not take a value."
  | missingValue name => s!"Option {String.ofList (quoted name)} requires an argument."
  | noSuchPath path =>
    s!"Invalid value for '[INPUT]': Path {String.ofList (quoted path)} does not exist."
  | extraOperands operands =>
    let noun := if operands.length = 1 then "argument" else "arguments"
    let words := " ".intercalate (operands.map String.ofList)
    s!"Got unexpected extra {noun} ({words})"

/-- The fault lies in the value of a known option, and the usage line would not help. -/
def isAboutValue : UsageError → Bool
  | unwantedValue _ | missingValue _ => true
  | _ => false

def report (e : UsageError) : String :=
  let usage := "Usage: mermaid-focus [OPTIONS] [INPUT]\n" ++
    "Try 'mermaid-focus --help' for help.\n\n"
  (if e.isAboutValue then "" else usage) ++ s!"Error: {e.message}\n"

end UsageError

namespace Arguments

def raise (a : Arguments) : Flag → Arguments
  | .hideAll => { a with hideAll := true }
  | .list => { a with list := true }
  | .noClickHooks => { a with clickHooks := false }
  | .diagnostics => { a with diagnostics := true }
  | .verbose => { a with verbose := true }
  | .help => { a with help := true }

/-- Ids add up; of two callbacks or two outputs the last counts. -/
def assign (a : Arguments) (value : Text) : Setting → Arguments
  | .shown => { a with shown := a.shown ++ [value] }
  | .descendants => { a with descendants := a.descendants ++ [value] }
  | .ancestors => { a with ancestors := a.ancestors ++ [value] }
  | .hidden => { a with hidden := a.hidden ++ [value] }
  | .callback => { a with callback := value }
  | .output => { a with output := value }

abbrev Pending := Option (Setting × Text)

def readLetters (a : Arguments) : Text → Except UsageError (Arguments × Pending)
  | [] => .ok (a, none)
  | c :: s =>
    match OptionKind.ofLetter? c with
    | none => .error (.noSuchOption ['-', c] [])
    | some (.flag f) => (a.raise f).readLetters s
    | some (.setting t) =>
      if s.isEmpty then .ok (a, some (t, ['-', c])) else .ok (a.assign s t, none)

/-- A long name may carry its value after an equals sign; single letters may be run together, and
the last of them may carry its value. -/
def readOption (a : Arguments) (word : Text) : Except UsageError (Arguments × Pending) :=
  let name := word.takeWhile (· ≠ '=')
  let value? := (word.dropWhile (· ≠ '=')).tail?
  match OptionKind.ofLongName? name, value? with
  | some (.setting t), some v => .ok (a.assign v t, none)
  | some (.setting t), none => .ok (a, some (t, name))
  | some (.flag _), some _ => .error (.unwantedValue name)
  | some (.flag f), none => .ok (a.raise f, none)
  | none, _ =>
    match word with
    | '-' :: '-' :: _ => .error (.noSuchOption name (OptionKind.namesLike name))
    | _ => a.readLetters word.tail

/-- A hyphen alone is an operand. -/
def isOption : Text → Bool
  | '-' :: _ :: _ => true
  | _ => false

def addOperands (a : Arguments) (words : List Text) : Arguments :=
  { a with operands := a.operands ++ words }

/-- Two hyphens end the options. A setting takes the next word whatever it is. -/
def read (a : Arguments) : List Text → Except UsageError Arguments
  | [] => .ok a
  | ['-', '-'] :: words => .ok (a.addOperands words)
  | word :: words =>
    if isOption word then
      match a.readOption word with
      | .error e => .error e
      | .ok (b, none) => b.read words
      | .ok (b, some (t, name)) =>
        match words with
        | [] => .error (.missingValue name)
        | value :: rest => (b.assign value t).read rest
    else (a.addOperands [word]).read words

def ofWords (words : List Text) : Except UsageError Arguments := read {} words

def style (a : Arguments) : Style := { clickHooks := a.clickHooks, clickCallback := a.callback }

end Arguments

end FlowchartView.Command

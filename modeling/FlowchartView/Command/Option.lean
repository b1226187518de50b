import FlowchartView.Text.Similarity

namespace FlowchartView.Command

open Text

inductive Flag
  | hideAll
  | list
  | noClickHooks
  | diagnostics
  | verbose
  | help
deriving DecidableEq, Repr

inductive Setting
  | shown
  | descendants
  | ancestors
  | hidden
  | callback
  | output
deriving DecidableEq, Repr

inductive OptionKind
  | flag (f : Flag)
  | setting (s : Setting)
deriving DecidableEq, Repr

namespace OptionKind

def longNames : List (String × OptionKind) :=
  [("--hide-all", flag .hideAll), ("--show", setting .shown),
    ("--descendants", setting .descendants), ("--ancestors", setting .ancestors),
    ("--hide", setting .hidden), ("--list", flag .list),
    ("--no-click-hooks", flag .noClickHooks), ("--callback", setting .callback),
    ("--diagnostics", flag .diagnostics), ("--verbose", flag .verbose),
    ("--output", setting .output), ("--help", flag .help)]

def ofLongName? (name : Text) : Option OptionKind := longNames.lookup (String.ofList name)

def namesLike (name : Text) : List Text :=
  mostAlike 3 name (longNames.map fun n ↦ n.1.toList)

def ofLetter? : Char → Option OptionKind
  | 'v' => some (flag .verbose)
  | 'o' => some (setting .output)
  | _ => none

end OptionKind

def helpText : String :=
  "Usage: mermaid-focus [OPTIONS] [INPUT]\n\n" ++
  "  Filter a Mermaid flowchart down to a subset of its nodes.\n\n" ++
  "Options:\n" ++
  "  --hide-all          Start with every node hidden\n" ++
  "  --show TEXT         Show this node id (repeatable)\n" ++
  "  --descendants TEXT  Show this node and everything downstream of it\n" ++
  "  --ancestors TEXT    Show this node and everything upstream of it\n" ++
  "  --hide TEXT         Hide this node id (repeatable, applied last)\n" ++
  "  --list              List declared nodes and their visibility instead of\n" ++
  "                      rendering\n" ++
  "  --no-click-hooks    Do not emit click directives\n" ++
  "  --callback TEXT     Callback name used in click directives\n" ++
  "  --diagnostics       Report lines the parser dropped on stderr\n" ++
  "  -v, --verbose       Enable debug logging\n" ++
  "  -o, --output TEXT   Write output to this file instead of stdout\n" ++
  "  --help              Show this message and exit.\n"

end FlowchartView.Command

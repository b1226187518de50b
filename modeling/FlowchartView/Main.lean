import FlowchartView.Command.Run
import FlowchartView.Text.Control

namespace FlowchartView.Command

/-- 20 is the code of a path that goes on after a file, and 36 that of a name out of bounds. -/
def FileError.ofError : IO.Error → FileError
  | .noFileOrDirectory .. => .notFound
  | .permissionDenied .. => .denied
  | .inappropriateType _ code _ => if code = 20 then .notDirectory else .isDirectory
  | .invalidArgument _ 36 _ => .nameTooLong
  | e => .other (toString e)

def attempt {α : Type} (action : IO α) : IO (Except FileError α) := do
  match ← action.toBaseIO with
  | .ok a => return .ok a
  | .error e => return .error (.ofError e)

def thisMachine : Machine IO where
  contains path := do return (← attempt (IO.FS.realPath (String.ofList path))).toBool
  read path := attempt (IO.FS.readBinFile (String.ofList path))
  write path content := attempt (IO.FS.writeFile (String.ofList path) (String.ofList content))
  standardInput := do (← IO.getStdin).readBinToEnd
  printed := Text.stripControls

end FlowchartView.Command

def main (args : List String) : IO UInt32 := do
  let words := args.map String.toList
  let outcome ← FlowchartView.Command.run FlowchartView.Command.thisMachine words
  (← IO.getStderr).putStr (String.ofList outcome.errors)
  (← IO.getStdout).putStr (String.ofList outcome.output)
  match outcome.ending with
  | .exit code => return code.toUInt32
  | .undecodable => return 1

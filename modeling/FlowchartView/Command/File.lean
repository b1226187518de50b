import FlowchartView.Text.Quoted

namespace FlowchartView.Command

open Text

inductive FileError
  | notFound
  | denied
  | notDirectory
  | isDirectory
  | nameTooLong
  | other (text : String)
deriving DecidableEq, Repr

namespace FileError

def message (e : FileError) (path : Text) : String :=
  let place := String.ofList (quoted path)
  match e with
  | notFound => s!"[Errno 2] No such file or directory: {place}"
  | denied => s!"[Errno 13] Permission denied: {place}"
  | notDirectory => s!"[Errno 20] Not a directory: {place}"
  | isDirectory => s!"[Errno 21] Is a directory: {place}"
  | nameTooLong => s!"[Errno 36] File name too long: {place}"
  | other text => text

end FileError

structure Machine (m : Type → Type) where
  contains : Text → m Bool
  read : Text → m (Except FileError ByteArray)
  write : Text → Text → m (Except FileError Unit)
  standardInput : m ByteArray
  /-- What is left of a text when it is printed. -/
  printed : Text → Text

end FlowchartView.Command

import FlowchartView.Notice
import FlowchartView.Statement.Basic
import FlowchartView.Text.Line

namespace FlowchartView

open Text

namespace Line

def isSilent (l : Line) : Bool := (codeOf l.text).isEmpty

def isFence (l : Line) : Bool := trim l.text == "---".toList

def isDirective (l : Line) : Bool := FlowchartView.isDirective (trim l.text)

def drop (l : Line) (reason : DropReason) : DroppedLine := ⟨l.number, trim l.text, reason⟩

end Line

def throughFence : List Line → List Line × List Line
  | [] => ([], [])
  | l :: ls => if l.isFence then ([l], ls) else ((throughFence ls).map (l :: ·) id)

def skipEmptyLine : List Line → List Line
  | [] => []
  | l :: ls => if (trim l.text).isEmpty then ls else l :: ls

/-- A fence on the first line opens the front matter. One empty line after it belongs to neither
part. -/
def splitFrontMatter : List Line → List Line × List Line
  | [] => ([], [])
  | l :: ls =>
    if l.isFence then ((throughFence ls).map (l :: ·) skipEmptyLine) else ([], l :: ls)

def isUnclosed : List Line → Bool
  | [] => false
  | _ :: inside => !inside.any Line.isFence

structure Preamble where
  frontMatter : List Line
  skipped : List Line
  directive? : Option Line
  body : List Line

namespace Preamble

/-- The first directive ends the preamble. Without one, no line after the front matter is part of
it. -/
def ofLines (lines : List Line) : Preamble :=
  let (frontMatter, rest) := splitFrontMatter lines
  match rest.dropWhile (!·.isDirective) with
  | [] => ⟨frontMatter, [], none, rest⟩
  | d :: body => ⟨frontMatter, rest.takeWhile (!·.isDirective), some d, body⟩

def dropped (p : Preamble) : List DroppedLine :=
  (p.skipped.filter (!·.isSilent)).map (·.drop .beforeDirective)

def notices (p : Preamble) : List Notice :=
  (if isUnclosed p.frontMatter then [.unclosedFrontMatter] else []) ++ p.dropped.map .dropped ++
    (if p.directive?.isNone then [.noDirective] else [])

end Preamble

theorem append_throughFence (lines : List Line) :
    (throughFence lines).1 ++ (throughFence lines).2 = lines := by
  induction lines with
  | nil => rfl
  | cons l ls ih => by_cases h : l.isFence <;> simp [throughFence, h, ih]

end FlowchartView

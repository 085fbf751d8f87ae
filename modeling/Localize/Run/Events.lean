import Localize.Log
import Localize.Run

/-! What a run notes in the log, in the order in which it happens. -/

namespace Localize

open Log (Event)

namespace LintRun

def target : Text := "autotranslate::core::linter".toList

def start (program : Text) (arguments : List Text) : Event where
  level := .debug
  target := target
  message := "running linter".toList
  fields := [("program".toList, program), ("args".toList, Text.quotedList arguments)]

def refusal (program : Text) (e : FileError) : Event where
  level := .warn
  target := target
  message := "failed to start linter".toList
  fields := [("program".toList, program), ("error".toList, e.message)]

def codeText : Option Nat → Text
  | some n => "Some(".toList ++ Text.ofNat n ++ [')']
  | none => "None".toList

def failure (code : Option Nat) : Event where
  level := .debug
  target := target
  message := "linter exited with failure".toList
  fields := [("code".toList, codeText code)]

def events : LintRun → List Event
  | .nothing => []
  | .launched program arguments (.refused e) => [start program arguments, refusal program e]
  | .launched program arguments (.finished _ _ exit) =>
    start program arguments ::
      match LintOutput.statusOf exit with
      | .failed code => [failure code]
      | _ => []

end LintRun

namespace Localizer

def target : Text := "autotranslate::core::pipeline".toList

def indexed (file : Path) (d : Dictionary) : Event where
  level := .debug
  target := target
  message := "indexed primary locale".toList
  fields := [("file".toList, file.quoted), ("strings".toList, Text.ofNat d.size)]

def parsed (issues : List Issue) : Event where
  level := .info
  target := target
  message := "parsed lint report".toList
  fields := [("issues".toList, Text.ofNat issues.length)]

end Localizer

def Outcome.event (path : Path) : Outcome → Event
  | .applied a =>
    { level := .debug
      target := Localizer.target
      message := "replaced".toList
      fields := [("file".toList, path.quoted),
        ("line".toList, Text.ofNat (a.replacement.lineIndex + 1)),
        ("key".toList, Text.quoted a.key)] }
  | .skipped s =>
    { level := .debug
      target := Localizer.target
      message := "skipped".toList
      fields := [("file".toList, s.issue.file.quoted), ("line".toList, Text.ofNat s.issue.line),
        ("string".toList, s.issue.string), ("reason".toList, s.reason.text)] }

namespace Visit

def path : Visit → Path
  | .missing path _ => path
  | .unreadable path _ _ => path
  | .edited path _ _ => path

def warnings : Visit → List Event
  | .unreadable path e _ =>
    [{ level := .warn
       target := Localizer.target
       message := "skipping unreadable file: ".toList ++ SourceFile.readFailure path e
       fields := [("file".toList, path.quoted)] }]
  | _ => []

def events (v : Visit) : List Event := v.warnings ++ v.outcomes.map (Outcome.event v.path)

end Visit

def Run.events (r : Run) (p : Localizer) : List Event :=
  (r.lint.map LintRun.events).getD [] ++
    Localizer.parsed (p.issues r.reportText) :: r.course.visits.flatMap Visit.events

end Localize

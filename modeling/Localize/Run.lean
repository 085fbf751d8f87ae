import Localize.Config.Discovery
import Localize.Dictionary
import Localize.Hook
import Localize.Linter
import Localize.Report
import Localize.SourceFile

/-! A run over a lint report: every reported file is visited once, its strings are replaced from the
bottom up, and it is written back if any of them was. -/

namespace Localize

inductive SkipReason where
  | noKey
  | notFound
  | missingFile
  | unreadable
  deriving DecidableEq, Repr

def SkipReason.text : SkipReason → Text
  | .noKey => "no translation key for this text".toList
  | .notFound => "text not found in file".toList
  | .missingFile => "file does not exist".toList
  | .unreadable => "file could not be read".toList

structure Skipped where
  issue : Issue
  reason : SkipReason
  deriving DecidableEq, Repr

structure Applied where
  issue : Issue
  key : Text
  replacement : Replacement
  deriving DecidableEq, Repr

inductive Outcome where
  | applied (a : Applied)
  | skipped (s : Skipped)
  deriving DecidableEq, Repr

structure FileChange where
  path : Path
  replacements : List Applied
  augmentation : Augmentation
  deriving DecidableEq, Repr

structure Summary where
  filesModified : Nat := 0
  stringsReplaced : Nat := 0
  stringsSkipped : Nat := 0
  deriving DecidableEq, Repr

/-- What is told of a run. There is no lint status where the lint report was given. -/
structure Account where
  summary : Summary := {}
  changes : List FileChange := []
  skipped : List Skipped := []
  lintStatus : Option LintStatus := none
  indexedStrings : Nat := 0
  dryRun : Bool := false
  deriving DecidableEq, Repr

structure Localizer where
  projectRoot : Path
  lintCommand : List Text
  dictionary : Dictionary
  format : Report.Format
  replacer : Replacer
  hook : Hook
  deriving DecidableEq, Repr

inductive Visit where
  | missing (path : Path) (issues : List Issue)
  | unreadable (path : Path) (e : FileError) (issues : List Issue)
  | edited (path : Path) (outcomes : List Outcome) (augmentation : Option Augmentation)
  deriving DecidableEq, Repr

namespace Outcome

def applied? : Outcome → Option Applied
  | .applied a => some a
  | .skipped _ => none

def skipped? : Outcome → Option Skipped
  | .applied _ => none
  | .skipped s => some s

end Outcome

namespace Visit

def outcomes : Visit → List Outcome
  | .missing _ issues => issues.map fun i => .skipped ⟨i, .missingFile⟩
  | .unreadable _ _ issues => issues.map fun i => .skipped ⟨i, .unreadable⟩
  | .edited _ outcomes _ => outcomes

def skipped (v : Visit) : List Skipped := v.outcomes.filterMap Outcome.skipped?

/-- The change of a file in which something was replaced. -/
def change? : Visit → Option FileChange
  | .edited path outcomes (some augmentation) =>
    some ⟨path, outcomes.filterMap Outcome.applied?, augmentation⟩
  | _ => none

end Visit

namespace Account

def record (r : Account) (v : Visit) : Account :=
  let changes := v.change?.toList
  { r with
    changes := r.changes ++ changes
    skipped := r.skipped ++ v.skipped
    summary :=
      { filesModified := r.summary.filesModified + changes.length
        stringsReplaced :=
          r.summary.stringsReplaced + (v.change?.map (·.replacements.length)).getD 0
        stringsSkipped := r.summary.stringsSkipped + v.skipped.length } }

end Account

namespace Localizer

def ofConfig (c : Config) (projectRoot : Path) (dictionary : Dictionary) : Localizer where
  projectRoot := projectRoot
  lintCommand := c.lintCommand
  dictionary := dictionary
  format := .ofConfig c
  replacer := ⟨c.translateFn, c.searchRadius⟩
  hook := .ofConfig c

/-- The expressions of a localizer in the order in which they are compiled. -/
def expressions (c : Config) : List Text :=
  (Report.Format.ofConfig c).expressions ++ (Hook.ofConfig c).expressions

def compile (engine : Engine) (c : Config) (projectRoot : Path) (dictionary : Dictionary) :
    Except Text Localizer := do
  let format ← Report.Format.compile engine c
  let hook ← Hook.compile engine c
  return { ofConfig c projectRoot dictionary with format, hook }

inductive MessagesFailure where
  | unreadable (file : Path) (e : FileError)
  | malformed (file : Path) (e : Json.Error)
  deriving DecidableEq, Repr

def MessagesFailure.message : MessagesFailure → Text
  | .unreadable file e =>
    "Failed to read messages file: ".toList ++ file.quoted ++ ": ".toList ++ e.message
  | .malformed file e =>
    "Failed to parse messages file: ".toList ++ file.quoted ++ ": ".toList ++ e.message

def loadDictionary (tree : FileTree) (file : Path) : Except MessagesFailure Dictionary := do
  let text ← (tree.readText file).mapError (.unreadable file)
  let value ← (Json.parse text).mapError (.malformed file)
  return .ofJson value

/-- Handles one issue in the buffer of its file. -/
def settle (p : Localizer) (lines : Buffer) (issue : Issue) : Outcome × Buffer :=
  match p.dictionary.lookup issue.string with
  | none => (.skipped ⟨issue, .noKey⟩, lines)
  | some key =>
    match p.replacer.replace? lines issue.line issue.string key with
    | none => (.skipped ⟨issue, .notFound⟩, lines)
    | some (replacement, lines) => (.applied ⟨issue, key, replacement⟩, lines)

def settleAll (p : Localizer) : Buffer → List Issue → List Outcome × Buffer
  | lines, [] => ([], lines)
  | lines, issue :: issues =>
    let (outcome, lines) := p.settle lines issue
    let (outcomes, lines) := settleAll p lines issues
    (outcome :: outcomes, lines)

/-- From the last claimed line to the first, so that no edit moves a line that is still to come.
Issues of one line keep their order. -/
def bottomUp (issues : List Issue) : List Issue := issues.mergeSort fun a b => b.line ≤ a.line

structure WriteFailure where
  file : Path
  error : FileError
  deriving DecidableEq, Repr

def WriteFailure.message (f : WriteFailure) : Text := SourceFile.writeFailure f.file f.error

/-- Edits a file in memory. It is changed and augmented only if something was replaced. -/
def edit (p : Localizer) (file : SourceFile) (issues : List Issue) : Visit × SourceFile :=
  let (outcomes, lines) := p.settleAll file.lines (bottomUp issues)
  if (outcomes.filterMap Outcome.applied?).isEmpty then
    (.edited file.path outcomes none, file)
  else
    let (augmentation, lines) := p.hook.augment lines
    (.edited file.path outcomes (some augmentation), { file.touch with lines })

def visit (p : Localizer) (dryRun : Bool) (tree : FileTree) (group : Issue.Group) :
    Visit × Except WriteFailure FileTree :=
  let (path, issues) := group
  if !tree.isFile path then (.missing path issues, .ok tree)
  else match SourceFile.read tree path with
    | .error e => (.unreadable path e issues, .ok tree)
    | .ok file =>
      let (visit, file) := p.edit file issues
      if dryRun then (visit, .ok tree)
      else (visit, ((file.flush tree).map (·.2)).mapError (⟨path, ·⟩))

/-- What a run over some groups came to: the visits up to the first failure, and the files. -/
structure Course where
  visits : List Visit
  failure : Option WriteFailure
  tree : FileTree

def visitAll (p : Localizer) (dryRun : Bool) (tree : FileTree) : List Issue.Group → Course
  | [] => ⟨[], none, tree⟩
  | group :: groups =>
    match p.visit dryRun tree group with
    | (visit, .error failure) => ⟨[visit], some failure, tree⟩
    | (visit, .ok tree) =>
      let rest := visitAll p dryRun tree groups
      { rest with visits := visit :: rest.visits }

def issues (p : Localizer) (report : Text) : List Issue :=
  Report.parse p.format p.projectRoot report

def process (p : Localizer) (dryRun : Bool) (report : Text) (tree : FileTree) : Course :=
  p.visitAll dryRun tree (Issue.groups (p.issues report))

/-- The account of a course whose writes succeeded. -/
def Course.account (c : Course) (p : Localizer) (dryRun : Bool) (lintStatus : Option LintStatus) :
    Account :=
  c.visits.foldl Account.record
    { lintStatus, dryRun, indexedStrings := p.dictionary.size }

end Localizer

inductive Report.Source where
  | linter
  | text (t : Text)
  deriving DecidableEq, Repr

/-- A complete run: what became of the linter, if it was asked for, and the course over the report.
-/
structure Run where
  lint : Option LintRun
  reportText : Text
  course : Localizer.Course

def Localizer.run (p : Localizer) (launch : Launcher) (source : Report.Source) (dryRun : Bool)
    (tree : FileTree) : Run :=
  match source with
  | .text t => ⟨none, t, p.process dryRun t tree⟩
  | .linter =>
    let (linted, tree) := lint launch p.lintCommand p.projectRoot tree
    ⟨some linted, linted.output.text, p.process dryRun linted.output.text tree⟩

def Run.account (r : Run) (p : Localizer) (dryRun : Bool) : Account :=
  r.course.account p dryRun (r.lint.map (·.output.status))

end Localize

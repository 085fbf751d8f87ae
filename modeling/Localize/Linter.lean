import Localize.FileTree

/-! Running the lint command and joining what it prints into one report. -/

namespace Localize

/-- How a program ended. A signal leaves no code. -/
inductive Exit where
  | code (n : Nat)
  | signal
  deriving DecidableEq, Repr

inductive Launch where
  | refused (e : FileError)
  | finished (output errors : ByteArray) (exit : Exit)

/-- Runs a command in a directory, without input. -/
abbrev Launcher := List Text → Path → FileTree → Launch × FileTree

inductive LintStatus where
  | success
  | failed (code : Option Nat)
  | notStarted (error : Text)
  deriving DecidableEq, Repr

structure LintOutput where
  status : LintStatus
  text : Text
  deriving DecidableEq, Repr

namespace LintOutput

/-- Each stream is read on its own. The errors start on a line of their own. -/
def combine (output errors : ByteArray) : Text :=
  let output := Text.decodeLossy output
  let errors := Text.decodeLossy errors
  if errors.isEmpty then output
  else if output.isEmpty || output.getLast? = some '\n' then output ++ errors
  else output ++ '\n' :: errors

def statusOf : Exit → LintStatus
  | .code 0 => .success
  | .code n => .failed (some n)
  | .signal => .failed none

def refusal (command : List Text) (e : FileError) : Text :=
  "Failed to run ".toList ++ Text.joined [' '] command ++ ": ".toList ++ e.message

/-- A command that cannot be started reports why. -/
def ofLaunch (command : List Text) : Launch → LintOutput
  | .refused e => ⟨.notStarted (refusal command e), refusal command e⟩
  | .finished output errors exit => ⟨statusOf exit, combine output errors⟩

def ofNothing : LintOutput := ⟨.notStarted "empty lint command".toList, []⟩

end LintOutput

/-- What became of a lint command: it names no program, or it was launched. -/
inductive LintRun where
  | nothing
  | launched (program : Text) (arguments : List Text) (launch : Launch)

def LintRun.output : LintRun → LintOutput
  | .nothing => .ofNothing
  | .launched program arguments launch => .ofLaunch (program :: arguments) launch

def lint (launch : Launcher) (command : List Text) (projectRoot : Path) (tree : FileTree) :
    LintRun × FileTree :=
  match command with
  | [] => (.nothing, tree)
  | program :: arguments =>
    let (launched, tree) := launch (program :: arguments) projectRoot tree
    (.launched program arguments launched, tree)

end Localize

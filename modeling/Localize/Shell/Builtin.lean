import Localize.Shell.Builtin.Control
import Localize.Shell.Builtin.Directory
import Localize.Shell.Builtin.Printing
import Localize.Shell.Builtin.Reading
import Localize.Shell.Builtin.Settings
import Localize.Shell.Builtin.Signals
import Localize.Shell.Builtin.Test
import Localize.Shell.Program
import Localize.Shell.Script.Parser

/-! What the shell does itself. -/

namespace Localize.Shell

/-- A task of the shell: one that runs by itself, or one that runs commands. -/
inductive Builtin where
  | task (run : List Text → Act Nat)
  | command
  | evaluate
  | replace
  | source

namespace Builtin

open Act

def constant (status : Nat) : List Text → Act Nat := fun _ => return status

def names : List Text :=
  [".", ":", "[", "break", "cd", "chdir", "command", "continue", "echo", "eval", "exec", "exit",
    "export", "false", "getopts", "kill", "local", "printf", "pwd", "read", "readonly", "return",
    "set", "shift", "test", "trap", "true", "type", "unset", "wait"].map String.toList

def isSpecial (name : Text) : Bool := specialBuiltins.contains name

def declares (name : Text) : Bool :=
  (["export", "local", "readonly"].map String.toList).contains name

def describe (inSentence : Bool) (searchPath name : Text) : Act Nat := do
  let m ← get
  let said (about brief : Text) : Act Nat := do
    printLine (if inSentence then name ++ about else brief)
    return 0
  if Token.reservedWords.contains name then said " is a shell keyword".toList name
  else if (m.functions.lookup name).isSome then said " is a shell function".toList name
  else if names.contains name then
    let kind := if isSpecial name then "special shell builtin" else "shell builtin"
    said (" is a ".toList ++ kind.toList) name
  else
    let found (path : Text) : Act Nat := said (" is ".toList ++ path) path
    match Program.locate m searchPath name with
    | .found path _ => found path
    | .denied path => found path
    | _ =>
      if inSentence then printLine (name ++ ": not found".toList)
      return 127

def describeAll (args : List Text) : Act Nat := do
  let mut status := 0
  for name in args do
    let m ← get
    status := status ||| (← describe true (Program.searchPath m) name)
  return status

def ofName? (name : Text) : Option Builtin :=
  match String.ofList name with
  | "." => some .source
  | ":" => some (.task (constant 0))
  | "[" => some (.task Test.bracket)
  | "break" => some (.task breakLoops)
  | "cd" => some (.task changeDirectory)
  | "chdir" => some (.task changeDirectory)
  | "command" => some .command
  | "continue" => some (.task continueLoops)
  | "echo" => some (.task echo)
  | "eval" => some .evaluate
  | "exec" => some .replace
  | "exit" => some (.task exitTask)
  | "export" => some (.task exportTask)
  | "false" => some (.task (constant 1))
  | "getopts" => some (.task getOptions)
  | "kill" => some (.task kill)
  | "local" => some (.task makeLocal)
  | "printf" => some (.task printf)
  | "pwd" => some (.task printDirectory)
  | "read" => some (.task read)
  | "readonly" => some (.task readOnly)
  | "return" => some (.task returnTask)
  | "set" => some (.task setTask)
  | "shift" => some (.task shift)
  | "test" => some (.task Test.test)
  | "trap" => some (.task trap)
  | "true" => some (.task (constant 0))
  | "type" => some (.task describeAll)
  | "unset" => some (.task unset)
  | "wait" => some (.task waitFor)
  | _ => none

/-- The name of a command behind `command`, with what options say: whether it is described only, in
a sentence or not, and whether the usual path is searched. -/
inductive Prefixed where
  | plain (usualPath : Bool) (args : List Text)
  | other

def behindCommand (usualPath : Bool) : List Text → Prefixed
  | [] => .other
  | arg :: rest =>
    match arg with
    | ['-', '-'] => if rest.isEmpty then .other else .plain usualPath rest
    | '-' :: c :: cs =>
      if (c :: cs).all (· == 'p') then behindCommand true rest else .other
    | _ => .plain usualPath (arg :: rest)

def describeCommand (args : List Text) : Act Nat := do
  let (found, args) ← parse (.ofString "pvV") args
  let m ← get
  let searchPath := if hasLetter 'p' found then Program.defaultPath else Program.searchPath m
  match args with
  | [] => return 0
  | name :: _ =>
    if hasLetter 'V' found then describe true searchPath name
    else if hasLetter 'v' found then describe false searchPath name
    else return 0

end Builtin
end Localize.Shell

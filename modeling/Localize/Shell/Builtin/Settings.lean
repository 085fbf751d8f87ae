import Localize.Shell.Builtin.Variables

/-! The options of a shell. -/

namespace Localize.Shell.Builtin

open Act

def settings : List (Text × Option Char) :=
  [("errexit", some 'e'), ("noglob", some 'f'), ("ignoreeof", some 'I'), ("interactive", some 'i'),
    ("monitor", some 'm'), ("noexec", some 'n'), ("stdin", some 's'), ("xtrace", some 'x'),
    ("verbose", some 'v'), ("vi", some 'V'), ("emacs", some 'E'), ("noclobber", some 'C'),
    ("allexport", some 'a'), ("notify", some 'b'), ("nounset", some 'u'), ("privileged", some 'p'),
    ("nolog", none), ("debug", none)].map fun (name, letter) => (name.toList, letter)

def switch (c : Char) (on : Bool) : Act Unit :=
  modify fun m =>
    let others := m.options.filter (· ≠ c)
    { m with options := if on then c :: others else others }

def setLetter (c : Char) (on : Bool) : Act Unit := do
  if settings.any (·.2 = some c) then switch c on
  else fail ("Illegal option -".toList ++ [c])

def setNamed (name : Text) (on : Bool) : Act Unit := do
  match settings.lookup name with
  | some (some c) => switch c on
  | some none => pure ()
  | none => fail ("Illegal option -o ".toList ++ name)

def printSettings (on : Bool) : Act Unit := do
  let m ← get
  if on then printLine "Current option settings".toList
  for (name, letter) in settings do
    let isOn := letter.any m.hasOption
    if on then
      let state := if isOn then "on" else "off"
      printLine (name ++ List.replicate (16 - name.length) ' ' ++ state.toList)
    else printLine ((if isOn then "set -o " else "set +o ").toList ++ name)

/-- The letters of one argument. The letter `o` takes the next argument as a name, and a shell for a
login is started with the letter `l`. -/
def setLetters (isStart on : Bool) (args : List Text) : Text → Act (List Text × Bool)
  | [] => return (args, false)
  | c :: cs => do
    if c = 'c' && isStart then
      let (args, _) ← setLetters isStart on args cs
      return (args, true)
    else if c = 'o' then
      match args with
      | [] =>
        printSettings on
        setLetters isStart on [] cs
      | name :: args =>
        setNamed name on
        setLetters isStart on args cs
    else
      if !(c = 'l' && isStart) then setLetter c on
      setLetters isStart on args cs

/-- What the options in front of arguments say: the arguments, whether they replace those that there
are even if there are none, and, at the start of a shell, whether a script is among them. -/
structure Chosen where
  arguments : List Text
  replaces : Bool := false
  hasScript : Bool := false

def choose (isStart : Bool) (n : Nat) (args : List Text) (hasScript : Bool) : Act Chosen :=
  match n, args with
  | 0, args => return { arguments := args, hasScript }
  | _, [] => return { arguments := [], hasScript }
  | n + 1, arg :: rest =>
    match arg with
    | ['-'] => do
      if !isStart then
        switch 'x' false
        switch 'v' false
      return { arguments := rest, hasScript }
    | ['-', '-'] => return { arguments := rest, replaces := true, hasScript }
    | sign :: letters =>
      if sign = '-' || sign = '+' then do
        let (rest, found) ← setLetters isStart (sign = '-') rest letters
        choose isStart n rest (hasScript || found)
      else return { arguments := arg :: rest, hasScript }
    | [] => return { arguments := arg :: rest, hasScript }

def setTask (args : List Text) : Act Nat := do
  if args.isEmpty then printVariables [] (·.value.isSome)
  else
    let chosen ← choose false (args.length + 1) args false
    if chosen.replaces || !chosen.arguments.isEmpty then
      modify fun m => { m with arguments := chosen.arguments, optionPlace := {} }
  return 0

end Localize.Shell.Builtin

import Localize.Shell.Builtin.Options

/-! The directory that a shell is in. -/

namespace Localize.Shell.Builtin

open Act

/-- A path without `.`, and without the names that a `..` behind them takes away. -/
def normalized (p : Path) : Text :=
  let names := p.segments.foldl (fun names s =>
    if Path.isIdle s then names
    else if s = ['.', '.'] then names.dropLast
    else names ++ [s]) []
  '/' :: Path.joinSegments names

def enter (m : Machine) (name : Text) : Option Path :=
  let p : Path := ⟨normalized (m.fileAt name)⟩
  match m.world.tree.find (m.fileAt name) with
  | .ok (.present _ .directory) => some p
  | _ => none

/-- The directories in which a relative name is looked for, the current one last. -/
def searched (m : Machine) (name : Text) : List Text :=
  let isDotted := match name with
    | ['.'] | ['.', '.'] | '.' :: '/' :: _ | '.' :: '.' :: '/' :: _ | '/' :: _ => true
    | _ => false
  if isDotted then [[]]
  else match m.value? "CDPATH".toList with
    | some t => (Text.fields ':' t) ++ [[]]
    | none => [[]]

def changeDirectory (args : List Text) : Act Nat := do
  let (_, args) ← parse (.ofString "LP") args
  let m ← get
  let (name, isBack) := match args with
    | [] => (m.valueOr "HOME" [], false)
    | ['-'] :: _ => (m.valueOr "OLDPWD" [], true)
    | t :: _ => (t, false)
  let places := searched m name
  let found := places.findSome? fun place =>
    let full := if place.isEmpty then name else place ++ '/' :: name
    (enter m full).map fun p => (p, !place.isEmpty)
  match found with
  | none => fail ("can't cd to ".toList ++ name)
  | some (p, isElsewhere) =>
    let old := m.value? "PWD".toList
    modify fun m => { m with directory := p }
    let exports (value : Text) (v : Variable) : Variable :=
      { v with value := some value, exported := true }
    setVariable "OLDPWD".toList (exports (old.getD []))
    setVariable "PWD".toList (exports (Raw.ofText p.spelled))
    if isBack || isElsewhere then printLine (Raw.ofText p.spelled)
    return 0

def printDirectory (args : List Text) : Act Nat := do
  let _ ← parse (.ofString "LP") args
  printLine (Raw.ofText (← get).directory.spelled)
  return 0

end Localize.Shell.Builtin

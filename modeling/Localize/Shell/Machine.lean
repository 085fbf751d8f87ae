import Localize.Shell.Glob.Paths
import Localize.Shell.Numeral
import Localize.Shell.Script
import Localize.Shell.Signal
import Localize.Shell.World

/-! What a shell keeps while it runs a script, and the steps that change it. A step may also leave
the loop, the function or the shell it is in. -/

namespace Localize.Shell

structure Variable where
  value : Option Text
  exported : Bool := false
  readOnly : Bool := false

structure OptionPlace where
  index : Nat := 1
  offset : Option Nat := none

/-- What comes back when a command ends: the variables that local ones hide, and the options if they
are local. -/
structure Frame where
  bindings : List (Text × Option Variable) := []
  options : Option (List Char) := none

structure Machine where
  world : World
  directory : Path
  /-- The streams, by the numbers that scripts use for them. -/
  descriptors : List (Nat × Nat)
  name : Text
  arguments : List Text := []
  bindings : List (Text × Variable) := []
  functions : List (Text × Command) := []
  documents : List (Nat × Word) := []
  nextDocument : Nat := 0
  options : List Char := []
  traps : List (Nat × Text) := []
  /-- The process of the script, and the one that runs now. -/
  mainProcess : Nat
  process : Nat
  parent : Nat
  background : Option Nat := none
  jobs : List (Nat × Outcome) := []
  status : Nat := 0
  /-- The status of the last script whose output became part of a command. -/
  substituted : Nat := 0
  line : Nat := 0
  /-- The lines of the script that were read so far. -/
  linesRead : Nat := 1
  /-- The same for the file that the shell was started with. -/
  scriptLinesRead : Nat := 1
  /-- What the shell does itself at the moment, for its complaints. -/
  task : Option Text := none
  /-- What a task has printed. It is written when the task ends. -/
  printed : Text := []
  loops : Nat := 0
  /-- A frame for each command that may have local variables. -/
  frames : List Frame := []
  optionPlace : OptionPlace := {}
  /-- A trace is being made, so that what it expands is not traced. -/
  isTracing : Bool := false

inductive Jump where
  | leaveLoops (n : Nat)
  | nextRound (n : Nat)
  | leaveFunction
  | exit
  | failure
  | killed (signal : Nat)
  deriving DecidableEq, Repr

/-- Where a script comes from: a text, a file that another script names, or what the shell was
started with. -/
inductive Origin where
  | text
  | file
  | start
  deriving DecidableEq, Repr

abbrev Act := ExceptT Jump (StateM Machine)

/-- Gives a key a value: in the place of the one that it has, at the end otherwise. -/
def putBinding {α : Type} (key : Text) (a : α) : List (Text × α) → List (Text × α)
  | [] => [(key, a)]
  | (k, b) :: rest => if k = key then (key, a) :: rest else (k, b) :: putBinding key a rest

namespace Machine

def hasOption (m : Machine) (c : Char) : Bool := m.options.contains c

def value? (m : Machine) (name : Text) : Option Text := (m.bindings.lookup name).bind (·.value)

def valueOr (m : Machine) (name : String) (t : Text) : Text := (m.value? name.toList).getD t

/-- What divides fields: an unset variable leaves the default. -/
def separators (m : Machine) : Text := m.valueOr "IFS" " \t\n".toList

def fileAt (m : Machine) (name : Text) : Path := Glob.fileAt m.directory name

/-- Where a name leads from the current directory. The empty name leads nowhere. -/
def find (m : Machine) (name : Text) : Except FileError Spot :=
  if name.isEmpty then .error .notFound else m.world.tree.find (m.fileAt name)

def isFile (m : Machine) (name : Text) : Bool :=
  !name.isEmpty && m.world.tree.isFile (m.fileAt name)

def environment (m : Machine) : List (Text × Text) :=
  m.bindings.filterMap fun (name, v) =>
    if v.exported then v.value.map fun value => (name, value) else none

end Machine

namespace Act

def write (stream : Nat) (t : Text) : Act Bool := do
  let m ← get
  if t.isEmpty then return true
  match (m.descriptors.lookup stream).bind fun id => m.world.write? id t with
  | some world =>
    set { m with world }
    return true
  | none => return false

def print (t : Text) : Act Unit := modify fun m => { m with printed := m.printed ++ t }

def printLine (t : Text) : Act Unit := print (t ++ ['\n'])

/-- A complaint says in which script and line it arose, and what the shell was doing. -/
def complain (t : Text) : Act Unit := do
  let m ← get
  let task := match m.task with
    | some task => task ++ ": ".toList
    | none => []
  let _ ← write 2 (m.name ++ ": ".toList ++ Text.ofNat m.line ++ ": ".toList ++ task ++ t ++ ['\n'])

def setStatus (n : Nat) : Act Unit := modify fun m => { m with status := n }

def fail {α : Type} (t : Text) : Act α := do
  complain t
  setStatus 2
  throw .failure

def failWith {α : Type} (about : Text) (s : String) : Act α := fail (about ++ s.toList)

def illegalNumber {α : Type} (t : Text) : Act α := fail ("Illegal number: ".toList ++ t)

def count (t : Text) : Act Nat :=
  match Numeral.count? t with
  | some n => pure n
  | none => illegalNumber t

def setVariable (name : Text) (change : Variable → Variable) : Act Unit := do
  let m ← get
  let old := (m.bindings.lookup name).getD { value := none }
  if old.readOnly then failWith name ": is read only"
  let v := change old
  set { m with bindings := putBinding name v m.bindings }
  if name = "OPTIND".toList then
    match v.value with
    | some t =>
      let n ← count t
      modify fun m => { m with optionPlace := { index := if n = 0 then 1 else n } }
    | none => pure ()

def assign (name value : Text) : Act Unit := do
  let exports := (← get).hasOption 'a'
  setVariable name fun v => { v with value := some value, exported := v.exported || exports }

def hide (name : Text) : Act Unit :=
  modify fun m =>
    match m.frames with
    | [] => m
    | frame :: frames =>
      if (frame.bindings.lookup name).isSome then m
      else
        let bindings := (name, m.bindings.lookup name) :: frame.bindings
        { m with frames := { frame with bindings } :: frames }

def keepOptions : Act Unit :=
  modify fun m =>
    match m.frames with
    | [] => m
    | frame :: frames =>
      { m with frames := { frame with options := some (frame.options.getD m.options) } :: frames }

def leaveFrame : Act Unit :=
  modify fun m =>
    match m.frames with
    | [] => m
    | frame :: frames =>
      let bindings := frame.bindings.foldl (fun bindings (name, old) =>
        match old with
        | some v => putBinding name v bindings
        | none => bindings.filter (·.1 ≠ name)) m.bindings
      { m with frames, bindings, options := frame.options.getD m.options }

def andFinally {α : Type} (act : Act α) (after : Act Unit) : Act α := do
  try
    let a ← act
    after
    return a
  catch jump =>
    after
    throw jump

end Act
end Localize.Shell

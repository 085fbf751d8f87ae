import Localize.Shell.Machine

/-! Leading streams to files, to documents and to each other. -/

namespace Localize.Shell

open Act

def FileError.describe : FileError → Text
  | .notFound => "No such file or directory".toList
  | .permissionDenied => "Permission denied".toList
  | .notADirectory => "Not a directory".toList
  | .isADirectory => "Is a directory".toList
  | .nameTooLong => "File name too long".toList
  | .tooManyLinks => "Too many levels of symbolic links".toList
  | _ => "Invalid argument".toList

def FileError.describeFor (missing : String) : FileError → Text
  | .notFound => missing.toList
  | .notADirectory => missing.toList
  | e => FileError.describe e

namespace Redirection

def nullDevice : Text := "/dev/null".toList

def openStream (s : Stream) : Act Nat := do
  let m ← get
  let (world, id) := m.world.openStream s
  set { m with world }
  return id

/-- The stream that a path to a device stands for, with `none` for one that is not open. -/
def device? (m : Machine) (name : Text) : Option (Option Nat) :=
  let numbered (t : Text) : Option (Option Nat) :=
    if t ≠ [] && t.all Text.isDigit then some (m.descriptors.lookup (Text.natValue t)) else none
  if name = "/dev/stdin".toList then some (m.descriptors.lookup 0)
  else if name = "/dev/stdout".toList then some (m.descriptors.lookup 1)
  else if name = "/dev/stderr".toList then some (m.descriptors.lookup 2)
  else match "/dev/fd/".toList.isPrefixOf? name with
    | some t => numbered t
    | none => none

def openInput? (m : Machine) (name : Text) : Except FileError (World × Nat) :=
  if name = nullDevice then .ok (m.world.openStream .null)
  else match device? m name with
    | some (some id) => .ok (m.world, id)
    | some none => .error .notFound
    | none =>
      match m.find name with
      | .ok (.present l (.file _)) => do
        m.world.tree.opened l
        return m.world.openStream (.file l 0 false true false)
      | .ok (.present _ _) => .ok (m.world.openStream .directory)
      | .ok (.absent _ _) => .error .notFound
      | .error e => .error e

def openOutput? (m : Machine) (name : Text) (truncates appends reads : Bool) :
    Except FileError (World × Nat) :=
  if name = nullDevice then .ok (m.world.openStream .null)
  else match device? m name with
    | some (some id) => .ok (m.world, id)
    | some none => .error .notFound
    | none =>
      let opened (tree : FileTree) (l : Location) :=
        { m.world with tree }.openStream (.file l 0 appends reads true)
      match m.find name with
      | .ok (.present l (.file _)) => do
        m.world.tree.opened l
        return opened (if truncates then m.world.tree.put l (.file .empty) else m.world.tree) l
      | .ok (.present _ _) => .error .isADirectory
      | .ok (.absent l false) => .ok (opened (m.world.tree.put l (.file .empty)) l)
      | .ok (.absent _ true) => .error .isADirectory
      | .error e => .error e

def cannotOpen {α : Type} (name reason : Text) : Act α :=
  fail ("cannot open ".toList ++ name ++ ": ".toList ++ reason)

def cannotCreate {α : Type} (name reason : Text) : Act α :=
  fail ("cannot create ".toList ++ name ++ ": ".toList ++ reason)

def input (name : Text) : Act Nat := do
  let m ← get
  match openInput? m name with
  | .ok (world, id) =>
    set { m with world }
    return id
  | .error e => cannotOpen name (FileError.describeFor "No such file" e)

def output (name : Text) (truncates appends reads : Bool) : Act Nat := do
  let m ← get
  match openOutput? m name truncates appends reads with
  | .ok (world, id) =>
    set { m with world }
    return id
  | .error e => cannotCreate name (FileError.describeFor "Directory nonexistent" e)

/-- With the option for it, a file that exists is not replaced. -/
def freshOutput (name : Text) : Act Nat := do
  let m ← get
  if m.hasOption 'C' && m.isFile name then
    cannotCreate name "File exists".toList
  else output name true false false

def connect (stream id : Nat) : Act Unit :=
  modify fun m =>
    { m with descriptors := (stream, id) :: m.descriptors.filter (·.1 ≠ stream) }

def disconnect (stream : Nat) : Act Unit :=
  modify fun m => { m with descriptors := m.descriptors.filter (·.1 ≠ stream) }

/-- A stream is copied from one with a single digit, or closed by a hyphen. -/
def isCopyTarget (target : Text) : Bool :=
  match target with
  | [c] => Text.isDigit c || c == '-'
  | _ => false

def badCopyTarget {α : Type} : Act α := do
  modify fun m => { m with line := m.linesRead }
  fail "Syntax error: Bad fd number".toList

/-- Makes a stream another name of the one that `target` numbers, or closes it. -/
def copy (stream : Nat) (target : Text) : Act Unit := do
  match target with
  | [c] =>
    if c = '-' then disconnect stream
    else if Text.digitValue c ≠ stream then
      match (← get).descriptors.lookup (Text.digitValue c) with
      | some id => connect stream id
      | none => fail (c :: ": Bad file descriptor".toList)
  | _ => badCopyTarget

def isIdle (stream : Nat) (channel : Channel) (target : Text) : Bool :=
  channel = .copy && target = Text.ofNat stream

def apply (stream : Nat) (channel : Channel) (target : Text) : Act Unit := do
  match channel with
  | .input => connect stream (← input target)
  | .output => connect stream (← freshOutput target)
  | .clobber => connect stream (← output target true false false)
  | .append => connect stream (← output target false true false)
  | .both => connect stream (← output target false false true)
  | .copy => copy stream target
  | .document _ => connect stream (← openStream (.source target))

end Redirection
end Localize.Shell

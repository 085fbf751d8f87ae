import Localize.Linter
import Localize.Shell.Raw

/-! What all processes of a run share: the files, the streams that are open, and the signals that
were sent. -/

namespace Localize.Shell

/-- An open stream: collected by whoever started the run, without content, or on a directory, a file
or an end of a pipe. A file has one position however many names the stream has. -/
inductive Stream where
  | captured (bytes : ByteArray)
  | null
  | directory
  | file (l : Location) (position : Nat) (appends reads writes : Bool)
  | source (left : Text)
  | sink (written : Text)

structure World where
  tree : FileTree
  streams : Array Stream := #[]
  lastProcess : Nat := 4242
  /-- The processes that run now. -/
  processes : List Nat := []
  /-- The signals that were not yet received, with the processes they are for. -/
  signals : List (Nat × Nat) := []

namespace World

def openStream (w : World) (s : Stream) : World × Nat :=
  ({ w with streams := w.streams.push s }, w.streams.size)

def bytesAt (w : World) (l : Location) : ByteArray :=
  match w.tree.node? l with
  | some (.file bytes) => bytes
  | _ => .empty

/-- `b` in place of what lies at `position`; what is missing before it is filled with zeros. -/
def overwrite (old : ByteArray) (position : Nat) (b : ByteArray) : ByteArray :=
  let gap : ByteArray := ⟨Array.replicate (position - old.size) 0⟩
  old.extract 0 position ++ gap ++ b ++ old.extract (position + b.size) old.size

def write? (w : World) (id : Nat) (t : Text) : Option World :=
  match w.streams[id]? with
  | some (.captured old) =>
    some { w with streams := w.streams.set! id (.captured (old ++ Raw.toBytes t)) }
  | some .null => some w
  | some (.file l position appends reads true) =>
    let old := w.bytesAt l
    let position := if appends then old.size else position
    some { w with
      tree := w.tree.put l (.file (overwrite old position (Raw.toBytes t)))
      streams := w.streams.set! id (.file l (position + t.length) appends reads true) }
  | some (.sink written) => some { w with streams := w.streams.set! id (.sink (written ++ t)) }
  | _ => none

def left (w : World) (id : Nat) : Except FileError Text :=
  match w.streams[id]? with
  | some .null => .ok []
  | some .directory => .error .isADirectory
  | some (.file l position _ true _) =>
    let bytes := w.bytesAt l
    .ok (Raw.ofBytes (bytes.extract position bytes.size))
  | some (.source t) => .ok t
  | _ => .error .permissionDenied

def advance (w : World) (id : Nat) (n : Nat) : World :=
  match w.streams[id]? with
  | some (.file l position appends reads writes) =>
    { w with streams := w.streams.set! id (.file l (position + n) appends reads writes) }
  | some (.source t) => { w with streams := w.streams.set! id (.source (t.drop n)) }
  | _ => w

def written (w : World) (id : Nat) : Text :=
  match w.streams[id]? with
  | some (.sink t) => t
  | _ => []

def captured (w : World) (id : Nat) : ByteArray :=
  match w.streams[id]? with
  | some (.captured b) => b
  | _ => .empty

end World

namespace World

def beginProcess (w : World) : World × Nat :=
  let process := w.lastProcess + 1
  ({ w with lastProcess := process, processes := process :: w.processes }, process)

def endProcess (w : World) (process : Nat) : World :=
  { w with
    processes := w.processes.filter (· ≠ process)
    signals := w.signals.filter (·.1 ≠ process) }

end World

inductive Outcome where
  | code (n : Nat)
  | killed (signal : Nat)
  deriving DecidableEq, Repr

namespace Outcome

def status : Outcome → Nat
  | .code n => n
  | .killed signal => 128 + signal

def exit : Outcome → Exit
  | .code n => .code n
  | .killed _ => .signal

end Outcome

end Localize.Shell

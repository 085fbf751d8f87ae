import Localize.Shell.Builtin

/-! What a command runs in: processes of their own, streams that are led elsewhere for a while,
loops, and the tasks of the shell. -/

namespace Localize.Shell

open Act

namespace Act

def takeSignal? : Act (Option Nat) := do
  let m ← get
  match m.world.signals.find? (·.1 = m.process) with
  | none => return none
  | some found =>
    set { m with world := { m.world with signals := m.world.signals.erase found } }
    return some found.2

def exitCode (status : Nat) : Outcome := .code (status % 256)

/-- Ends a process: its last trap runs, unless a signal ended it. `run` runs a script. -/
def conclude (run : Text → Act Unit) (act : Act Unit) : Act Outcome := do
  let jump ← try
      act
      pure none
    catch jump => pure (some jump)
  match jump with
  | some (.killed signal) => return .killed signal
  | _ =>
    let m ← get
    match m.traps.lookup Signal.exit with
    | none => return exitCode m.status
    | some action =>
      set { m with traps := m.traps.filter (·.1 ≠ Signal.exit) }
      let jump ← try
          run action
          pure none
        catch jump => pure (some jump)
      match jump with
      | some (.killed signal) => return .killed signal
      | some _ => return exitCode (← get).status
      | none => return exitCode m.status

/-- Runs an act in a process of its own. It begins as a copy of this one, as `start` changes it, and
leaves nothing behind but what all processes share. -/
def inProcess (start : Machine → Machine) (act : Act Outcome) : Act Outcome := do
  let outer ← get
  let (world, process) := outer.world.beginProcess
  let (result, inner) := act.run.run (start { outer with world, process, parent := outer.process })
  set { outer with world := inner.world.endProcess process }
  match result with
  | .ok outcome => return outcome
  | .error (.killed signal) => return .killed signal
  | .error _ => return exitCode inner.status

/-- A copy of a shell. Only signals that are ignored stay so. -/
def subshell (run : Text → Act Unit) (start : Machine → Machine) (act : Act Unit) : Act Outcome :=
  let start (m : Machine) : Machine := start { m with
    traps := m.traps.filter (·.2.isEmpty)
    jobs := []
    linesRead := m.scriptLinesRead }
  inProcess start (conclude run act)

def connected (stream id : Nat) (m : Machine) : Machine :=
  { m with descriptors := (stream, id) :: m.descriptors.filter (·.1 ≠ stream) }

/-- Takes over how a process ended: the status, and what is said of it. A process that this one has
become ends it as well. -/
def takeOver (outcome : Outcome) (isLast : Bool) : Act Unit := do
  match outcome with
  | .killed signal =>
    if isLast && (← get).traps.all (·.2.isEmpty) then throw (.killed signal)
    else
      Builtin.announce outcome
      setStatus outcome.status
  | .code n => setStatus n

/-- Leads streams elsewhere, one after another. If that fails they are as before. A stream that is
to become a copy is closed first, also for the complaint that there is nothing to copy. -/
def leadAll (targets : List (Nat × Channel × Text)) : Act Bool := do
  let descriptors := (← get).descriptors
  try
    let mut led := []
    for (stream, channel, target) in targets do
      if !Redirection.isIdle stream channel target then
        if channel = .copy && !led.contains stream then Redirection.disconnect stream
        Redirection.apply stream channel target
        led := stream :: led
    return true
  catch jump =>
    if jump = .failure then
      modify fun m => { m with descriptors }
      return false
    else throw jump

/-- Brings back what the streams were that redirections led elsewhere. Others stay as they are. -/
def bringBack (before : List (Nat × Nat)) (targets : List (Nat × Channel × Text)) : Act Unit :=
  modify fun m =>
    let isLed (binding : Nat × Nat) : Bool := targets.any fun (stream, channel, target) =>
      binding.1 = stream && !Redirection.isIdle stream channel target
    { m with descriptors := before.filter isLed ++ m.descriptors.filter (!isLed ·) }

def flush : Act Unit := do
  let m ← get
  set { m with printed := [] }
  if !(← write 1 m.printed) then
    complain (m.task.getD [] ++ ": I/O error".toList)
    modify fun m => { m with status := m.status ||| 1 }

def inTask (name : Text) (act : Act Nat) : Act Unit := do
  let task := (← get).task
  modify fun m => { m with task := some name, printed := [] }
  andFinally
    (do
      let status ← try act
        catch jump =>
          let _ ← write 1 (← get).printed
          throw jump
      setStatus status
      flush)
    (modify fun m => { m with task })

/-- What becomes of a loop after a part of it: the round goes on, the next one begins, or the loop
ends, possibly together with loops around it. -/
inductive Round where
  | goesOn
  | again
  | ends (jump : Option Jump)

def inLoop (act : Act Unit) : Act Round := do
  try
    act
    return .goesOn
  catch jump =>
    match jump with
    | .leaveLoops n => return .ends (if n ≤ 1 then none else some (.leaveLoops (n - 1)))
    | .nextRound n => return if n ≤ 1 then .again else .ends (some (.nextRound (n - 1)))
    | jump => throw jump

def endLoop (status : Nat) (jump : Option Jump) : Act Unit := do
  setStatus status
  match jump with
  | some jump => throw jump
  | none => return ()

def nested (act : Act Unit) : Act Unit := do
  let loops := (← get).loops
  modify fun m => { m with loops := loops + 1 }
  andFinally act (modify fun m => { m with loops })

def inFunction (args : List Text) (act : Act Unit) : Act Unit := do
  let m ← get
  set { m with arguments := args, optionPlace := {}, loops := 0 }
  andFinally
    (try act
      catch jump =>
        if jump = .leaveFunction then pure () else throw jump)
    (modify fun m' =>
      { m' with arguments := m.arguments, optionPlace := m.optionPlace, loops := m.loops })

def trace (stream : Option Nat) (front : Text) (words : List Text) : Act Unit := do
  let m ← get
  let t := front ++ Text.joined [' '] words ++ ['\n']
  match stream.bind fun id => m.world.write? id t with
  | some world => set { m with world }
  | none => return ()

def recovering (isFatal : Bool) (act : Act Unit) : Act Unit := do
  try act
  catch jump => if jump = .failure && !isFatal then pure () else throw jump

end Act
end Localize.Shell

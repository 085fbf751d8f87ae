import Localize.Shell.Builtin.Variables

/-! Sending signals, and waiting for and preparing for them. -/

namespace Localize.Shell.Builtin

open Act

def killUsage : Text :=
  "Usage: kill [-s sigspec | -signum | -sigspec] [pid | job]... or\nkill -l [exitstatus]".toList

/-- What a signal does to the process that it is for. It waits until a trap for it can run. -/
def receive (signal : Nat) : Act Unit := do
  let m ← get
  let trapped := if signal = Signal.kill || signal = 19 then none else m.traps.lookup signal
  match trapped with
  | some [] => return ()
  | some _ =>
    set { m with world := { m.world with
      signals := m.world.signals ++ [(m.process, signal)] } }
  | none =>
    if Signal.isHarmless signal || Signal.stops signal then return ()
    else throw (.killed signal)

def send (signal process : Nat) : Act Bool := do
  let m ← get
  if process = m.process then
    receive signal
    return true
  else if m.world.processes.contains process then
    if !Signal.isHarmless signal then
      set { m with world := { m.world with signals := m.world.signals ++ [(process, signal)] } }
    return true
  else return (m.jobs.lookup process).isSome

def listSignals (args : List Text) : Act Nat := do
  match args with
  | [] =>
    printLine ['0']
    for name in Signal.names.drop 1 do printLine name
  | t :: _ =>
    let n ← count t
    let signal := if 128 < n then n - 128 else n
    if 0 < signal && signal < Signal.limit then printLine (Signal.name signal)
    else fail ("invalid signal number or exit status: ".toList ++ t)
  return 0

def sendAll (signal : Nat) (args : List Text) : Act Nat := do
  let mut status := 0
  for t in args do
    if t.head? = some '%' then fail ("No such job: ".toList ++ t)
    let process ← count t
    if !(← send signal process) then
      complain "No such process\n".toList
      status := 1
  return status

def kill (args : List Text) : Act Nat := do
  let isOption := match args with
    | ('-' :: _) :: _ => true
    | _ => false
  match if isOption then Signal.ofText? 1 ((args.headD []).drop 1) else none with
  | some signal => if args.tail.isEmpty then fail killUsage else sendAll signal args.tail
  | none =>
    let (found, args) ← parse { plain := ['l'], valued := ['s'] } args
    let mut signal : Option Nat := none
    for (c, t) in found do
      if c = 's' then
        match Signal.ofText? 1 t with
        | some n => signal := some n
        | none => fail ("invalid signal number or name: ".toList ++ t)
    if hasLetter 'l' found then
      if signal.isSome then fail killUsage else listSignals args
    else if args.isEmpty then fail killUsage
    else sendAll (signal.getD Signal.terminate) args

def printTraps : Act Unit := do
  for signal in List.range Signal.limit do
    match (← get).traps.lookup signal with
    | some action =>
      printLine ("trap -- ".toList ++ singleQuoted action ++ ' ' :: Signal.name signal)
    | none => pure ()

/-- Sets what is run when signals arrive. A hyphen, or no action at all, brings the default back. -/
def trap (args : List Text) : Act Nat := do
  let (_, args) ← parse {} args
  match args with
  | [] =>
    printTraps
    return 0
  | first :: rest =>
    let isNumber := first ≠ [] && first.all Text.isDigit && (Signal.ofText? 0 first).isSome
    let (action, names) := if rest.isEmpty || isNumber then (none, args) else (some first, rest)
    for name in names do
      match Signal.ofText? 0 name with
      | none =>
        let _ ← write 2 ("trap: ".toList ++ name ++ ": bad trap\n".toList)
        return 1
      | some signal =>
        modify fun m =>
          match action.filter (· ≠ ['-']) with
          | some action => { m with traps := withTrap signal action m.traps }
          | none => { m with traps := m.traps.filter (·.1 ≠ signal) }
    return 0
where
  withTrap (signal : Nat) (action : Text) (traps : List (Nat × Text)) : List (Nat × Text) :=
    (signal, action) :: traps.filter (·.1 ≠ signal)

def announce (outcome : Outcome) : Act Unit := do
  match outcome with
  | .code _ => pure ()
  | .killed signal =>
    if signal ≠ 2 && signal ≠ 13 then
      let _ ← write 2 (Signal.description signal ++ ['\n'])

def waitFor (args : List Text) : Act Nat := do
  let (_, args) ← parse {} args
  let mut status := 0
  for t in args do
    if t.head? = some '%' then fail ("No such job: ".toList ++ t)
    let process ← count t
    match (← get).jobs.lookup process with
    | some outcome =>
      announce outcome
      status := outcome.status
    | none => status := 127
  return status

end Localize.Shell.Builtin

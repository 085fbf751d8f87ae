import Localize.Shell.Expansion
import Localize.Shell.Process
import Localize.Shell.Program.Concatenate
import Localize.Shell.Program.Echo

/-! Running scripts, and the programs that scripts and lint commands start. `launch` is the launcher
that the program is run with; what only a session at a terminal needs, such as aliases and the
control of jobs, is left out of the shell. Every step takes one from a limit that no script of a
lint command reaches. -/

namespace Localize.Shell

open Act

def overrun {α : Type} : Act α := throw (.killed Signal.kill)

def scriptText (t : Text) : Text := t.filter (· ≠ '\x00')

def lastLines (t : Text) (after : Text) : Text := t.take (t.length - after.length)

/-- The lines of a text up to the one with a number, counted from `first`. -/
def linesUpTo (n : Nat) (t : Text) : Text :=
  match n with
  | 0 => []
  | n + 1 =>
    let line := t.takeWhile (· ≠ '\n')
    match t.drop line.length with
    | [] => line
    | c :: rest => line ++ c :: linesUpTo n rest

/-- What names a command: the name that counts as a task at first, and the command behind `command`.
-/
structure Called where
  name : Text
  arguments : List Text
  /-- The command was called through `command`. -/
  isPlain : Bool := false
  usualPath : Bool := false

def Called.ofFields? (m : Machine) (n : Nat) (isPlain usualPath : Bool) :
    List Text → Option Called
  | [] => none
  | name :: args =>
    let isFunction := !isPlain && (m.functions.lookup name).isSome
    match n with
    | 0 => some ⟨name, args, isPlain, usualPath⟩
    | n + 1 =>
      if name = "command".toList && !isFunction then
        match Builtin.behindCommand usualPath args with
        | .plain usualPath args => Called.ofFields? m n true usualPath args
        | .other => some ⟨name, args, isPlain, usualPath⟩
      else some ⟨name, args, isPlain, usualPath⟩

inductive Runner where
  | function (body : Command)
  | builtin (b : Builtin)
  | program

def Called.runner (m : Machine) (c : Called) : Runner :=
  let function := if c.isPlain then none else m.functions.lookup c.name
  match function with
  | some body => if Builtin.isSpecial c.name then .program else .function body
  | none =>
    match Builtin.ofName? c.name with
    | some b => .builtin b
    | none => .program

def Called.keepsAssignments (c : Called) : Runner → Bool
  | .builtin _ => !c.isPlain && Builtin.isSpecial c.name
  | _ => false

/-- The variables of a new shell: what its surroundings pass on, and what it sets itself. -/
def initialVariables (m : Machine) : List (Text × Variable) :=
  let passedOn := m.environment.map fun (name, value) =>
    (name, ({ value := some value, exported := true } : Variable))
  let set (vs : List (Text × Variable)) (name : String) (value : Text) (exported : Bool) :=
    let old := (vs.lookup name.toList).getD { value := none }
    putBinding name.toList
      { old with value := some value, exported := old.exported || exported } vs
  let default (vs : List (Text × Variable)) (name : String) (value : Text) :=
    if (vs.lookup name.toList).isSome then vs else set vs name value false
  let vs := set passedOn "IFS" defaultSeparators false
  let vs := set vs "OPTIND" ['1'] false
  let vs := set vs "PPID" (Text.ofNat m.parent) false
  let vs := set vs "PWD" (Raw.ofText m.directory.spelled) true
  let vs := default vs "PATH" Program.defaultPath
  let vs := default vs "PS1" "# ".toList
  let vs := default vs "PS2" "> ".toList
  default vs "PS4" "+ ".toList

def newShell (m : Machine) (name : Text) : Machine where
  world := m.world
  directory := m.directory
  descriptors := m.descriptors
  name
  bindings := initialVariables m
  traps := m.traps.filter (·.2.isEmpty)
  mainProcess := m.process
  process := m.process
  parent := m.parent

mutual

/-- Runs a command. A tested one does not end a script that ends at the first failure, and nothing
follows the last one in its process. -/
def evaluate (n : Nat) (tested isLast : Bool) (c : Command) : Act Unit :=
  match n with
  | 0 => overrun
  | n + 1 => do
    if (← get).hasOption 'n' then return ()
    handleSignals n
    let checks ← match c with
      | .nothing => pure false
      | .negation c => do
        evaluate n true false c
        setStatus (if (← get).status = 0 then 1 else 0)
        pure false
      | .redirected line c rs => do
        modify fun m => { m with line }
        let targets ← redirectTargets n rs
        let streams := (← get).descriptors
        andFinally
          (do
            let isLed ← leadAll targets
            if isLed then evaluate n tested false c)
          (bringBack streams targets)
        pure false
      | .simple line assignments words rs => do
        runSimple n tested isLast line assignments words rs
        pure true
      | .subshell line c rs => do
        modify fun m => { m with line }
        let targets ← redirectTargets n rs
        let outcome ← subshell (runText n false) id do
          for (stream, channel, target) in targets do Redirection.apply stream channel target
          evaluate n tested true c
        takeOver outcome isLast
        pure true
      | .background c => do
        let (world, id) := (← get).world.openStream .null
        modify fun m => { m with world }
        let process := (← get).world.lastProcess + 1
        let outcome ← subshell (runText n false) (connected 0 id) (evaluate n false true c)
        modify fun m =>
          { m with background := some process, jobs := (process, outcome) :: m.jobs, status := 0 }
        pure true
      | .pipeline cs => do
        runPipeline n tested (← get).status none cs
        pure true
      | .both left right => do
        evaluate n true false left
        if (← get).status = 0 then evaluate n tested isLast right
        pure false
      | .either left right => do
        evaluate n true false left
        if (← get).status ≠ 0 then evaluate n tested isLast right
        pure false
      | .sequence left right => do
        evaluate n tested false left
        evaluate n tested isLast right
        pure false
      | .choice test yes no => do
        evaluate n true false test
        if (← get).status = 0 then evaluate n tested isLast yes
        else match no with
          | .nothing => setStatus 0
          | no => evaluate n tested isLast no
        pure false
      | .loop goal test body => do
        nested (runLoop n tested goal test body 0)
        pure false
      | .each line name words body => do
        modify fun m => { m with line }
        let fields ← expandEach n words
        nested (runEach n tested name body fields 0)
        pure false
      | .select line subject clauses => do
        modify fun m => { m with line }
        let subject ← Expansion.text (substitute n) subject
        runClauses n tested isLast subject clauses
        pure false
      | .function name body => do
        modify fun m => { m with functions := putBinding name body m.functions, status := 0 }
        pure false
    handleSignals n
    let m ← get
    if checks && !tested && m.hasOption 'e' && m.status ≠ 0 then throw .exit

def handleSignals (n : Nat) : Act Unit :=
  match n with
  | 0 => overrun
  | n + 1 => do
    match ← takeSignal? with
    | none => return ()
    | some signal =>
      let m ← get
      match m.traps.lookup signal with
      | some [] => pure ()
      | some action =>
        runText n false action
        setStatus m.status
      | none => throw (.killed signal)
      handleSignals n

def redirectTargets (n : Nat) : List Redirect → Act (List (Nat × Channel × Text))
  | [] => return []
  | .mk stream channel w :: rs =>
    match n with
    | 0 => overrun
    | n + 1 => do
      let target ← match channel with
        | .document k => do
          Expansion.document (substitute n) (((← get).documents.lookup k).getD [])
        | .copy => do
          let t ← Expansion.text (substitute n) w
          if Redirection.isCopyTarget t then pure t else Redirection.badCopyTarget
        | _ => Expansion.text (substitute n) w
      return (stream, channel, target) :: (← redirectTargets n rs)

def expandEach (n : Nat) : List Word → Act (List Text)
  | [] => return []
  | w :: ws =>
    match n with
    | 0 => overrun
    | n + 1 => do
      let fields ← Expansion.fields (substitute n) w
      return fields ++ (← expandEach n ws)

/-- The fields of the words of a command. Behind a task that declares, an assignment stays one
field. -/
def expandAll (n : Nat) (fields : List Text) : List Word → Act (List Text)
  | [] => return fields
  | w :: ws =>
    match n with
    | 0 => overrun
    | n + 1 => do
      let called := Called.ofFields? (← get) fields.length false false fields
      let declares := called.any fun c => Builtin.declares c.name
      let more ← match if declares then w.assignment? else none with
        | some (.mk name value) => do
          pure [name ++ '=' :: (← Expansion.assigned (substitute n) value)]
        | none => Expansion.fields (substitute n) w
      expandAll n (fields ++ more) ws

def substitute (n : Nat) (c : Command) : Act Text :=
  match n with
  | 0 => overrun
  | n + 1 => do
    match c with
    | .nothing => return []
    | c =>
      let (world, id) := (← get).world.openStream (.sink [])
      modify fun m => { m with world }
      let outcome ← subshell (runText n false) (connected 1 id) (evaluate n false true c)
      Builtin.announce outcome
      let m ← get
      set { m with substituted := outcome.status }
      let t := (m.world.written id).filter (· ≠ '\x00')
      return (t.reverse.dropWhile (· == '\n')).reverse

/-- Runs the commands of a pipeline, each in a process of its own on the output of the one before.
They all begin with the same status. -/
def runPipeline (n : Nat) (tested : Bool) (status : Nat) (input : Option Nat) :
    List Command → Act Unit
  | [] => return ()
  | c :: cs =>
    match n with
    | 0 => overrun
    | n + 1 => do
      let m ← get
      let (world, output) := m.world.openStream (.sink [])
      set { m with world }
      let start (m : Machine) : Machine :=
        let m := { m with status }
        let m := match input with
          | some id => connected 0 id m
          | none => m
        if cs.isEmpty then m else connected 1 output m
      let outcome ← subshell (runText n false) start (evaluate n tested true c)
      takeOver outcome false
      let m ← get
      let (world, next) := m.world.openStream (.source (m.world.written output))
      set { m with world }
      runPipeline n tested status (some next) cs

def runLoop (n : Nat) (tested goal : Bool) (test body : Command) (status : Nat) : Act Unit :=
  match n with
  | 0 => overrun
  | n + 1 => do
    match ← inLoop (evaluate n true false test) with
    | .ends jump => endLoop status jump
    | .again => runLoop n tested goal test body status
    | .goesOn =>
      if ((← get).status == 0) != goal then setStatus status
      else match ← inLoop (evaluate n tested false body) with
        | .ends jump => endLoop (← get).status jump
        | _ => runLoop n tested goal test body (← get).status

def runEach (n : Nat) (tested : Bool) (name : Text) (body : Command) (fields : List Text)
    (status : Nat) : Act Unit :=
  match n with
  | 0 => overrun
  | n + 1 => do
    match fields with
    | [] => setStatus status
    | t :: ts =>
      assign name t
      match ← inLoop (evaluate n tested false body) with
      | .ends jump => endLoop (← get).status jump
      | _ => runEach n tested name body ts (← get).status

def runClauses (n : Nat) (tested isLast : Bool) (subject : Text) : List Clause → Act Unit
  | [] => setStatus 0
  | .mk patterns body :: clauses =>
    match n with
    | 0 => overrun
    | n + 1 => do
      if ← anyMatches n subject patterns then
        match body with
        | .nothing => setStatus 0
        | body => evaluate n tested isLast body
      else runClauses n tested isLast subject clauses

def anyMatches (n : Nat) (subject : Text) : List Word → Act Bool
  | [] => return false
  | w :: ws =>
    match n with
    | 0 => overrun
    | n + 1 => do
      let p ← Expansion.pattern (substitute n) w
      if Glob.isMatch p subject then return true else anyMatches n subject ws

/-- Runs a simple command: its words are expanded first, then its streams are led elsewhere, then
its assignments are made. -/
def runSimple (n : Nat) (tested isLast : Bool) (line : Nat) (assignments : List Assignment)
    (words : List Word) (rs : List Redirect) : Act Unit :=
  match n with
  | 0 => overrun
  | n + 1 => do
    modify fun m => { m with line, substituted := 0 }
    let fields ← expandAll n [] words
    let m ← get
    let called := Called.ofFields? m fields.length false false fields
    let runner := called.map fun c => c.runner m
    let isFatal := match called, runner with
      | some c, some r => c.keepsAssignments r
      | _, _ => false
    let keeps := isFatal || called.isNone
    let replaces := match runner with
      | some (.builtin .replace) => true
      | _ => false
    let targets ← redirectTargets n rs
    let streams := (← get).descriptors
    let before := streams.lookup 2
    if !keeps then modify fun m => { m with frames := {} :: m.frames }
    andFinally
      (do
        let isLed ← leadAll targets
        if !isLed then
          if isFatal then throw .failure
        else
          let isExported := replaces && 1 < fields.length
          let shown ← assignAll n keeps isExported assignments
          if (← get).hasOption 'x' && !(← get).isTracing then
            modify fun m => { m with isTracing := true }
            let front ← Expansion.document (substitute n)
              (Word.ofDocument ((← get).valueOr "PS4" []))
            modify fun m => { m with isTracing := false }
            trace before front (shown ++ fields)
          match called, runner with
          | some c, some r => runCalled n tested isLast isFatal c r
          | _, _ => modify fun m => { m with status := m.substituted })
      (do
        if !replaces then bringBack streams targets
        if !keeps then leaveFrame)

def assignAll (n : Nat) (keeps isExported : Bool) : List Assignment → Act (List Text)
  | [] => return []
  | .mk name value :: rest =>
    match n with
    | 0 => overrun
    | n + 1 => do
      let t ← Expansion.assigned (substitute n) value
      if keeps then
        assign name t
        if isExported then setVariable name fun v => { v with exported := true }
      else
        hide name
        setVariable name fun v => { v with value := some t, exported := true }
      return (name ++ '=' :: t) :: (← assignAll n keeps isExported rest)

def runCalled (n : Nat) (tested isLast isFatal : Bool) (c : Called) (r : Runner) : Act Unit :=
  match n with
  | 0 => overrun
  | n + 1 =>
    match r with
    | .function body => inFunction c.arguments (evaluate n tested false body)
    | .builtin b =>
      recovering isFatal (match b with
        | .task run => inTask c.name (run c.arguments)
        | .command => inTask c.name (Builtin.describeCommand c.arguments)
        | .evaluate => inTask c.name do
          runText n tested (Text.joined [' '] c.arguments)
          return (← get).status
        | .source => inTask c.name (runSource n c.arguments)
        | .replace => inTask c.name (runReplacement n c.arguments))
    | .program => do
      let m ← get
      let searchPath := if c.usualPath then Program.defaultPath else Program.searchPath m
      match Program.locate m searchPath c.name with
      | .found _ program =>
        let outcome ← inProcess id (runProgram n program c.name c.arguments)
        takeOver outcome isLast
      | .denied _ =>
        complain (c.name ++ ": Permission denied".toList)
        setStatus 126
      | .missing =>
        complain (c.name ++ ": not found".toList)
        setStatus 127
      | .noFile =>
        complain (c.name ++ ": Permission denied".toList)
        setStatus 127

def runReplacement (n : Nat) (args : List Text) : Act Nat :=
  match n with
  | 0 => overrun
  | n + 1 => do
    match if args.head? = some ['-', '-'] then args.tail else args with
    | [] => return 0
    | name :: args =>
      let m ← get
      match Program.locate m (Program.searchPath m) name with
      | .found _ program =>
        modify fun m => { m with traps := m.traps.filter (·.2.isEmpty) }
        match ← runProgram n program name args with
        | .killed signal => throw (.killed signal)
        | .code status =>
          setStatus status
          throw .exit
      | .missing =>
        complain (name ++ ": not found".toList)
        setStatus 127
        throw .exit
      | _ =>
        complain (name ++ ": Permission denied".toList)
        setStatus 126
        throw .exit

def runSource (n : Nat) (args : List Text) : Act Nat :=
  match n with
  | 0 => overrun
  | n + 1 => do
    match args with
    | [] => return 0
    | name :: _ =>
      let m ← get
      let path ← if name.contains '/' then pure name
        else match (Text.fields ':' (Program.searchPath m)).find? fun d =>
            m.isFile (if d.isEmpty then name else d ++ '/' :: name) with
          | some d => pure (if d.isEmpty then name else d ++ '/' :: name)
          | none => failWith name ": not found"
      let id ← Redirection.input path
      let t := ((← get).world.left id).toOption.getD []
      let m ← get
      set { m with task := some path }
      andFinally
        (do
          try runLines n false .file { rest := scriptText t } 0
          catch jump => if jump = .leaveFunction then pure () else throw jump)
        (modify fun m' => { m' with task := m.task, linesRead := m.linesRead })
      return (← get).status

def runText (n : Nat) (tested : Bool) (t : Text) : Act Unit :=
  match n with
  | 0 => overrun
  | n + 1 => do
    let linesRead := (← get).linesRead
    andFinally (runLines n tested .text { rest := t } 0)
      (modify fun m => { m with linesRead })

/-- Runs a script, one line of commands after another. The status is that of the last one. -/
def runLines (n : Nat) (tested : Bool) (origin : Origin) (r : Reader) (status : Nat) : Act Unit :=
  match n with
  | 0 => overrun
  | n + 1 => do
    let m ← get
    let echoes := origin ≠ .text && m.hasOption 'v'
    let reader : Reader := { r with
      nextDocument := m.nextDocument
      documents := [] }
    match reader.readLine with
    | .error fault =>
      if echoes then
        let _ ← write 2 (linesUpTo (fault.line + 1 - r.line) r.rest)
      modify fun m => { m with line := fault.line, linesRead := fault.line }
      fail fault.message
    | .ok (line, after) =>
      if echoes then
        let _ ← write 2 (lastLines r.rest after.rest)
      modify fun m => { m with
        documents := after.documents ++ m.documents
        nextDocument := after.nextDocument
        linesRead := after.line
        scriptLinesRead := if origin = .start then after.line else m.scriptLinesRead }
      match line with
      | .finished => setStatus status
      | .commands c _ =>
        evaluate n tested false c
        match c with
        | .nothing => runLines n tested origin after status
        | _ => runLines n tested origin after (← get).status

def runProgram (n : Nat) (program : Program) (name : Text) (args : List Text) : Act Outcome :=
  match n with
  | 0 => overrun
  | n + 1 => do
    match program with
    | .concatenate => return .code (← Program.Concatenate.run args)
    | .echo => return .code (← Program.Echo.run args)
    | .shell =>
      let m ← get
      set (newShell m name)
      conclude (runText n false) (runShell n args)

def runShell (n : Nat) (args : List Text) : Act Unit :=
  match n with
  | 0 => overrun
  | n + 1 => do
    let chosen ← Builtin.choose true (args.length + 1) args false
    let m ← get
    if chosen.hasScript then
      match chosen.arguments with
      | [] => fail "-c requires an argument".toList
      | t :: rest =>
        set { m with name := rest.headD m.name, arguments := rest.tail }
        modify fun m => { m with line := 1 }
        runText n false t
        if (← get).hasOption 's' then runInput n
    else match m.hasOption 's', chosen.arguments with
      | false, file :: rest =>
        let id ← Redirection.input file
        let t := ((← get).world.left id).toOption.getD []
        modify fun m => { m with name := file, arguments := rest }
        runLines n false .start { rest := scriptText t } 0
      | _, rest =>
        set { m with arguments := rest, options := 's' :: m.options.filter (· ≠ 's') }
        runInput n

def runInput (n : Nat) : Act Unit :=
  match n with
  | 0 => overrun
  | n + 1 => do
    let m ← get
    match m.descriptors.lookup 0 with
    | none => return ()
    | some id =>
      let t := (m.world.left id).toOption.getD []
      set { m with world := m.world.advance id t.length }
      runLines n false .start { rest := scriptText t } 0

end

def stepLimit : Nat := 100000

def firstVariables : List (Text × Variable) :=
  [("HOME".toList, { value := some "/root".toList, exported := true }),
    ("PATH".toList, { value := some Program.defaultPath, exported := true })]

/-- Starts a command: a known program runs, and everything else is refused. -/
def launch : Launcher := fun words directory tree =>
  match words with
  | [] => (.refused .notFound, tree)
  | name :: args =>
    let program := if name.contains '/' then Program.at? name else Program.named? name
    if words.any (·.contains '\x00') then (.refused .nulInCommand, tree)
    else match program with
      | none => (.refused (Program.refusal tree directory name), tree)
      | some program =>
        let (world, process) := World.beginProcess
          { tree, streams := #[.null, .captured .empty, .captured .empty] }
        let start : Machine := {
          world
          directory
          descriptors := [(0, 0), (1, 1), (2, 2)]
          name := Raw.ofText name
          bindings := firstVariables
          mainProcess := process
          process
          parent := process - 1 }
        let (result, m) :=
          (runProgram stepLimit program (Raw.ofText name) (args.map Raw.ofText)).run.run start
        let outcome : Outcome := match result with
          | .ok outcome => outcome
          | .error (.killed signal) => .killed signal
          | .error _ => exitCode m.status
        (.finished (m.world.captured 1) (m.world.captured 2) outcome.exit, m.world.tree)

end Localize.Shell

import Localize.CommandLine.Arguments
import Localize.Console.Printer
import Localize.Log.Filter
import Localize.Run.Events

/-! Carrying out what the arguments of the program ask for. -/

namespace Localize.CommandLine

structure Start where
  arguments : List Text
  directory : Path
  input : ByteArray := .empty

inductive ExitStatus where
  | success
  /-- Strings were skipped although none may be. -/
  | failure
  | error
  /-- Printing broke off. -/
  | panic
  deriving DecidableEq, Repr

def ExitStatus.code : ExitStatus → Nat
  | .success => 0
  | .failure => 1
  | .error => 2
  | .panic => 101

/-- What the program leaves behind. What is said of a panic is not among the errors. -/
structure Completion where
  status : ExitStatus := .success
  output : List Console.Piece := []
  errors : List Console.Piece := []
  events : List Log.Event := []
  verbose : Bool := false
  tree : FileTree

inductive Failure where
  | config (e : Config.LoadFailure)
  | flawed (f : Config.Flaw)
  | report (file : Path) (e : FileError)
  | input
  | messages (e : Localizer.MessagesFailure)
  | expression (e : Text)
  | write (e : Localizer.WriteFailure)
  | alreadyThere
  | notCreated (e : FileError)
  deriving DecidableEq, Repr

def Failure.message : Failure → Text
  | .config e => e.message
  | .flawed f => f.message
  | .report file e =>
    "Failed to read lint report: ".toList ++ file.quoted ++ ": ".toList ++ e.message
  | .input => "Failed to read lint report from stdin: ".toList ++ FileError.notUtf8.message
  | .messages e => e.message
  | .expression e => e
  | .write e => e.message
  | .alreadyThere => Config.fileName ++ " already exists".toList
  | .notCreated e => e.message

def Failure.lines (f : Failure) : List Console.Piece :=
  [.plain ("Error: ".toList ++ f.message ++ ['\n'])]

def Completion.failed (events : List Log.Event) (f : Failure) (tree : FileTree) : Completion :=
  { status := .error, errors := f.lines, events, tree }

/-- The configuration of the directory, with what the options put in its place. -/
def prepare (o : RunOptions) (directory : Path) (tree : FileTree) :
    Except Failure Config.Loaded := do
  let loaded ← (Config.load tree directory).mapError .config
  let config := o.override loaded.config
  match config.flaw? with
  | some flaw => throw (.flawed flaw)
  | none => return { loaded with config }

/-- The name by which the standard input is given as a report. -/
def standardInput : Path := ⟨['-']⟩

def RunOptions.readsInput (o : RunOptions) : Bool :=
  o.report.any fun name => Path.Same ⟨name⟩ standardInput

def source (o : RunOptions) (start : Start) (tree : FileTree) :
    Except Failure Report.Source :=
  match o.report with
  | none => .ok .linter
  | some name =>
    if o.readsInput then
      match Text.decode? start.input with
      | some t => .ok (.text t)
      | none => .error .input
    else ((tree.readText (start.directory.join ⟨name⟩)).map .text).mapError (.report ⟨name⟩)

def loadedEvent (l : Config.Loaded) : Log.Event where
  level := .debug
  target := "autotranslate::cli::run".toList
  message := "loaded configuration".toList
  fields := [("project_root".toList, l.projectRoot.quoted),
    ("from_file".toList, (if l.fromFile then "true" else "false").toList)]

def told (o : RunOptions) (projectRoot : Path) (r : Account) : List Console.Write :=
  if o.json then [some (Console.summaryJsonLines r.summary)]
  else Console.accountLines r projectRoot o.verbose

/-- What a run whose writes succeeded leaves behind. -/
def Completion.ofAccount (o : RunOptions) (projectRoot : Path) (r : Account)
    (events : List Log.Event) (tree : FileTree) : Completion where
  status :=
    if Console.breaksOff (told o projectRoot r) then .panic
    else if o.check && 0 < r.summary.stringsSkipped then .failure
    else .success
  output := Console.written (told o projectRoot r)
  errors := Console.lintWarning r.lintStatus
  events := events
  tree := tree

def run (engine : Engine) (launch : Launcher) (o : RunOptions) (start : Start) (tree : FileTree) :
    Completion :=
  match prepare o start.directory tree with
  | .error f => .failed [] f tree
  | .ok loaded =>
    let events := [loadedEvent loaded]
    match source o start tree with
    | .error f => .failed events f tree
    | .ok source =>
      let file := loaded.config.messagesFile loaded.projectRoot
      match Localizer.loadDictionary tree file with
      | .error e => .failed events (.messages e) tree
      | .ok dictionary =>
        let events := events ++ [Localizer.indexed file dictionary]
        match Localizer.compile engine loaded.config loaded.projectRoot dictionary with
        | .error e => .failed events (.expression e) tree
        | .ok localizer =>
          let done := localizer.run launch source o.dryRun tree
          let events := events ++ done.events localizer
          match done.course.failure with
          | some e => .failed events (.write e) done.course.tree
          | none =>
            .ofAccount o loaded.projectRoot (done.account localizer o.dryRun) events
              done.course.tree

/-- Writes the default configuration into the directory, unless there is one. -/
def init (directory : Path) (tree : FileTree) : Completion :=
  let file := directory.join ⟨Config.fileName⟩
  if tree.pathExists file then .failed [] .alreadyThere tree
  else match tree.writeText file (Config.fileText {}) with
    | .error e => .failed [] (.notCreated e) tree
    | .ok tree =>
      { output := [.styled { colour := .green } Console.tick,
          .plain (" Created ".toList ++ Config.fileName ++ ['\n'])]
        tree }

def showPage (p : Page) (tree : FileTree) : Completion := { output := [.plain p.text], tree }

def execute (engine : Engine) (launch : Launcher) (start : Start) (tree : FileTree) :
    Except UsageError Completion :=
  match request start.arguments with
  | .error e => .error e
  | .ok (.page p) => .ok (showPage p tree)
  | .ok .nothing => .ok (showPage .program tree)
  | .ok (.command .init) => .ok (init start.directory tree)
  | .ok (.command (.run o)) => .ok { run engine launch o start tree with verbose := o.verbose }

end Localize.CommandLine

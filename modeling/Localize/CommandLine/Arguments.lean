import Localize.CommandLine.Page
import Localize.Config

/-! What the arguments of the program ask for. -/

namespace Localize.CommandLine

inductive UsageError where
  | unknownArgument
  | unknownCommand
  | givenTwice
  | missingValue
  | unexpectedValue
  deriving DecidableEq, Repr

def UsageError.message : UsageError → Text
  | .unknownArgument => "unexpected argument".toList
  | .unknownCommand => "unrecognized subcommand".toList
  | .givenTwice => "an argument cannot be used multiple times".toList
  | .missingValue => "a value is required".toList
  | .unexpectedValue => "unexpected value".toList

inductive Setting where
  | primaryLocale
  | messagesRoot
  | sourceRoot
  | report
  deriving DecidableEq, Repr

inductive Flag where
  | dryRun
  | json
  | check
  | verbose
  deriving DecidableEq, Repr

structure RunOptions where
  primaryLocale : Option Text := none
  messagesRoot : Option Text := none
  sourceRoot : Option Text := none
  report : Option Text := none
  dryRun : Bool := false
  json : Bool := false
  check : Bool := false
  verbose : Bool := false
  deriving DecidableEq, Repr

namespace RunOptions

def setting (o : RunOptions) : Setting → Option Text
  | .primaryLocale => o.primaryLocale
  | .messagesRoot => o.messagesRoot
  | .sourceRoot => o.sourceRoot
  | .report => o.report

def withSetting (o : RunOptions) (v : Text) : Setting → RunOptions
  | .primaryLocale => { o with primaryLocale := some v }
  | .messagesRoot => { o with messagesRoot := some v }
  | .sourceRoot => { o with sourceRoot := some v }
  | .report => { o with report := some v }

def flag (o : RunOptions) : Flag → Bool
  | .dryRun => o.dryRun
  | .json => o.json
  | .check => o.check
  | .verbose => o.verbose

def withFlag (o : RunOptions) : Flag → RunOptions
  | .dryRun => { o with dryRun := true }
  | .json => { o with json := true }
  | .check => { o with check := true }
  | .verbose => { o with verbose := true }

def override (o : RunOptions) (c : Config) : Config :=
  { c with
    primaryLocale := o.primaryLocale.getD c.primaryLocale
    messagesRoot := o.messagesRoot.getD c.messagesRoot
    sourceRoot := o.sourceRoot.getD c.sourceRoot }

end RunOptions

inductive Command where
  | run (o : RunOptions)
  | init
  deriving DecidableEq, Repr

inductive Request where
  | command (c : Command)
  | page (p : Page)
  | nothing
  deriving DecidableEq, Repr

inductive Stop where
  | page (p : Page)
  | refused (e : UsageError)
  deriving DecidableEq, Repr

/-- An argument by its form: `--`, a long name with the value attached to it, letters after one
dash, or a plain word. -/
inductive Argument where
  | terminator
  | long (name : Text) (value : Option Text)
  | short (letters : Text)
  | word (t : Text)
  deriving DecidableEq, Repr

def Argument.ofText (t : Text) : Argument :=
  match t with
  | ['-', '-'] => .terminator
  | '-' :: '-' :: rest =>
    match rest.dropWhile (· != '=') with
    | [] => .long rest none
    | _ :: value => .long (rest.takeWhile (· != '=')) (some value)
  | '-' :: c :: cs => .short (c :: cs)
  | t => .word t

def helpName : Text := "help".toList

def Setting.ofName? (name : Text) : Option Setting :=
  if name = "primary-locale".toList then some .primaryLocale
  else if name = "messages-root".toList then some .messagesRoot
  else if name = "source-root".toList then some .sourceRoot
  else if name = "report".toList then some .report
  else none

def Flag.ofName? (name : Text) : Option Flag :=
  if name = "dry-run".toList then some .dryRun
  else if name = "json".toList then some .json
  else if name = "check".toList then some .check
  else if name = "verbose".toList then some .verbose
  else none

/-- A setting that was named, and its value once that is known. It takes effect with the next
argument that is accepted, or at the end. -/
structure Pending where
  setting : Setting
  value : Option Text
  deriving DecidableEq, Repr

structure Scan where
  options : RunOptions := {}
  pending : Option Pending := none
  deriving DecidableEq, Repr

namespace Scan

/-- The value of a setting is missing, or the setting was given before, or it is a report without a
name. -/
def settle (s : Scan) : Except Stop RunOptions :=
  match s.pending with
  | none => .ok s.options
  | some ⟨_, none⟩ => .error (.refused .missingValue)
  | some ⟨setting, some value⟩ =>
    if (s.options.setting setting).isSome then .error (.refused .givenTwice)
    else if setting = .report && value.isEmpty then .error (.refused .missingValue)
    else .ok (s.options.withSetting value setting)

def raise (s : Scan) (f : Flag) : Except Stop Scan := do
  let options ← s.settle
  if options.flag f then throw (.refused .givenTwice)
  return ⟨options.withFlag f, none⟩

def showPage (s : Scan) (p : Page) : Except Stop Scan := do
  let _ ← s.settle
  throw (.page p)

def long (s : Scan) (name : Text) (value : Option Text) : Except Stop Scan :=
  match Setting.ofName? name with
  | some setting => do
    let options ← s.settle
    match value with
    | none => return ⟨options, some ⟨setting, none⟩⟩
    | some value => return ⟨← settle ⟨options, some ⟨setting, some value⟩⟩, none⟩
  | none =>
    match Flag.ofName? name, value with
    | some f, none => s.raise f
    | some _, some _ => throw (.refused .unexpectedValue)
    | none, value =>
      if name = helpName then
        match value with
        | none => s.showPage .run
        | some _ => throw (.refused .unexpectedValue)
      else throw (.refused .unknownArgument)

def short (s : Scan) : Text → Except Stop Scan
  | [] => .ok s
  | c :: cs =>
    if c = 'v' then do short (← s.raise .verbose) cs
    else if c = 'h' then s.showPage .run
    else throw (.refused .unknownArgument)

/-- A plain word is the value of the setting before it, or surplus. -/
def word (s : Scan) (t : Text) : Except Stop Scan :=
  match s.pending with
  | some ⟨setting, none⟩ => .ok { s with pending := some ⟨setting, some t⟩ }
  | _ => throw (.refused .unknownArgument)

end Scan

/-- Everything after `--` is surplus. -/
def runOptions (s : Scan) : List Text → Except Stop RunOptions
  | [] => s.settle
  | arg :: args =>
    match Argument.ofText arg with
    | .terminator => if args.isEmpty then s.settle else throw (.refused .unknownArgument)
    | .long name value => do runOptions (← s.long name value) args
    | .short letters => do runOptions (← s.short letters) args
    | .word t => do runOptions (← s.word t) args

/-- The letters of a place that knows only pages, of which the first is shown. -/
def pageOfLetters (page : Char → Option Page) : Text → Stop
  | c :: _ => match page c with
    | some p => .page p
    | none => .refused .unknownArgument
  | [] => .refused .unknownArgument

def pageOfName (page : Option Page) (value : Option Text) : Stop :=
  match page, value with
  | some p, none => .page p
  | some _, some _ => .refused .unexpectedValue
  | none, _ => .refused .unknownArgument

def initArguments : List Text → Except Stop Unit
  | [] => .ok ()
  | arg :: args =>
    match Argument.ofText arg with
    | .terminator => if args.isEmpty then .ok () else throw (.refused .unknownArgument)
    | .long name value =>
      throw (pageOfName (if name = helpName then some .init else none) value)
    | .short letters =>
      throw (pageOfLetters (fun c => if c = 'h' then some .init else none) letters)
    | .word _ => throw (.refused .unknownArgument)

inductive CommandName where
  | run
  | init
  | help
  deriving DecidableEq, Repr

def CommandName.ofText? (t : Text) : Option CommandName :=
  if t = "run".toList then some .run
  else if t = "init".toList then some .init
  else if t = helpName then some .help
  else none

def CommandName.page : CommandName → Page
  | .run => .run
  | .init => .init
  | .help => .help

/-- The page that `help` shows. No command has commands of its own. -/
def helpPage : List Text → Stop
  | [] => .page .program
  | [name] =>
    match CommandName.ofText? name with
    | some c => .page c.page
    | none => .refused .unknownCommand
  | _ :: _ :: _ => .refused .unknownCommand

def mainLetter (c : Char) : Option Page :=
  if c = 'h' then some .program else if c = 'V' then some .version else none

def mainName (name : Text) : Option Page :=
  if name = helpName then some .program
  else if name = "version".toList then some .version
  else none

def command (args : List Text) : Except Stop (Option Command) :=
  match args with
  | [] => .ok none
  | arg :: args =>
    match Argument.ofText arg with
    | .terminator =>
      match args with
      | [] => .ok none
      | word :: _ =>
        throw (.refused (if (CommandName.ofText? word).isSome then .unknownArgument
          else .unknownCommand))
    | .long name value => throw (pageOfName (mainName name) value)
    | .short letters => throw (pageOfLetters mainLetter letters)
    | .word t =>
      match CommandName.ofText? t with
      | some .run => do return some (.run (← runOptions {} args))
      | some .init => do initArguments args; return some .init
      | some .help => throw (helpPage args)
      | none => throw (.refused .unknownCommand)

def request (args : List Text) : Except UsageError Request :=
  match command args with
  | .ok (some c) => .ok (.command c)
  | .ok none => .ok .nothing
  | .error (.page p) => .ok (.page p)
  | .error (.refused e) => .error e

end Localize.CommandLine

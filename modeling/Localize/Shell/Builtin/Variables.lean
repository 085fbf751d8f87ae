import Localize.Shell.Builtin.Options

/-! Tasks that change variables and arguments. -/

namespace Localize.Shell.Builtin

open Act

/-- A text in single quotes; those that it has itself are put in double ones. -/
def quotedRuns (n : Nat) (t : Text) : Text :=
  match n with
  | 0 => []
  | n + 1 =>
    let plain := t.takeWhile (· != '\'')
    let rest := t.drop plain.length
    let quotes := rest.takeWhile (· == '\'')
    let after := rest.drop quotes.length
    let first := '\'' :: plain ++ ['\'']
    if quotes.isEmpty then first
    else first ++ '"' :: quotes ++ ['"'] ++ (if after.isEmpty then [] else quotedRuns n after)

def singleQuoted (t : Text) : Text := quotedRuns (t.length + 1) t

def printVariables (front : Text) (isShown : Variable → Bool) : Act Unit := do
  let m ← get
  let shown := m.bindings.filter fun (_, v) => isShown v
  for (name, v) in shown.mergeSort fun a b => !decide (b.1 < a.1) do
    let value := match v.value with
      | some t => '=' :: singleQuoted t
      | none => []
    printLine (front ++ name ++ value)

def nameAndValue (t : Text) : Text × Option Text :=
  let name := t.takeWhile (· != '=')
  (name, (t.drop name.length).tail?)

def requireName (name : Text) : Act Unit := do
  if !isName name then failWith name ": bad variable name"

def declare (front : String) (isMarked : Variable → Bool) (mark : Variable → Variable)
    (args : List Text) : Act Nat := do
  let (found, args) ← parse (.ofString "p") args
  if hasLetter 'p' found || args.isEmpty then
    printVariables front.toList isMarked
    return 0
  for a in args do
    let (name, value) := nameAndValue a
    requireName name
    match value with
    | some t => setVariable name fun v => mark { v with value := some t }
    | none =>
      modify fun m =>
        let old := (m.bindings.lookup name).getD { value := none }
        { m with bindings := putBinding name (mark old) m.bindings }
  return 0

def exportTask : List Text → Act Nat :=
  declare "export " (·.exported) fun v => { v with exported := true }

def readOnly : List Text → Act Nat :=
  declare "readonly " (·.readOnly) fun v => { v with readOnly := true }

def unsetVariable (name : Text) : Act Unit := do
  requireName name
  setVariable name id
  modify fun m => { m with bindings := m.bindings.filter (·.1 ≠ name) }

def unset (args : List Text) : Act Nat := do
  let (found, args) ← parse (.ofString "vf") args
  let ofFunctions := (found.getLast?.map (·.1)) = some 'f'
  for name in args do
    if ofFunctions then
      modify fun m => { m with functions := m.functions.filter (·.1 ≠ name) }
    else unsetVariable name
  return 0

def makeLocal (args : List Text) : Act Nat := do
  if (← get).frames.isEmpty then fail "not in a function".toList
  for a in args do
    if a = ['-'] then keepOptions
    else
      let (name, value) := nameAndValue a
      requireName name
      hide name
      match value with
      | some t => setVariable name fun v => { v with value := some t }
      | none => pure ()
  return 0

def shift (args : List Text) : Act Nat := do
  let n ← match args with
    | [] => pure 1
    | t :: _ => count t
  let m ← get
  if m.arguments.length < n then fail "can't shift that many".toList
  set { m with arguments := m.arguments.drop n, optionPlace := {} }
  return 0

def optionNeed? (known : Text) (c : Char) : Option Bool :=
  match known with
  | [] => none
  | k :: ':' :: rest => if k = c then some true else optionNeed? rest c
  | k :: rest => if k = c then some false else optionNeed? rest c

def optionComplaint (front : String) (c : Char) (after : String) : Act Unit := do
  let _ ← write 2 (front.toList ++ c :: after.toList ++ ['\n'])

def nextOption (known target : Text) (args : List Text) : Act Nat := do
  let place := (← get).optionPlace
  let current : Text := match place.offset with
    | some k => if place.index ≤ 1 then [] else (args.getD (place.index - 2) []).drop k
    | none => []
  let index := place.index - 1
  let (letters, next) : Text × Nat :=
    if !current.isEmpty then (current, index)
    else match args[index]? with
      | some ('-' :: c :: cs) => (c :: cs, index + 1)
      | _ => ([], index)
  let isEnd := current.isEmpty && letters = ['-']
  match if isEnd then [] else letters with
  | [] => finish next none ['?'] 1
  | c :: rest =>
    let silent := known.head? = some ':'
    let failed (front after : String) (sign : Char) : Act Text := do
      if silent then
        assign "OPTARG".toList [c]
        return [sign]
      else
        optionComplaint front c after
        unsetVariable "OPTARG".toList
        return ['?']
    let offset := (args.getD (next - 1) []).length - rest.length
    match optionNeed? known c with
    | none =>
      let sign ← failed "Illegal option -" "" '?'
      finish next (some offset) sign 0
    | some false =>
      assign "OPTARG".toList []
      finish next (some offset) [c] 0
    | some true =>
      match rest, args[next]? with
      | [], none =>
        let sign ← failed "No arg for -" " option" ':'
        finish next (some offset) sign 0
      | [], some value =>
        assign "OPTARG".toList value
        finish (next + 1) none [c] 0
      | rest, _ =>
        assign "OPTARG".toList rest
        finish next none [c] 0
where
  finish (next : Nat) (offset : Option Nat) (sign : Text) (status : Nat) : Act Nat := do
    assign "OPTIND".toList (Text.ofNat (next + 1))
    requireName target
    assign target sign
    modify fun m => { m with optionPlace := { index := next + 1, offset } }
    return status

def getOptions (args : List Text) : Act Nat := do
  match args with
  | known :: target :: rest =>
    let m ← get
    let args := if rest.isEmpty then m.arguments else rest
    if args.length + 1 < m.optionPlace.index then set { m with optionPlace := {} }
    nextOption known target args
  | _ => fail "Usage: getopts optstring var [arg...]".toList

end Localize.Shell.Builtin

import Localize.Shell.Program.Named
import Localize.Shell.Redirection

/-! Writing files one after another, with their lines numbered or their characters made visible if
that is asked for. -/

namespace Localize.Shell.Program.Concatenate

open Act

structure Style where
  numbers : Bool := false
  numbersFilled : Bool := false
  squeezes : Bool := false
  showsControls : Bool := false
  showsEnds : Bool := false
  showsTabs : Bool := false

def Style.isPlain (s : Style) : Bool :=
  !(s.numbers || s.numbersFilled || s.squeezes || s.showsControls || s.showsEnds || s.showsTabs)

def complain (t : Text) : Act Unit := do
  let _ ← write 2 ("cat: ".toList ++ t ++ ['\n'])

def longNames : List (Text × Char) :=
  [("number-nonblank", 'b'), ("number", 'n'), ("squeeze-blank", 's'), ("show-nonprinting", 'v'),
    ("show-ends", 'E'), ("show-tabs", 'T'), ("show-all", 'A')].map fun (t, c) => (t.toList, c)

def Style.with? (s : Style) (c : Char) : Option Style :=
  match c with
  | 'n' => some { s with numbers := true }
  | 'b' => some { s with numbersFilled := true }
  | 's' => some { s with squeezes := true }
  | 'v' => some { s with showsControls := true }
  | 'E' => some { s with showsEnds := true }
  | 'T' => some { s with showsTabs := true }
  | 'e' => some { s with showsControls := true, showsEnds := true }
  | 't' => some { s with showsControls := true, showsTabs := true }
  | 'A' => some { s with showsControls := true, showsEnds := true, showsTabs := true }
  | 'u' => some s
  | _ => none

def joinNames (names : List Text) : Text :=
  names.flatMap fun name => " '--".toList ++ name ++ ['\'']

/-- Applies an option that is written as a name, or as much of one as tells it from others. -/
def Style.withName (s : Style) (t : Text) : Except Text Style :=
  let name := t.takeWhile (· != '=')
  let fitting := longNames.filter fun (long, _) => name.isPrefixOf long
  let option := "option '--".toList ++ name ++ ['\'']
  match (longNames.lookup name).map (name, ·) with
  | some (_, c) => take c name
  | none =>
    match fitting with
    | [] => .error ("unrecognized ".toList ++ "option '--".toList ++ t ++ ['\''])
    | [(long, c)] => take c long
    | many =>
      .error (option ++ " is ambiguous; possibilities:".toList ++ joinNames (many.map (·.1)))
where
  take (c : Char) (long : Text) : Except Text Style :=
    if t.contains '=' then
      .error ("option '--".toList ++ long ++ "' doesn't allow an argument".toList)
    else .ok ((s.with? c).getD s)

def Style.withLetters (s : Style) : Text → Except Text Style
  | [] => .ok s
  | c :: cs =>
    match s.with? c with
    | some s => Style.withLetters s cs
    | none => .error ("invalid option -- '".toList ++ [c, '\''])

def arguments (s : Style) (files : List Text) : List Text → Except Text (Style × List Text)
  | [] => .ok (s, files)
  | ['-', '-'] :: rest => .ok (s, files ++ rest)
  | ('-' :: '-' :: name) :: rest =>
    match s.withName name with
    | .ok s => arguments s files rest
    | .error e => .error e
  | ('-' :: c :: cs) :: rest =>
    match s.withLetters (c :: cs) with
    | .ok s => arguments s files rest
    | .error e => .error e
  | t :: rest => arguments s (files ++ [t]) rest

/-- Where the writing of lines stands: the number of the last one, how many line ends came one after
another (none within a line), and whether a carriage return waits for what follows it. -/
structure Progress where
  number : Nat := 0
  ends : Option Nat := some 0
  waits : Bool := false

def numberText (n : Nat) : Text :=
  let ds := Text.ofNat n
  List.replicate (6 - ds.length) ' ' ++ ds ++ ['\t']

def visible (s : Style) (c : Char) : Text :=
  let n := c.toNat
  let below (n : Nat) : Text :=
    if n < 32 then ['^', Char.ofNat (n + 64)] else if n = 127 then ['^', '?'] else [Char.ofNat n]
  if c = '\t' then if s.showsTabs then ['^', 'I'] else [c]
  else if !s.showsControls then [c]
  else if n < 128 then below n
  else 'M' :: '-' :: below (n - 128)

def styled (s : Style) (p : Progress) : Text → Text × Progress
  | [] => ([], p)
  | '\n' :: rest =>
    let ends := (p.ends.map (· + 1)).getD 0
    let isEmpty := p.ends.isSome
    if isEmpty && 2 ≤ ends && s.squeezes then styled s { p with ends := some 2 } rest
    else
      let numbered := isEmpty && s.numbers && !s.numbersFilled
      let p' : Progress :=
        { number := if numbered then p.number + 1 else p.number, ends := some ends }
      let waiting : Text := if p.waits && s.showsEnds then ['^', 'M'] else []
      let (more, p'') := styled s p' rest
      ((if numbered then numberText p'.number else []) ++ waiting ++
        (if s.showsEnds then ['$', '\n'] else ['\n']) ++ more, p'')
  | c :: rest =>
    let numbered := p.ends.isSome && (s.numbers || s.numbersFilled)
    let number := if numbered then p.number + 1 else p.number
    let front := (if p.waits then ['\r'] else []) ++ if numbered then numberText number else []
    let waits := c = '\r' && s.showsEnds && !s.showsControls &&
      (rest.isEmpty || rest.head? = some '\n')
    let (more, p') := styled s { number, ends := none, waits } rest
    (front ++ (if waits then [] else visible s c) ++ more, p')

/-- The text of a file, or why it cannot be read. Reading moves the input on. -/
def content (name : Text) : Act (Except Text (Option Nat × Text)) := do
  let m ← get
  if name = ['-'] then
    match m.descriptors.lookup 0 with
    | none => return .error "Bad file descriptor".toList
    | some id =>
      match m.world.left id with
      | .ok t => return .ok (some id, t)
      | .error .isADirectory => return .error "Is a directory".toList
      | .error _ => return .error "Bad file descriptor".toList
  else
    match Redirection.openInput? m name with
    | .error e => return .error (FileError.describe e)
    | .ok (world, id) =>
      match world.left id with
      | .ok t =>
        set { m with world }
        return .ok (some id, t)
      | .error e => return .error (FileError.describe e)

def feedsItself (m : Machine) (input : Nat) : Bool :=
  match m.world.streams[input]?, (m.descriptors.lookup 1).bind (m.world.streams[·]?) with
  | some (.file l position _ _ _), some (.file l' position' appends _ _) =>
    l = l' && position < (if appends then (m.world.bytesAt l).size else position')
  | _, _ => false

def file (s : Style) (p : Progress) (name : Text) : Act (Progress × Bool) := do
  match ← content name with
  | .error reason =>
    complain (named name ++ ": ".toList ++ reason)
    return (p, false)
  | .ok (id, t) =>
    if id.any (feedsItself (← get)) then
      complain (named name ++ ": input file is output file".toList)
      return (p, false)
    modify fun m =>
      { m with world := id.elim m.world fun id => m.world.advance id t.length }
    let (out, p) := if s.isPlain then (t, p) else styled s p t
    let _ ← write 1 out
    return (p, true)

/-- Writes files. A carriage return that waits behind the last one is written. -/
def files (s : Style) (p : Progress) (isFine : Bool) : List Text → Act Bool
  | [] => do
    let _ ← write 1 (if p.waits then ['\r'] else [])
    return isFine
  | name :: names => do
    let (p, isRead) ← file s p name
    files s p (isFine && isRead) names

def isOpen (stream : Nat) : Act Bool := do
  return ((← get).descriptors.lookup stream).isSome

def run (args : List Text) : Act Nat := do
  match arguments {} [] args with
  | .error e =>
    complain e
    let _ ← write 2 "Try 'cat --help' for more information.\n".toList
    return 1
  | .ok (s, names) =>
    if !(← isOpen 1) then
      complain "standard output: Bad file descriptor".toList
      return 1
    let names := if names.isEmpty then [['-']] else names
    let isFine ← files s {} true names
    if names.contains ['-'] && !(← isOpen 0) then
      complain "closing standard input: Bad file descriptor".toList
      return 1
    return if isFine then 0 else 1

end Localize.Shell.Program.Concatenate

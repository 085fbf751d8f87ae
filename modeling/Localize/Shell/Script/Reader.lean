import Localize.Shell.Script.Token

/-! What is left of a script while it is read, character by character. A backslash at the end of a
line joins it to the next one. -/

namespace Localize.Shell

/-- A document that is announced by a redirection: what ends it, whether tabs at the starts of its
lines count, and whether it stands for itself. -/
structure Announced where
  number : Nat
  delimiter : Text
  stripsTabs : Bool
  literal : Bool

structure Reader where
  rest : Text
  line : Nat := 1
  returned : Option Token := none
  announced : List Announced := []
  /-- The documents that were read, by their numbers. -/
  documents : List (Nat × Word) := []
  nextDocument : Nat := 0

abbrev Reading := StateT Reader (Except Fault)

namespace Reading

def fail {α : Type} (cause : Cause) : Reading α := fun r => .error ⟨r.line, cause⟩

def unexpected {α : Type} (found : Token) (expected : Option Token) : Reading α :=
  fail (.unexpected found expected)

/-- Drops the joined line ends in front of a text, counting them. -/
def dropJoins : Text → Text × Nat
  | '\\' :: '\n' :: cs => let (rest, n) := dropJoins cs; (rest, n + 1)
  | cs => (cs, 0)

def rawPeek : Reading (Option Char) := do return (← get).rest.head?

def peek : Reading (Option Char) := do
  modify fun r =>
    let (rest, n) := dropJoins r.rest
    { r with rest, line := r.line + n }
  rawPeek

def skip : Reading Unit :=
  modify fun r =>
    match r.rest with
    | [] => r
    | c :: rest => { r with rest, line := if c = '\n' then r.line + 1 else r.line }

/-- Passes a character where the use of a parameter is named. A line end is not counted there. -/
def skipUncounted : Reading Unit := modify fun r => { r with rest := r.rest.tail }

def accept (c : Char) : Reading Bool := do
  if (← peek) = some c then
    skip
    return true
  else return false

def giveBack (t : Token) : Reading Unit := modify fun r => { r with returned := some t }

def takeClass (isIn : Char → Bool) : Nat → Reading Text
  | 0 => fail .tooDeep
  | n + 1 => do
    match ← peek with
    | some c =>
      if isIn c then
        skip
        return c :: (← takeClass isIn n)
      else return []
    | none => return []

def takeUntil? (c : Char) : Reading (Option Text) := do
  let r ← get
  let t := r.rest.takeWhile (· != c)
  let line := r.line + t.count '\n'
  match r.rest.drop t.length with
  | [] =>
    set { r with rest := [], line }
    return none
  | _ :: rest =>
    set { r with rest, line }
    return some t

/-- Whether the line that begins here ends a document. If so, it is passed; otherwise only the tabs
are that do not count. -/
def endsDocument (a : Announced) : Reading Bool := do
  let r ← get
  let rest := if a.stripsTabs then r.rest.dropWhile (· == '\t') else r.rest
  match a.delimiter.isPrefixOf? rest with
  | some ('\n' :: after) =>
    set { r with rest := after, line := r.line + 1 }
    return true
  | some [] =>
    set { r with rest := [], line := r.line + 1 }
    return true
  | _ =>
    set { r with rest }
    return false

end Reading
end Localize.Shell

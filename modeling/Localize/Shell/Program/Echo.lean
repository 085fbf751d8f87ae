import Localize.Shell.Escape
import Localize.Shell.Machine

/-! Printing arguments, with escapes only if an option asks for them. -/

namespace Localize.Shell.Program.Echo

open Act

structure Style where
  endsLine : Bool := true
  expands : Bool := false

/-- An argument is an option if all of its letters are. -/
def isOption (t : Text) : Bool :=
  match t with
  | '-' :: c :: cs => (c :: cs).all fun c => c == 'n' || c == 'e' || c == 'E'
  | _ => false

def Style.withLetters (s : Style) (t : Text) : Style :=
  t.foldl (fun s c =>
    if c = 'n' then { s with endsLine := false }
    else if c = 'e' then { s with expands := true }
    else if c = 'E' then { s with expands := false }
    else s) s

def arguments (s : Style) : List Text → Style × List Text
  | [] => (s, [])
  | t :: ts => if isOption t then arguments (s.withLetters t) ts else (s, t :: ts)

def isHexDigit (c : Char) : Bool :=
  Text.isDigit c || ('a' ≤ c && c ≤ 'f') || ('A' ≤ c && c ≤ 'F')

def hexValue (ds : Text) : Nat :=
  ds.foldl (fun n c => 16 * n + (if Text.isDigit c then Text.digitValue c else c.toNat % 32 + 9)) 0

/-- The character behind a backslash, and what follows it. Up to two hexadecimal digits may follow
an `x`, and up to three octal ones a zero. -/
def character (t : Text) : Text × Text :=
  match t with
  | [] => (['\\'], [])
  | 'x' :: rest =>
    let ds := (rest.take 2).takeWhile isHexDigit
    if ds.isEmpty then (['\\', 'x'], rest) else ([Escape.byte (hexValue ds)], rest.drop ds.length)
  | '0' :: rest =>
    let (c, rest) := Escape.octal 3 rest
    ([c], rest)
  | c :: rest =>
    match Escape.control? c with
    | some x => ([x], rest)
    | none =>
      if Escape.isOctal c then
        let (c, rest) := Escape.octal 3 t
        ([c], rest)
      else (['\\', c], rest)

def expand (n : Nat) (t : Text) : Text × Bool :=
  match n, t with
  | 0, t => (t, false)
  | _, [] => ([], false)
  | n + 1, '\\' :: rest =>
    if rest.head? = some 'c' then ([], true)
    else
      let (first, rest) := character rest
      let (more, stops) := expand n rest
      (first ++ more, stops)
  | n + 1, c :: rest =>
    let (more, stops) := expand n rest
    (c :: more, stops)

def text (args : List Text) : Text :=
  let (s, args) := arguments {} args
  let t := Text.joined [' '] args
  let (t, stops) := if s.expands then expand (t.length + 1) t else (t, false)
  if s.endsLine && !stops then t ++ ['\n'] else t

def run (args : List Text) : Act Nat := do
  if ← write 1 (text args) then return 0
  let _ ← write 2 "echo: write error: Bad file descriptor\n".toList
  return 1

end Localize.Shell.Program.Echo

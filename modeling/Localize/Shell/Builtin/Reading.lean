import Localize.Shell.Builtin.Options
import Localize.Shell.Fields

/-! Reading a line of input into variables. -/

namespace Localize.Shell.Builtin

open Act

/-- What was read of a line: its pieces, how many bytes it took, and whether its end came. -/
structure LineRead where
  pieces : List Piece
  length : Nat
  isWhole : Bool

/-- A backslash takes the meaning from the next character; in front of a line's end it joins the
next line. -/
def readPieces (keepsBackslashes : Bool) (run : Text) (length : Nat) : Text → LineRead
  | [] => ⟨[.split (Glyph.ofText false run.reverse)], length, false⟩
  | '\\' :: rest =>
    if keepsBackslashes then readPieces keepsBackslashes ('\\' :: run) (length + 1) rest
    else
      let before : Piece := .split (Glyph.ofText false run.reverse)
      match rest with
      | [] => ⟨[before], length + 1, false⟩
      | c :: rest =>
        let line := readPieces keepsBackslashes [] (length + 2) rest
        let shielded : List Piece := if c = '\n' then [] else [.whole [.char c true]]
        { line with pieces := before :: shielded ++ line.pieces }
  | c :: rest =>
    if c = '\n' then ⟨[.split (Glyph.ofText false run.reverse)], length + 1, true⟩
    else if c = '\x00' then readPieces keepsBackslashes run (length + 1) rest
    else readPieces keepsBackslashes (c :: run) (length + 1) rest

def assignFields : List Text → List Text → Act Unit
  | [], _ => return ()
  | name :: names, ts => do
    if !isName name then failWith name ": bad variable name"
    assign name (ts.headD [])
    assignFields names ts.tail

def read (args : List Text) : Act Nat := do
  let (found, names) ← parse { plain := ['r'], valued := ['p'] } args
  if names.isEmpty then fail "arg count".toList
  let m ← get
  let (input, id) := match m.descriptors.lookup 0 with
    | some id => ((m.world.left id).toOption.getD [], id)
    | none => ([], 0)
  let line := readPieces (hasLetter 'r' found) [] 0 input
  set { m with world := m.world.advance id line.length }
  let fields := (Shell.fields m.separators (some names.length) line.pieces).map Glyph.toText
  assignFields names fields
  return if line.isWhole then 0 else 1

end Localize.Shell.Builtin

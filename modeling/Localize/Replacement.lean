import Localize.Text.Class.Word
import Localize.Text.Find

/-! Finding the line that holds a reported string, and putting a call of the message function in
place of the string. -/

namespace Localize

abbrev Buffer := List Text

structure Replacement where
  lineIndex : Nat
  before : Text
  after : Text
  deriving DecidableEq, Repr

/-- The name of the message function, and how far from the claimed line a string may have moved. -/
structure Replacer where
  translateFn : Text
  searchRadius : Nat
  deriving DecidableEq, Repr

namespace Replacement

/-- A backslash goes in front of backslashes and double quotes. -/
def escapeKey (key : Text) : Text :=
  key.flatMap fun c => if c = '\\' || c = '"' then ['\\', c] else [c]

def call (translateFn key : Text) : Text :=
  translateFn ++ '(' :: '"' :: escapeKey key ++ ['"', ')']

def hit? (lines : Buffer) (needle : Text) (number : Nat) : Option Nat :=
  if number = 0 then none
  else (lines[number - 1]?).bind fun line =>
    if Text.includes line needle then some (number - 1) else none

/-- The offsets from the claimed line at which there can be a line, up to the radius. -/
def offsets (size claimed radius : Nat) : List Nat :=
  let first := max (claimed - size) 1
  let last := min radius (max claimed size)
  List.range' first (last + 1 - first)

/-- The claimed line first, then the lines around it from near to far and the later of two before
the earlier, then the first line of all. -/
def locate? (lines : Buffer) (claimed : Nat) (needle : Text) (radius : Nat) : Option Nat :=
  if needle = [] then none
  else hit? lines needle claimed <|>
    (offsets lines.length claimed radius).findSome? (fun offset =>
      hit? lines needle (claimed + offset) <|> hit? lines needle (claimed - offset)) <|>
    lines.findIdx? (Text.includes · needle)

def isNameChar (c : Char) : Bool := Text.isWord c || c == '-'

/-- The text ends in an attribute name, `=` and an opening double quote. The name starts with a
letter of ASCII or an underscore. -/
def opensAttribute (t : Text) : Bool :=
  match t.reverse with
  | '"' :: '=' :: rest => (rest.takeWhile isNameChar).any fun c => Text.isLetter c || c == '_'
  | _ => false

def braced (call : Text) : Text := '{' :: call ++ ['}']

/-- Puts the call in place of the first occurrence of the needle. An attribute value is replaced
together with its quotes, and only as a whole. -/
def substitute? (line needle call : Text) : Option Text :=
  match Text.cut? needle line with
  | none => none
  | some (before, after) =>
    if opensAttribute before then
      match after with
      | '"' :: rest => some (before.dropLast ++ braced call ++ rest)
      | _ => none
    else some (before ++ braced call ++ after)

end Replacement

namespace Replacer

def call (r : Replacer) (key : Text) : Text := Replacement.call r.translateFn key

/-- Replaces the needle on the nearest line that holds it. -/
def replace? (r : Replacer) (lines : Buffer) (claimed : Nat) (needle key : Text) :
    Option (Replacement × Buffer) := do
  let index ← Replacement.locate? lines claimed needle r.searchRadius
  let before ← lines[index]?
  let after ← Replacement.substitute? before needle (r.call key)
  some (⟨index, before, after⟩, lines.set index after)

end Replacer
end Localize

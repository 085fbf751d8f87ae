import Localize.Json
import Localize.Json.Double

/-! Writing a JSON value on indented lines. -/

namespace Localize.Json

def escapeChar (c : Char) : Text :=
  match c with
  | '"' => ['\\', '"']
  | '\\' => ['\\', '\\']
  | '\x08' => ['\\', 'b']
  | '\x0c' => ['\\', 'f']
  | '\n' => ['\\', 'n']
  | '\r' => ['\\', 'r']
  | '\t' => ['\\', 't']
  | c => if c.toNat < 0x20 then '\\' :: 'u' :: Text.hex 4 c.toNat else [c]

def stringText (t : Text) : Text := '"' :: t.flatMap escapeChar ++ ['"']

def numberText : JsonNumber → Text
  | .natural n => Text.ofNat n
  | .negative n => '-' :: Text.ofNat n
  | .double bits => doubleText bits

def indent (depth : Nat) : Text := List.replicate (2 * depth) ' '

/-- Each part on a line of its own between the brackets, unless there is none. -/
def block (depth : Nat) (opening closing : Char) (parts : List Text) : Text :=
  match parts with
  | [] => [opening, closing]
  | parts =>
    opening :: '\n' :: Text.joined [',', '\n'] (parts.map (indent (depth + 1) ++ ·)) ++
      '\n' :: indent depth ++ [closing]

mutual

/-- The value, where `depth` brackets are open around it. -/
def pretty (depth : Nat) : Json → Text
  | .null => ['n', 'u', 'l', 'l']
  | .bool true => ['t', 'r', 'u', 'e']
  | .bool false => ['f', 'a', 'l', 's', 'e']
  | .number n => numberText n
  | .string t => stringText t
  | .array as => block depth '[' ']' (prettyItems (depth + 1) as)
  | .object es => block depth '{' '}' (prettyEntries (depth + 1) es)

def prettyItems (depth : Nat) : List Json → List Text
  | [] => []
  | a :: as => pretty depth a :: prettyItems depth as

def prettyEntries (depth : Nat) : List (Text × Json) → List Text
  | [] => []
  | (k, v) :: es => (stringText k ++ ':' :: ' ' :: pretty depth v) :: prettyEntries depth es

end

end Localize.Json

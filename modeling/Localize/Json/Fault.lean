import Localize.Text.Quoted

/-! What can be wrong with a JSON text, and where. -/

namespace Localize.Json

inductive Found where
  | null
  | bool (b : Bool)
  | natural (n : Nat)
  | negative (n : Nat)
  | double (text : Text)
  | string (t : Text)
  | sequence
  | map
  deriving DecidableEq, Repr

def Found.text : Found → Text
  | .null => "null".toList
  | .bool true => "boolean `true`".toList
  | .bool false => "boolean `false`".toList
  | .natural n => "integer `".toList ++ Text.ofNat n ++ ['`']
  | .negative n => "integer `-".toList ++ Text.ofNat n ++ ['`']
  | .double t => "floating point `".toList ++ t ++ ['`']
  | .string t => "string ".toList ++ Text.quoted t
  | .sequence => "sequence".toList
  | .map => "map".toList

inductive Cause where
  | endInList
  | endInObject
  | endInString
  | endInValue
  | expectedColon
  | expectedListEnd
  | expectedObjectEnd
  | expectedWord
  | expectedValue
  | invalidEscape
  | invalidNumber
  | numberOutOfRange
  | controlCharacter
  | keyNotString
  | loneSurrogate
  | halfSurrogatePair
  | trailingComma
  | trailingCharacters
  | tooDeep
  | wrongType (found : Found) (wanted : Text)
  | wrongValue (found : Found) (wanted : Text)
  | duplicateField (name : Text)
  deriving DecidableEq, Repr

def Cause.text : Cause → Text
  | .endInList => "EOF while parsing a list".toList
  | .endInObject => "EOF while parsing an object".toList
  | .endInString => "EOF while parsing a string".toList
  | .endInValue => "EOF while parsing a value".toList
  | .expectedColon => "expected `:`".toList
  | .expectedListEnd => "expected `,` or `]`".toList
  | .expectedObjectEnd => "expected `,` or `\x7d`".toList
  | .expectedWord => "expected ident".toList
  | .expectedValue => "expected value".toList
  | .invalidEscape => "invalid escape".toList
  | .invalidNumber => "invalid number".toList
  | .numberOutOfRange => "number out of range".toList
  | .controlCharacter =>
    "control character (\\u0000-\\u001F) found while parsing a string".toList
  | .keyNotString => "key must be a string".toList
  | .loneSurrogate => "lone leading surrogate in hex escape".toList
  | .halfSurrogatePair => "unexpected end of hex escape".toList
  | .trailingComma => "trailing comma".toList
  | .trailingCharacters => "trailing characters".toList
  | .tooDeep => "recursion limit exceeded".toList
  | .wrongType found wanted =>
    "invalid type: ".toList ++ found.text ++ ", expected ".toList ++ wanted
  | .wrongValue found wanted =>
    "invalid value: ".toList ++ found.text ++ ", expected ".toList ++ wanted
  | .duplicateField name => "duplicate field `".toList ++ name ++ ['`']

/-- A fault, and the number of bytes that were still unread when it was noticed. -/
structure Fault where
  cause : Cause
  left : Nat
  deriving DecidableEq, Repr

namespace Fault

def before (cause : Cause) (rest : Text) : Fault := ⟨cause, Text.byteSize rest⟩

def onByte (cause : Cause) (rest : Text) : Fault := ⟨cause, Text.byteSize rest - 1⟩

end Fault

/-- A fault with its line, counted from one, and the number of bytes before it on that line. -/
structure Error where
  cause : Cause
  line : Nat
  column : Nat
  deriving DecidableEq, Repr

/-- The line and the column after `count` bytes, from the given ones on. -/
def position : Text → (count line column : Nat) → Nat × Nat
  | [], _, line, column => (line, column)
  | c :: cs, count, line, column =>
    if count = 0 then (line, column)
    else if c = '\n' then position cs (count - 1) (line + 1) 0
    else position cs (count - c.utf8Size) line (column + min count c.utf8Size)

def Error.ofFault (text : Text) (f : Fault) : Error :=
  let (line, column) := position text (Text.byteSize text - f.left) 1 0
  ⟨f.cause, line, column⟩

def Error.message (e : Error) : Text :=
  e.cause.text ++ " at line ".toList ++ Text.ofNat e.line ++ " column ".toList ++
    Text.ofNat e.column

end Localize.Json

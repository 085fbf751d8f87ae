import Localize.Text.Class.Printable

/-! Quoted texts: double quotes around, escapes for what does not print. -/

namespace Localize.Text

/-- A character by its code point, as in `\u{200b}`. -/
def codePointEscape (c : Char) : Text :=
  '\\' :: 'u' :: '{' :: hex 1 c.toNat ++ ['}']

def escape (c : Char) : Text :=
  match c with
  | '\x00' => ['\\', '0']
  | '\t' => ['\\', 't']
  | '\r' => ['\\', 'r']
  | '\n' => ['\\', 'n']
  | '"' => ['\\', '"']
  | '\\' => ['\\', '\\']
  | c => if isPrintable c then [c] else codePointEscape c

def quoted (t : Text) : Text := '"' :: t.flatMap escape ++ ['"']

def quotedList (ts : List Text) : Text :=
  '[' :: joined [',', ' '] (ts.map quoted) ++ [']']

end Localize.Text

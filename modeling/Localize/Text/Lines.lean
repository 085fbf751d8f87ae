import Localize.Text.Fields

/-! The lines of a text, and the two line endings. -/

namespace Localize.Text

/-- A line that a line feed ends loses one carriage return in front of it. -/
def dropReturn (line : Text) : Text :=
  if line.getLast? = some '\r' then line.dropLast else line

/-- A final line feed opens no further line. -/
def lines (t : Text) : List Text :=
  let fs := fields '\n' t
  fs.dropLast.map dropReturn ++ (fs.getLast?.toList.filter fun last => !last.isEmpty)

inductive Ending where
  | lf
  | crlf
  deriving DecidableEq, Repr

def Ending.text : Ending → Text
  | .lf => ['\n']
  | .crlf => ['\r', '\n']

/-- A text is written with CRLF as soon as it holds one. -/
def ending : Text → Ending
  | '\r' :: '\n' :: _ => .crlf
  | _ :: cs => ending cs
  | [] => .lf

def endsLine (t : Text) : Bool := t.getLast? = some '\n'

end Localize.Text

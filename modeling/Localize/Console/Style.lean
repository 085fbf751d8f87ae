import Localize.Text.Find

/-! Coloured output as pieces of text. Without colours a piece is its text. -/

namespace Localize.Console

inductive Colour where
  | red
  | green
  | yellow
  | blue
  | cyan
  deriving DecidableEq, Repr

structure Style where
  bold : Bool := false
  dimmed : Bool := false
  colour : Colour
  deriving DecidableEq, Repr

inductive Piece where
  | plain (t : Text)
  | styled (s : Style) (t : Text)
  deriving DecidableEq, Repr

def Colour.code : Colour → Text
  | .red => ['3', '1']
  | .green => ['3', '2']
  | .yellow => ['3', '3']
  | .blue => ['3', '4']
  | .cyan => ['3', '6']

def escape : Char := '\x1b'

/-- Bold comes before dimmed and dimmed before the colour. -/
def Style.opening (s : Style) : Text :=
  let codes := (if s.bold then [['1']] else []) ++ (if s.dimmed then [['2']] else []) ++
    [s.colour.code]
  escape :: '[' :: Text.joined [';'] codes ++ ['m']

def closing : Text := [escape, '[', '0', 'm']

namespace Piece

def text : Piece → Text
  | .plain t => t
  | .styled _ t => t

/-- A closing code inside the text would end the colour, so the opening code follows it again. -/
def coloured : Piece → Text
  | .plain t => t
  | .styled s t => s.opening ++ Text.replaceAll closing (closing ++ s.opening) t ++ closing

end Piece

/-- What is written at once. Where there is nothing, printing breaks off. -/
abbrev Write := Option (List Piece)

/-- What is written until printing breaks off. -/
def written : List Write → List Piece
  | some ps :: ws => ps ++ written ws
  | _ => []

def breaksOff (ws : List Write) : Bool := ws.any Option.isNone

def paint (colours : Bool) (pieces : List Piece) : Text :=
  pieces.flatMap fun p => if colours then p.coloured else p.text

end Localize.Console

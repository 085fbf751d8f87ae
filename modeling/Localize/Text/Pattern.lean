import Localize.Text.Class.Word

/-! Patterns: a pattern gives the rests it can leave of a text, the preferred one first. -/

namespace Localize

abbrev Pattern := Text → List Text

namespace Pattern

def lit (word : Text) : Pattern := fun t => (word.isPrefixOf? t).toList

def one (p : Char → Bool) : Pattern
  | c :: cs => if p c then [cs] else []
  | [] => []

/-- Any number of characters of a class, as many as possible first. -/
def many (p : Char → Bool) : Pattern
  | c :: cs => if p c then many p cs ++ [c :: cs] else [c :: cs]
  | [] => [[]]

def seq : List Pattern → Pattern
  | [], t => [t]
  | p :: ps, t => (p t).flatMap (seq ps)

/-- One of several patterns, the earlier ones first. -/
def alt (ps : List Pattern) : Pattern := fun t => ps.flatMap fun p => p t

/-- The pattern, or else nothing. -/
def opt (p : Pattern) : Pattern := fun t => p t ++ [t]

def eot : Pattern
  | [] => [[]]
  | _ :: _ => []

def char (c : Char) : Pattern := one (· == c)

def blanks : Pattern := many Text.isBlank

def someBlanks : Pattern := seq [one Text.isBlank, blanks]

def word (w : String) : Pattern := lit w.toList

def atStart (p : Pattern) (t : Text) : Bool := !(p t).isEmpty

def anywhere (p : Pattern) (t : Text) : Bool :=
  atStart p t || match t with
    | [] => false
    | _ :: cs => anywhere p cs

end Pattern
end Localize

import Localize.FileTree
import Localize.Shell.Raw

/-! Patterns for names: `*`, `?`, and classes in brackets. Quoted characters stand for
themselves. -/

namespace Localize.Shell

/-- A character of an expanded word, and whether quotes took its meaning. A mark tells only that
there were quotes. -/
inductive Glyph where
  | mark
  | char (c : Char) (quoted : Bool)
  deriving DecidableEq, Repr

namespace Glyph

def char? : Glyph → Option Char
  | .mark => none
  | .char c _ => some c

def ofText (quoted : Bool) (t : Text) : List Glyph := t.map (.char · quoted)

def toText (gs : List Glyph) : Text := gs.filterMap char?

end Glyph

/-- A pattern has no marks, and no backslash that quotes a character. -/
abbrev Glob := List Glyph

namespace Glob

def ofGlyphs : List Glyph → Glob
  | [] => []
  | .mark :: gs => ofGlyphs gs
  | [.char '\\' false] => [.char '\\' true]
  | .char '\\' false :: .mark :: gs => .char '\\' true :: ofGlyphs gs
  | .char '\\' false :: .char c _ :: gs => .char c true :: ofGlyphs gs
  | g :: gs => g :: ofGlyphs gs

def isInClass? (name : Text) : Option (Char → Bool) :=
  let isPrint (c : Char) : Bool := ' ' ≤ c && c ≤ '~'
  let isAlnum (c : Char) : Bool := Text.isLetter c || Text.isDigit c
  match String.ofList name with
  | "alnum" => some isAlnum
  | "alpha" => some Text.isLetter
  | "blank" => some fun c => c == ' ' || c == '\t'
  | "cntrl" => some fun c => c.toNat < 32 || c.toNat == 127
  | "digit" => some Text.isDigit
  | "graph" => some fun c => isPrint c && c != ' '
  | "lower" => some fun c => 'a' ≤ c && c ≤ 'z'
  | "print" => some isPrint
  | "punct" => some fun c => isPrint c && c != ' ' && !isAlnum c
  | "space" => some fun c => c == ' ' || ('\t' ≤ c && c ≤ '\r')
  | "upper" => some fun c => 'A' ≤ c && c ≤ 'Z'
  | "xdigit" => some fun c =>
    Text.isDigit c || ('a' ≤ c && c ≤ 'f') || ('A' ≤ c && c ≤ 'F')
  | _ => none

def namedClass? (p : Glob) : Option ((Char → Bool) × Glob) :=
  match p with
  | .char ':' false :: rest =>
    let name := rest.takeWhile fun g => g != .char ':' false
    match rest.drop name.length with
    | .char ':' false :: .char ']' false :: after =>
      (isInClass? (Glyph.toText name)).map (·, after)
    | _ => none
  | _ => none

/-- Whether a character is in the class whose rest is `p`, and what follows its closing bracket. -/
def inBrackets? (x : Char) (n : Nat) (isFirst found : Bool) (p : Glob) : Option (Bool × Glob) :=
  match n with
  | 0 => none
  | n + 1 =>
    match p with
    | [] => none
    | .char ']' false :: rest =>
      if isFirst then member n ']' rest else some (found, rest)
    | .char '[' false :: rest =>
      match namedClass? rest with
      | some (isIn, after) => inBrackets? x n false (found || isIn x) after
      | none => member n '[' rest
    | .char c _ :: rest => member n c rest
    | .mark :: rest => inBrackets? x n isFirst found rest
where
  member (n : Nat) (c : Char) (rest : Glob) : Option (Bool × Glob) :=
    match rest with
    | .char '-' false :: .char d q :: after =>
      if d = ']' && !q then inBrackets? x n false (found || x == c) rest
      else inBrackets? x n false (found || (c ≤ x && x ≤ d)) after
    | rest => inBrackets? x n false (found || x == c) rest

/-- Whether the pattern matches a text as a whole. An unclosed bracket stands for itself. -/
def isMatch (p : Glob) (t : Text) : Bool :=
  match p, t with
  | [], t => t.isEmpty
  | .char '*' false :: p, [] => isMatch p []
  | .char '*' false :: p, c :: t => isMatch p (c :: t) || isMatch (.char '*' false :: p) t
  | .mark :: p, t => isMatch p t
  | _ :: _, [] => false
  | .char '?' false :: p, _ :: t => isMatch p t
  | .char '[' false :: p, x :: t =>
    let (inverted, inner) := match p with
      | .char '!' false :: inner => (true, inner)
      | inner => (false, inner)
    match inBrackets? x (inner.length + 1) true false inner with
    | none => x == '[' && isMatch p t
    | some (found, after) => found != inverted && isMatch after t
  | .char c _ :: p, x :: t => x == c && isMatch p t
termination_by (t.length, p.length)

end Glob
end Localize.Shell

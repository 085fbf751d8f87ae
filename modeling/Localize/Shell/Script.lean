import Localize.Text

/-! Shell scripts: commands, the words they are made of, and what leads their streams elsewhere. -/

namespace Localize.Shell

inductive Channel where
  | input
  | output
  | clobber
  | append
  | both
  | copy
  /-- A text that follows in the script, by its number. -/
  | document (n : Nat)
  deriving DecidableEq, Repr

inductive Choice where
  | whenUnset
  | whenSet
  | demand
  | assign
  deriving DecidableEq, Repr

/-- Which end of a value a pattern is taken off, and whether as much as it can match. -/
structure Trim where
  atEnd : Bool
  longest : Bool
  deriving DecidableEq, Repr

mutual

/-- A piece of a word. Quotes take the meaning from characters and leave a mark, so that a quoted
word is a field even if it is empty. -/
inductive Part where
  | plain (c : Char)
  | quoted (c : Char)
  | mark
  | parameter (name : Text) (inQuotes : Bool) (use : Use)
  | output (inQuotes : Bool) (script : Command)
  | sum (inQuotes : Bool) (expression : List Part)

inductive Use where
  | value
  | length
  | choose (choice : Choice) (orEmpty : Bool) (word : List Part)
  | trim (trim : Trim) (pattern : List Part)
  | invalid

inductive Redirect where
  | mk (stream : Nat) (channel : Channel) (target : List Part)

inductive Clause where
  | mk (patterns : List (List Part)) (body : Command)

inductive Assignment where
  | mk (name : Text) (value : List Part)

inductive Command where
  | nothing
  | simple (line : Nat) (assignments : List Assignment) (words : List (List Part))
      (redirects : List Redirect)
  | redirected (line : Nat) (body : Command) (redirects : List Redirect)
  | subshell (line : Nat) (body : Command) (redirects : List Redirect)
  | background (body : Command)
  | pipeline (commands : List Command)
  | negation (body : Command)
  | both (left right : Command)
  | either (left right : Command)
  | sequence (left right : Command)
  | choice (test yes no : Command)
  | loop (goal : Bool) (test body : Command)
  | each (line : Nat) (name : Text) (words : List (List Part)) (body : Command)
  | select (line : Nat) (subject : List Part) (clauses : List Clause)
  | function (name : Text) (body : Command)

end

abbrev Word := List Part

namespace Word

def plain? : Word → Option Text
  | [] => some []
  | .plain c :: ps => (plain? ps).map (c :: ·)
  | _ :: _ => none

def ofPlain (t : Text) : Word := t.map .plain

def ofQuoted (t : Text) : Word := t.map .quoted

end Word

def isNameStart (c : Char) : Bool := Text.isLetter c || c == '_'

def isNameChar (c : Char) : Bool := isNameStart c || Text.isDigit c

def isName (t : Text) : Bool :=
  match t with
  | [] => false
  | c :: cs => isNameStart c && cs.all isNameChar

def isSpecialParameter (c : Char) : Bool := "*@#?-$!".toList.contains c

def Word.assignment? (w : Word) : Option Assignment :=
  match w with
  | .plain c :: ps => if isNameStart c then go [c] ps else none
  | _ => none
where
  go (name : Text) : Word → Option Assignment
    | .plain c :: ps =>
      if c = '=' then some (.mk name ps)
      else if isNameChar c then go (name ++ [c]) ps
      else none
    | _ => none

end Localize.Shell

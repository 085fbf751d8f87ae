import Localize.Shell.Glob

/-! Splitting what words expand to into fields. Only what expansions bring in outside quotes is
split. -/

namespace Localize.Shell

/-- A piece of an expanded word: it stays whole, it is split at separators, or it holds arguments
that are divided by NUL characters alone. -/
inductive Piece where
  | whole (gs : List Glyph)
  | split (gs : List Glyph)
  | arguments (gs : List Glyph)

namespace Piece

def glyphs : Piece → List Glyph
  | .whole gs => gs
  | .split gs => gs
  | .arguments gs => gs

def toText (ps : List Piece) : Text := ps.flatMap fun p => Glyph.toText p.glyphs

end Piece

def defaultSeparators : Text := " \t\n".toList

def divider : Char := '\x00'

/-- Blank separators count as one, and not at all at the ends. -/
def isBlankSeparator (c : Char) : Bool := c == divider || defaultSeparators.contains c

/-- Where the splitting stands in a piece: in a field, behind a separator that another one may join,
or in the last field that is asked for. -/
inductive Splitting.Stage where
  | field
  | behind (blank : Bool)
  | last (blank : Bool)

/-- The fields so far, the one that is being made (backwards), and how many may still begin. In the
last field, `cut` is what is left of it without the separators at its end. -/
structure Splitting where
  done : List (List Glyph) := []
  current : List Glyph := []
  left : Option Nat := none
  cut : Option (List Glyph) := none
  isLast : Bool := false
  afterArguments : Bool := false

namespace Splitting

def close (s : Splitting) : Splitting :=
  { s with done := s.done ++ [s.current.reverse], current := [] }

def isSeparator (separators : Text) (g : Glyph) : Option Char :=
  match g with
  | .char c _ => if c == divider || separators.contains c then some c else none
  | .mark => none

/-- A separator in a field ends it, unless it is a blank at its start. `shielded` says that it does
so even there. -/
def separate (shielded : Bool) (s : Splitting) (c : Char) (g : Glyph) : Splitting × Stage :=
  let blank := isBlankSeparator c
  if s.current.isEmpty && blank && !shielded then (s, .field)
  else match s.left with
    | some 1 =>
      ({ s with
          current := g :: s.current
          cut := some s.current
          left := some 0
          isLast := true }, .last blank)
    | left => ({ s.close with left := left.map (· - 1) }, .behind blank)

def step (separators : Text) (shielded : Bool) (s : Splitting) (stage : Stage) :
    List Glyph → Splitting
  | [] => s
  | g :: gs =>
    let (s, stage) := match stage, isSeparator separators g with
      | .last blank, found =>
        let isBlank := found.any isBlankSeparator
        let cut := if isBlank then s.cut.or (some s.current)
          else if found.isSome && blank then s.cut
          else none
        ({ s with current := g :: s.current, cut }, Stage.last (blank && isBlank))
      | _, none => ({ s with current := g :: s.current }, .field)
      | .field, some c => separate shielded s c g
      | .behind blank, some c =>
        if isBlankSeparator c then (s, .behind blank)
        else if blank then (s, .behind false)
        else separate shielded s c g
    step separators shielded s stage gs

def add (separators : Text) (s : Splitting) : Piece → Splitting
  | .whole gs => { s with current := gs.reverse ++ s.current }
  | .split gs =>
    let stage := if s.isLast then .last false else .field
    { step separators s.afterArguments s stage gs with afterArguments := false }
  | .arguments gs =>
    let s := gs.foldl (fun s g =>
      if g = .char divider true then s.close else { s with current := g :: s.current }) s
    { s with afterArguments := true }

/-- The fields of a word. An empty one is left out at the end, except behind arguments. -/
def finish (s : Splitting) : List (List Glyph) :=
  let last := (s.cut.getD s.current).reverse
  if s.afterArguments || !last.isEmpty then s.done ++ [last] else s.done

end Splitting

/-- The fields that pieces make, at most `limit` of them. -/
def fields (separators : Text) (limit : Option Nat) (ps : List Piece) : List (List Glyph) :=
  (ps.foldl (Splitting.add separators) { left := limit }).finish

end Localize.Shell

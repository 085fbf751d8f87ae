import Localize.Config
import Localize.Text.Expression
import Localize.Text.Pattern

/-! The lines of a lint report: a header names a file below the source root, an issue line names a
line of that file and a string in it, and every other line says nothing. -/

namespace Localize.Report

inductive Line where
  | header (path : Text)
  | issue (line : Nat) (string : Text)
  | other
  deriving DecidableEq, Repr

structure Format where
  sourceRoot : Text
  extensions : List Text
  marker : Text
  deriving DecidableEq, Repr

def dropSlashes (t : Text) : Text := (t.reverse.dropWhile (· == '/')).reverse

/-- The source root without blanks around it, `./` in front and `/` at the end; extensions without
leading dots, and the empty one where there are none; the marker without blanks around it. -/
def Format.ofConfig (c : Config) : Format where
  sourceRoot := dropSlashes (Path.dropHere (Text.trim c.sourceRoot))
  extensions :=
    if c.extensions = [] then [[]] else c.extensions.map fun ext => ext.dropWhile (· == '.')
  marker := Text.trim c.issueMarker

/-- A path below the source root with one of the extensions, at the end of a line. -/
def Format.headerExpression (f : Format) : Text :=
  "(?:^|\\s)((?:\\./)?".toList ++ Expression.escape f.sourceRoot ++ "/\\S*?\\.(?:".toList ++
    Expression.anyOf f.extensions ++ "))\\s*:?$".toList

def Format.issueExpression (f : Format) : Text :=
  "^\\s+(\\d+):\\s*".toList ++ Expression.escape f.marker ++ "\\s*(.*?)\\s*$".toList

def Format.expressions (f : Format) : List Text := [f.headerExpression, f.issueExpression]

def Format.compile (engine : Engine) (c : Config) : Except Text Format :=
  ((Format.ofConfig c).expressions.forM engine).map fun _ => .ofConfig c

/-- Drops one pair of equal quotes around the text. -/
def unquote (t : Text) : Text :=
  match t with
  | q :: c :: cs =>
    if (q == '"' || q == '\'') && (c :: cs).getLast? == some q then (c :: cs).dropLast else t
  | t => t

/-- An indented number below `Text.wordLimit`, a colon, the marker, and a string up to the end that
blanks may surround and that spans no lines. -/
def issue? (marker : Text) (line : Text) : Option (Nat × Text) := do
  let indented := line.dropWhile Text.isBlank
  guard (indented.length < line.length)
  let number ← Text.natValue? (indented.takeWhile Text.isDigit)
  match indented.dropWhile Text.isDigit with
  | ':' :: rest =>
    let string := Text.trim (← marker.isPrefixOf? (rest.dropWhile Text.isBlank))
    guard (!string.contains '\n')
    some (number, unquote string)
  | _ => none

namespace Format

/-- Only blanks and at most one colon are left. -/
def closes (rest : Text) : Bool :=
  let rest := rest.dropWhile Text.isBlank
  rest == [] || rest == [':']

/-- A dot and the first extension after which the header closes. -/
def extensionAt? (f : Format) : Text → Option Text
  | '.' :: rest =>
    f.extensions.findSome? fun ext =>
      if ((ext.isPrefixOf? rest).any closes) then some ('.' :: ext) else none
  | _ => none

/-- The shortest end of a header path: characters other than blanks, then an extension. -/
def pathEnd? (f : Format) : Text → Option Text
  | [] => none
  | c :: cs =>
    match f.extensionAt? (c :: cs) with
    | some ext => some ext
    | none => if Text.isBlank c then none else (pathEnd? f cs).map (c :: ·)

def rootedPath? (f : Format) (t : Text) : Option Text :=
  let root := f.sourceRoot ++ ['/']
  (root.isPrefixOf? t).bind fun rest => (f.pathEnd? rest).map (root ++ ·)

/-- The same with `./` in front, or else without. -/
def pathAt? (f : Format) (t : Text) : Option Text :=
  let here : Text := ['.', '/']
  ((here.isPrefixOf? t).bind fun rest => (f.rootedPath? rest).map (here ++ ·)) <|> f.rootedPath? t

/-- The first path that follows a blank. -/
def pathAfterBlank? (f : Format) : Text → Option Text
  | [] => none
  | c :: cs => (if Text.isBlank c then f.pathAt? cs else none) <|> pathAfterBlank? f cs

/-- The path that a trimmed line ends in, at its start or after a blank. -/
def header? (f : Format) (line : Text) : Option Text :=
  let line := Text.trim line
  f.pathAt? line <|> f.pathAfterBlank? line

/-- An issue line is one even where it ends in a header path. -/
def classify (f : Format) (line : Text) : Line :=
  match issue? f.marker line with
  | some (number, string) => .issue number string
  | none => match f.header? line with
    | some path => .header path
    | none => .other

end Format
end Localize.Report

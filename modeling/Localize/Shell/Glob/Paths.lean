import Localize.Shell.Glob

/-! The paths that a pattern stands for. Every segment between slashes is a pattern for the names in
one directory; names with a leading dot are only found by a dot. -/

namespace Localize.Shell.Glob

/-- Whether a bracket is closed before the end of its segment. At least one character comes before
the closing bracket. -/
def closesBracket (p : Glob) : Bool :=
  let inner := match p with
    | .char '!' false :: inner => inner
    | inner => inner
  (inner.drop 1).contains (.char ']' false)

def isPattern : Glob → Bool
  | [] => false
  | .char '*' false :: _ => true
  | .char '?' false :: _ => true
  | .char '[' false :: p => closesBracket p || isPattern p
  | _ :: p => isPattern p

def segments : Glob → List Glob
  | [] => [[]]
  | g :: gs =>
    if g.char? = some '/' then [] :: segments gs
    else match segments gs with
      | [] => [[g]]
      | s :: ss => (g :: s) :: ss

def namesIn (tree : FileTree) (p : Path) : List Text :=
  match tree.find p with
  | .ok (.present l .directory) =>
    tree.entries.filterMap fun (l', _) =>
      match l.isPrefixOf? l' with
      | some [name] => some (Raw.ofText name)
      | _ => none
  | _ => []

def fileAt (directory : Path) (name : Text) : Path := directory.join ⟨Raw.toText name⟩

def below (tree : FileTree) (directory : Path) (base : Text) : List Glob → List Text
  | [] => []
  | s :: rest =>
    if isPattern s then
      let place := fileAt directory (if base.isEmpty then ['.'] else base)
      let dotted := s.head?.bind Glyph.char? = some '.'
      let names := (if dotted then [['.'], ['.', '.']] else []) ++ namesIn tree place
      let found := names.filter fun name => (dotted || name.head? ≠ some '.') && isMatch s name
      match rest with
      | [] => found.map (base ++ ·)
      | rest => found.flatMap fun name => below tree directory (base ++ name ++ ['/']) rest
    else
      let path := base ++ Glyph.toText s
      match rest with
      | [] => if tree.pathExists (fileAt directory path) then [path] else []
      | rest => below tree directory (path ++ ['/']) rest

/-- The paths that match, in the order of their bytes, or none if the pattern is no pattern. -/
def paths (tree : FileTree) (directory : Path) (gs : List Glyph) : List Text :=
  let p := ofGlyphs (gs.filter (· != .mark))
  let segments := segments p
  if segments.any isPattern then
    (below tree directory [] segments).mergeSort fun a b => !decide (b < a)
  else []

end Localize.Shell.Glob

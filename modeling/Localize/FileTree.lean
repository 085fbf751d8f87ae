import Localize.Path
import Localize.Text.Encoding

/-! A tree of directories, files and symbolic links, and what reading, writing and asking for a path
do to it. -/

namespace Localize

/-- Why the operating system refuses a path or a program, or a file is no text. -/
inductive FileError where
  | notFound
  | permissionDenied
  | notADirectory
  | isADirectory
  | nameTooLong
  | tooManyLinks
  | nulInPath
  | nulInCommand
  | notUtf8
  /-- Any other reason that the operating system gives, on one line. -/
  | other (reason : Text) (oneLine : '\n' ∉ reason)
  deriving DecidableEq, Repr

def FileError.message : FileError → Text
  | .notFound => "No such file or directory (os error 2)".toList
  | .permissionDenied => "Permission denied (os error 13)".toList
  | .notADirectory => "Not a directory (os error 20)".toList
  | .isADirectory => "Is a directory (os error 21)".toList
  | .nameTooLong => "File name too long (os error 36)".toList
  | .tooManyLinks => "Too many levels of symbolic links (os error 40)".toList
  | .nulInPath => "file name contained an unexpected NUL byte".toList
  | .nulInCommand => "nul byte found in provided data".toList
  | .notUtf8 => "stream did not contain valid UTF-8".toList
  | .other reason _ => reason

abbrev Location := List Text

inductive Node where
  | directory
  | file (bytes : ByteArray)
  | link (target : Text)

/-- `closed` are the files that cannot be opened, and why. -/
structure FileTree where
  entries : List (Location × Node)
  closed : List (Location × FileError) := []

/-- Where a path leads: to a node, or to a name that an existing directory does not hold. A path
with separators after such a name asks for a directory. -/
inductive Spot where
  | present (l : Location) (node : Node)
  | absent (l : Location) (asDirectory : Bool)

namespace FileTree

def empty : FileTree := { entries := [] }

/-- The root directory always exists. -/
def node? (tree : FileTree) (l : Location) : Option Node :=
  if l = [] then some .directory else tree.entries.lookup l

def putEntry (l : Location) (node : Node) : List (Location × Node) → List (Location × Node)
  | [] => [(l, node)]
  | (l', old) :: rest =>
    if l' = l then (l, node) :: rest else (l', old) :: putEntry l node rest

def put (tree : FileTree) (l : Location) (node : Node) : FileTree :=
  { tree with entries := putEntry l node tree.entries }

def close (tree : FileTree) (l : Location) (e : FileError) : FileTree :=
  { tree.put l (.file .empty) with closed := (l, e) :: tree.closed }

/-- Takes the node at `l` away, with everything below it. -/
def remove (tree : FileTree) (l : Location) : FileTree :=
  { entries := tree.entries.filter fun (l', _) => !l.isPrefixOf l'
    closed := tree.closed.filter fun (l', _) => !l.isPrefixOf l' }

/-- Names hold at most 255 bytes, paths at most 4095, and a walk passes at most 40 links. -/
def nameLimit : Nat := 255

def pathLimit : Nat := 4095

def linkLimit : Nat := 40

/-- Follows the segments `todo` from the directory `cur`, passing at most `links` links. -/
def walk (tree : FileTree) (links : Nat) (cur : Location) (todo : List Text) :
    Except FileError Spot :=
  match todo with
  | [] => .ok (.present cur .directory)
  | s :: ss =>
    if Path.isIdle s then walk tree links cur ss
    else if s = ['.', '.'] then walk tree links cur.dropLast ss
    else if nameLimit < Text.byteSize s then .error .nameTooLong
    else match tree.node? (cur ++ [s]) with
      | none =>
        if ss.all List.isEmpty then .ok (.absent (cur ++ [s]) !ss.isEmpty) else .error .notFound
      | some .directory => walk tree links (cur ++ [s]) ss
      | some (.file bytes) =>
        if ss.isEmpty then .ok (.present (cur ++ [s]) (.file bytes)) else .error .notADirectory
      | some (.link target) =>
        match links with
        | 0 => .error .tooManyLinks
        | n + 1 =>
          walk tree n (if (Path.mk target).isAbsolute then [] else cur)
            (Text.fields Path.separator target ++ ss)
termination_by (links, todo.length)

/-- Where a path leads. A relative one is followed from the root directory, as if that were the
working directory. -/
def find (tree : FileTree) (p : Path) : Except FileError Spot :=
  if p.spelled.contains '\x00' then .error .nulInPath
  else if p.spelled.isEmpty then .error .notFound
  else if pathLimit < Text.byteSize p.spelled then .error .nameTooLong
  else tree.walk linkLimit [] (Text.fields Path.separator p.spelled)

def pathExists (tree : FileTree) (p : Path) : Bool :=
  match tree.find p with
  | .ok (.present _ _) => true
  | _ => false

def isFile (tree : FileTree) (p : Path) : Bool :=
  match tree.find p with
  | .ok (.present _ (.file _)) => true
  | _ => false

def opened (tree : FileTree) (l : Location) : Except FileError Unit :=
  match tree.closed.lookup l with
  | some e => .error e
  | none => .ok ()

def read (tree : FileTree) (p : Path) : Except FileError ByteArray :=
  match tree.find p with
  | .ok (.present l (.file bytes)) => do
    tree.opened l
    return bytes
  | .ok (.present _ _) => .error .isADirectory
  | .ok (.absent _ _) => .error .notFound
  | .error e => .error e

def readText (tree : FileTree) (p : Path) : Except FileError Text :=
  match tree.read p with
  | .ok bytes => match Text.decode? bytes with
    | some t => .ok t
    | none => .error .notUtf8
  | .error e => .error e

/-- Replaces the content of a file, or makes the file if its directory exists. -/
def write (tree : FileTree) (p : Path) (bytes : ByteArray) : Except FileError FileTree :=
  match tree.find p with
  | .ok (.present l (.file _)) => do
    tree.opened l
    return tree.put l (.file bytes)
  | .ok (.present _ _) => .error .isADirectory
  | .ok (.absent l false) => .ok (tree.put l (.file bytes))
  | .ok (.absent _ true) => .error .isADirectory
  | .error e => .error e

def writeText (tree : FileTree) (p : Path) (t : Text) : Except FileError FileTree :=
  tree.write p (Text.encode t)

def makeDirectories (tree : FileTree) (cur : Location) : List Text → FileTree
  | [] => tree
  | name :: names =>
    let tree := if (tree.node? (cur ++ [name])).isNone then tree.put (cur ++ [name]) .directory
      else tree
    makeDirectories tree (cur ++ [name]) names

/-- The files and links below `l`, with their locations relative to `l`. -/
def below (tree : FileTree) (l : Location) : List (Location × Node) :=
  tree.entries.filterMap fun (l', node) =>
    match node with
    | .directory => none
    | node => (l.isPrefixOf? l').map fun rest => (rest, node)

end FileTree
end Localize

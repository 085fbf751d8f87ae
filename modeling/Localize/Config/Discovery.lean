import Localize.Config.Reader
import Localize.FileTree

/-! Finding the configuration that governs a directory: the nearest one upwards, but none beyond the
root of a repository. -/

namespace Localize.Config

def repositoryMark : Text := ".git".toList

/-- The first directory with a configuration file, unless one before it is the root of a
repository. -/
def search (tree : FileTree) : List Path → Option Path
  | [] => none
  | d :: ds =>
    if tree.pathExists (d.join ⟨fileName⟩) then some (d.join ⟨fileName⟩)
    else if tree.pathExists (d.join ⟨repositoryMark⟩) then none
    else search tree ds

def find? (tree : FileTree) (start : Path) : Option Path := search tree start.ancestors

structure Loaded where
  config : Config
  projectRoot : Path
  fromFile : Bool
  deriving DecidableEq, Repr

inductive LoadFailure where
  | unreadable (file : Path) (e : FileError)
  | malformed (file : Path) (e : Json.Error)
  | flawed (flaw : Flaw)
  deriving DecidableEq, Repr

def LoadFailure.message : LoadFailure → Text
  | .unreadable file e =>
    "Failed to read config file: ".toList ++ file.quoted ++ ": ".toList ++ e.message
  | .malformed file e =>
    "Failed to parse config file: ".toList ++ file.quoted ++ ": ".toList ++ e.message
  | .flawed flaw => flaw.message

def loadFile (tree : FileTree) (start file : Path) : Except LoadFailure Loaded := do
  let text ← (tree.readText file).mapError (.unreadable file)
  let config ← (parse text).mapError (.malformed file)
  match config.flaw? with
  | some flaw => throw (.flawed flaw)
  | none => return ⟨config, file.parent?.getD start, true⟩

/-- Where no file governs the directory, the defaults do, and it is the project root. -/
def load (tree : FileTree) (start : Path) : Except LoadFailure Loaded :=
  match find? tree start with
  | some file => loadFile tree start file
  | none => .ok ⟨{}, start, false⟩

end Localize.Config

import Localize.FileTree
import Localize.Replacement
import Localize.Text.Lines

/-! A source file in memory while it is edited. Its line ending and whether its last line is ended
are kept, so that only edited lines change when it is written back. -/

namespace Localize

structure SourceFile where
  path : Path
  lines : Buffer
  ending : Text.Ending
  endsLine : Bool
  changed : Bool := false
  deriving DecidableEq, Repr

namespace SourceFile

def ofContent (path : Path) (content : Text) : SourceFile :=
  ⟨path, Text.lines content, Text.ending content, Text.endsLine content, false⟩

def read (tree : FileTree) (path : Path) : Except FileError SourceFile :=
  (tree.readText path).map (ofContent path)

def touch (f : SourceFile) : SourceFile := { f with changed := true }

def content (f : SourceFile) : Text :=
  Text.joined f.ending.text f.lines ++ if f.endsLine then f.ending.text else []

/-- Writes the file back if it was changed, and says whether it was. -/
def flush (f : SourceFile) (tree : FileTree) : Except FileError (Bool × FileTree) :=
  if f.changed then (tree.writeText f.path f.content).map fun tree => (true, tree)
  else .ok (false, tree)

def readFailure (path : Path) (e : FileError) : Text :=
  "Failed to read source file: ".toList ++ path.quoted ++ ": ".toList ++ e.message

def writeFailure (path : Path) (e : FileError) : Text :=
  "Failed to write source file: ".toList ++ path.quoted ++ ": ".toList ++ e.message

end SourceFile
end Localize

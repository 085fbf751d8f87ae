import Localize.Report.Issue
import Localize.Report.Line
import Localize.Text.Lines

/-! Reading a lint report: each issue line belongs to the file of the header before it. -/

namespace Localize.Report

/-- The issues read so far, and the file that the next ones belong to. -/
structure Reading where
  file : Option Path := none
  issues : List Issue := []

/-- A header path lies below the project root, whatever `./` it starts with. -/
def resolve (projectRoot : Path) (header : Text) : Path :=
  projectRoot.join ⟨Path.dropHere header⟩

/-- An issue line before the first header belongs to no file. -/
def Reading.step (projectRoot : Path) (r : Reading) : Line → Reading
  | .header path => { r with file := some (resolve projectRoot path) }
  | .issue line string =>
    { r with issues := r.issues ++ (r.file.map fun file => ⟨file, line, string⟩).toList }
  | .other => r

def Reading.run (f : Format) (projectRoot : Path) (r : Reading) (lines : List Text) : Reading :=
  lines.foldl (fun r line => r.step projectRoot (f.classify line)) r

def parse (f : Format) (projectRoot : Path) (report : Text) : List Issue :=
  (Reading.run f projectRoot {} (Text.lines report)).issues

end Localize.Report

import Localize.Path

/-! A finding of the linter, and the findings of each file. -/

namespace Localize

/-- A hardcoded string that the linter found, with the line it claims, counted from one. -/
structure Issue where
  file : Path
  line : Nat
  string : Text
  deriving DecidableEq, Repr, Inhabited

namespace Issue

/-- The issues of one file, under the spelling that was met first. -/
abbrev Group := Path × List Issue

/-- An issue joins the group of its file, or opens one at the end. -/
def insert (issue : Issue) : List Group → List Group
  | [] => [(issue.file, [issue])]
  | (file, issues) :: rest =>
    if file.Same issue.file then (file, issues ++ [issue]) :: rest
    else (file, issues) :: insert issue rest

def groups (issues : List Issue) : List Group :=
  issues.foldl (fun gs issue => insert issue gs) []

end Issue
end Localize

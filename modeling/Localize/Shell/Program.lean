import Localize.Shell.Redirection

/-! The programs that there are, and where a name is looked for. -/

namespace Localize.Shell

inductive Program where
  | shell
  | concatenate
  | echo
  deriving DecidableEq, Repr

namespace Program

def named? (name : Text) : Option Program :=
  match String.ofList name with
  | "sh" => some .shell
  | "dash" => some .shell
  | "cat" => some .concatenate
  | "echo" => some .echo
  | _ => none

def directories : List Text := ["/usr/bin", "/bin"].map String.toList

def defaultPath : Text := "/usr/local/sbin:/usr/local/bin:/usr/sbin:/usr/bin:/sbin:/bin".toList

def at? (path : Text) : Option Program :=
  directories.findSome? fun d => (((d ++ ['/']).isPrefixOf? path)).bind named?

def refusal (tree : FileTree) (directory : Path) (name : Text) : FileError :=
  if name = [] then .notFound
  else if name = ['.'] || name = ['.', '.'] then .permissionDenied
  else if name.contains '/' then
    match tree.find (directory.join ⟨name⟩) with
    | .ok (.present _ _) => .permissionDenied
    | .ok (.absent _ _) => .notFound
    | .error e => e
  else if FileTree.nameLimit < Text.byteSize name then .nameTooLong
  else .notFound

/-- What a name leads to on the way through the directories of a path: a program, a file that is
none, nothing, or no more than something that is no file. -/
inductive Located where
  | found (path : Text) (program : Program)
  | denied (path : Text)
  | missing
  | noFile
  deriving DecidableEq, Repr

def locateIn (m : Machine) (name : Text) (seen : Located) : List Text → Located
  | [] => seen
  | d :: ds =>
    let path := if d.isEmpty then name else d ++ '/' :: name
    match at? path with
    | some program => .found path program
    | none =>
      match m.find path with
      | .ok (.present _ (.file _)) => .denied path
      | .ok (.present _ _) => locateIn m name .noFile ds
      | _ => locateIn m name (if name.isEmpty then .noFile else seen) ds

def locate (m : Machine) (searchPath name : Text) : Located :=
  if name.contains '/' then
    match at? name with
    | some program => .found name program
    | none =>
      match m.find name with
      | .ok (.present _ _) => .denied name
      | .ok (.absent _ _) => .missing
      | .error .notFound => .missing
      | .error .notADirectory => .missing
      | .error _ => .denied name
  else locateIn m name .missing (Text.fields ':' searchPath)

def searchPath (m : Machine) : Text := (m.value? "PATH".toList).getD defaultPath

end Program
end Localize.Shell

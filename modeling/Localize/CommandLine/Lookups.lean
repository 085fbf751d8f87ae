import Localize.CommandLine.Execution

/-! The paths that carrying out a command looks at. Each round of capturing them in a tree lets the
command come further: to its configuration, then to its messages and its report, then to the
reported files. -/

namespace Localize

/-- The places that an absolute path leads past, each with the spelling up to it. -/
def Path.stations (p : Path) : List (Location × Path) :=
  go [] [] (Text.fields separator p.spelled)
where
  go (l : Location) (spelled : Text) : List Text → List (Location × Path)
    | [] => []
    | s :: ss =>
      let spelled := if isIdle s then spelled else spelled ++ separator :: s
      let l := if isIdle s then l else if s = ['.', '.'] then l.dropLast else l ++ [s]
      if isIdle s then go l spelled ss else (l, ⟨spelled⟩) :: go l spelled ss

/-- The files of a tree that another one holds otherwise or not at all. -/
def FileTree.newFiles (tree old : FileTree) : List (Location × ByteArray) :=
  tree.entries.filterMap fun (l, node) =>
    match node, old.node? l with
    | .file bytes, some (.file before) => if bytes.data = before.data then none else some (l, bytes)
    | .file bytes, _ => some (l, bytes)
    | _, _ => none

namespace CommandLine

def lookupRounds : Nat := 3

def configLookups (directory : Path) : List Path :=
  directory.ancestors.flatMap fun d =>
    [d.join ⟨Config.fileName⟩, d.join ⟨Config.repositoryMark⟩]

def reportedFiles (launch : Launcher) (o : RunOptions) (start : Start) (l : Config.Loaded)
    (tree : FileTree) : List Path :=
  match source o start tree,
    Localizer.loadDictionary tree (l.config.messagesFile l.projectRoot) with
  | .ok source, .ok dictionary =>
    let p := Localizer.ofConfig l.config l.projectRoot dictionary
    (p.issues (p.run launch source true tree).reportText).map (·.file)
  | _, _ => []

def runLookups (launch : Launcher) (o : RunOptions) (start : Start) (tree : FileTree) :
    List Path :=
  configLookups start.directory ++
    match prepare o start.directory tree with
    | .error _ => []
    | .ok l =>
      l.config.messagesFile l.projectRoot ::
        o.report.toList.map (start.directory.join ⟨·⟩) ++
        l.config.lintCommand.map (l.projectRoot.join ⟨·⟩) ++
        reportedFiles launch o start l tree

def lookups (launch : Launcher) (start : Start) (tree : FileTree) : List Path :=
  match request start.arguments with
  | .ok (.command .init) => [start.directory.join ⟨Config.fileName⟩]
  | .ok (.command (.run o)) => runLookups launch o start tree
  | _ => []

def readsInput (arguments : List Text) : Bool :=
  match request arguments with
  | .ok (.command (.run o)) => o.readsInput
  | _ => false

end CommandLine
end Localize

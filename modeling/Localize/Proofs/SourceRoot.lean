import Localize.Proofs.ReportOrder
import Localize.Proofs.EffectLog
import Localize.Proofs.Config
import Localize.Proofs.Report
import Localize.Proofs.Resolution

/-! The files of a run and the source root. A header begins with the source root, but nothing keeps
a `..` or a second separator out of what follows; a run over a report whose headers never climb above
the source root stays below it. -/

namespace Localize

theorem Path.moves_dropHere (t : Text) : (Path.mk (dropHere t)).moves = (Path.mk t).moves := by
  fun_induction dropHere t with
  | case1 rest ih => exact ih.trans (moves_append_cons ['.'] rest).symm
  | case2 t => rfl

namespace Report

variable {c : Config} {projectRoot file : Path} {front rest ext header t : Text}

/-- The source root without blanks around it. -/
def sourcePath (c : Config) : Path := ⟨Text.trim c.sourceRoot⟩

/-- The header is a relative path, and behind the source root it never climbs above it. -/
structure Confined (c : Config) (header : Text) : Prop where
  relative : (Path.mk (Path.dropHere header)).isAbsolute = false
  stays : Path.stays 0 ((Path.mk header).moves.drop (sourcePath c).moves.length) = true

instance (c : Config) (header : Text) : Decidable (Confined c header) :=
  decidable_of_iff (_ ∧ _) ⟨fun h => ⟨h.1, h.2⟩, fun h => ⟨h.relative, h.stays⟩⟩

/-- The file ends in an extension of the configuration. -/
def HasExtension (c : Config) (file : Path) : Prop :=
  ∃ ext ∈ c.extensions, '.' :: ext.dropWhile (· == '.') <:+ file.spelled

/-- The file lies below the source root, and it has an extension if those hold no separators. -/
structure Sourced (c : Config) (projectRoot file : Path) : Prop where
  under : file.Under (projectRoot.join (sourcePath c))
  extension : (∀ ext ∈ c.extensions, '/' ∉ ext) → HasExtension c file

/-- A header path is the source root, a separator and a rest that ends in an extension, with or
without `./` in front. -/
structure Format.IsRooted (f : Format) (path front rest ext : Text) : Prop where
  shape : path = front ++ (f.sourceRoot ++ '/' :: rest)
  front : front = [] ∨ front = ['.', '/']
  mem : ext ∈ f.extensions
  suffix : '.' :: ext <:+ rest

theorem Format.HeaderPath.exists_isRooted {f : Format} {path : Text} (h : f.HeaderPath path) :
    ∃ front rest ext, f.IsRooted path front rest ext := by
  obtain @⟨front, name, ext, hfront, -, hmem⟩ := h
  exact ⟨front, _, ext, rfl, hfront, hmem, List.suffix_append _ _⟩

theorem exists_dropSlashes (t : Text) :
    ∃ slashes, (∀ ch ∈ slashes, ch = Path.separator) ∧ t = dropSlashes t ++ slashes := by
  refine ⟨(t.reverse.takeWhile (· == '/')).reverse, fun ch hch => ?_, ?_⟩
  · exact eq_of_beq (List.mem_takeWhile_imp (p := (· == '/')) (List.mem_reverse.1 hch))
  · rw [dropSlashes, ← List.reverse_append, List.takeWhile_append_dropWhile, List.reverse_reverse]

theorem moves_sourceRoot (c : Config) :
    (Path.mk (Format.ofConfig c).sourceRoot).moves = (sourcePath c).moves := by
  obtain ⟨slashes, hslashes, hsplit⟩ := exists_dropSlashes (Path.dropHere (Text.trim c.sourceRoot))
  have hmoves := Path.moves_append_separators hslashes
    (dropSlashes (Path.dropHere (Text.trim c.sourceRoot)))
  rw [← hsplit, Path.moves_dropHere] at hmoves
  exact hmoves.symm

theorem Format.IsRooted.moves_eq (h : (Format.ofConfig c).IsRooted header front rest ext) :
    (Path.mk header).moves = (sourcePath c).moves ++ (Path.mk rest).moves := by
  have hbehind : (Path.mk header).moves =
      (Path.mk ((Format.ofConfig c).sourceRoot ++ '/' :: rest)).moves := by
    rw [h.shape]
    rcases h.front with rfl | rfl
    · rfl
    · exact Path.moves_append_cons ['.'] _
  rw [hbehind, ← moves_sourceRoot]
  exact Path.moves_append_cons _ _

theorem Confined.under (hc : Confined c header)
    (h : (Format.ofConfig c).IsRooted header front rest ext)
    (hroot : (sourcePath c).isAbsolute = false) :
    (resolve projectRoot header).Under (projectRoot.join (sourcePath c)) := by
  have hstays := hc.stays
  rw [h.moves_eq, List.drop_left] at hstays
  rw [Path.Under, resolve, Path.resolved_join hc.relative, Path.moves_dropHere, h.moves_eq,
    Path.resolve_append, ← Path.resolved_join hroot]
  exact Path.prefix_resolve_of_stays _ hstays

theorem suffix_dropHere {s : Text} (hs : '/' ∉ s) (h : s <:+ t) : s <:+ Path.dropHere t := by
  fun_induction Path.dropHere t with
  | case1 rest ih =>
    rcases List.suffix_cons_iff.1 h with rfl | h
    · exact absurd (by simp) hs
    · rcases List.suffix_cons_iff.1 h with rfl | h
      · exact absurd (by simp) hs
      · exact ih h
  | case2 t => exact h

theorem suffix_join {s : Text} {p q : Path} (h : s <:+ q.spelled) : s <:+ (p.join q).spelled := by
  unfold Path.join
  split
  · exact h
  · split
    · exact h.trans (List.suffix_append _ _)
    · exact (h.trans (List.suffix_cons _ _)).trans (List.suffix_append _ _)

theorem Format.IsRooted.hasExtension (h : (Format.ofConfig c).IsRooted header front rest ext)
    (hvalid : c.IsValid) (hseparator : ∀ ext ∈ c.extensions, '/' ∉ ext) (projectRoot : Path) :
    HasExtension c (resolve projectRoot header) := by
  have hmem := h.mem
  rw [Format.ofConfig, if_neg (Config.isValid_iff.1 hvalid).2.1] at hmem
  obtain ⟨ext', hext', rfl⟩ := List.mem_map.1 hmem
  have hplain : '/' ∉ '.' :: ext'.dropWhile (· == '.') := by
    rw [List.mem_cons, not_or]
    have hext := hseparator ext' hext'
    exact ⟨by decide, fun hslash => hext ((List.dropWhile_sublist _).subset hslash)⟩
  have hheader : '.' :: ext'.dropWhile (· == '.') <:+ header := by
    rw [h.shape]
    exact (h.suffix.trans (List.suffix_cons _ _)).trans
      ((List.suffix_append _ _).trans (List.suffix_append _ _))
  exact ⟨ext', hext', suffix_join (suffix_dropHere hplain hheader)⟩

theorem sourced_of_confined {report : Text} (hvalid : c.IsValid)
    (hroot : (sourcePath c).isAbsolute = false)
    (hheader : header ∈ (Format.ofConfig c).headers report) (hc : Confined c header)
    (projectRoot : Path) : Sourced c projectRoot (resolve projectRoot header) := by
  obtain ⟨l, -, hl⟩ := Format.mem_headers.1 hheader
  obtain ⟨front, rest, ext, hrooted⟩ := (Format.headerLine_of_classify hl).headerPath.exists_isRooted
  exact ⟨hc.under hrooted hroot, fun hseparator =>
    hrooted.hasExtension hvalid hseparator projectRoot⟩

end Report

namespace Localizer

open Report (Confined Sourced sourcePath Format)

theorem exists_issue_of_change {p : Localizer} {dryRun : Bool} {report : Text} {tree : FileTree}
    {lintStatus : Option LintStatus} {change : FileChange}
    (h : change ∈ ((p.process dryRun report tree).account p dryRun lintStatus).changes) :
    ∃ i ∈ p.issues report, i.file = change.path := by
  rw [Course.account_eq] at h
  have hpath := (p.tours_process dryRun report tree).2.paths_sublist.subset
    (List.mem_map_of_mem (f := (·.path)) h)
  obtain ⟨g, hg, hgroup⟩ := List.mem_map.1 hpath
  have hmention := (Issue.mem_groups.1 hg).1
  rw [hgroup] at hmention
  exact List.mem_map.1 ((Issue.firstMentions_sublist _).subset hmention)

/-- If no header of a report climbs above the source root, every issue is of a file below the source
root with an extension, and so is every change of the run; without links in the tree, everything
that the run rewrites lies below the source root. -/
theorem confined_run_stays_in_source {c : Config} (hvalid : c.IsValid)
    (hroot : (sourcePath c).isAbsolute = false) (projectRoot : Path) (d : Dictionary)
    {report : Text} (tree : FileTree) (lintStatus : Option LintStatus)
    (hconfined : ∀ header ∈ (Format.ofConfig c).headers report, Confined c header) :
    let p := ofConfig c projectRoot d
    let course := p.process false report tree
    (∀ i ∈ p.issues report, Sourced c projectRoot i.file) ∧
    (∀ change ∈ (course.account p false lintStatus).changes,
      Sourced c projectRoot change.path) ∧
    ((∀ l target, tree.node? l ≠ some (.link target)) →
      ∀ l, course.tree.node? l ≠ tree.node? l →
        (projectRoot.join (sourcePath c)).location <+: l) := by
  intro p course
  have hissues : ∀ i ∈ p.issues report, Sourced c projectRoot i.file :=
    Report.forall_file_parse fun header hheader =>
      Report.sourced_of_confined hvalid hroot hheader (hconfined header hheader) projectRoot
  have hchanges : ∀ change ∈ (course.account p false lintStatus).changes,
      Sourced c projectRoot change.path := by
    intro change hchange
    obtain ⟨i, hi, hfile⟩ := exists_issue_of_change hchange
    exact hfile ▸ hissues i hi
  refine ⟨hissues, hchanges, fun hlinks l hl => ?_⟩
  rw [Course.account_eq] at hchanges
  have hlogs := (p.tours_process false report tree).2.logs
  by_contra hbelow
  refine hl (hlogs.node?_eq fun change hchange bytes hfind => ?_)
  rw [FileTree.location_of_find hlinks hfind] at hbelow
  exact hbelow (hchanges change hchange).under.location_prefix

/-- A way below the source root that goes up and stays there. -/
def detourReport : Text :=
  "src/pages/../a.tsx\n  1: Hardcoded string: \"Save\"\n".toList

theorem confined_run_of_detour :
    ({} : Config).IsValid ∧ (sourcePath {}).isAbsolute = false ∧
    (∀ header ∈ (Format.ofConfig {}).headers detourReport, Confined {} header) ∧
    ∀ i ∈ saveLocalizer.issues detourReport, i.file.Under ⟨"/src".toList⟩ := by
  have hvalid : ({} : Config).IsValid := by decide
  have hroot : (sourcePath {}).isAbsolute = false := by decide
  have hconfined : ∀ header ∈ (Format.ofConfig {}).headers detourReport, Confined {} header := by
    decide +kernel
  obtain ⟨hissues, -, -⟩ := confined_run_stays_in_source hvalid hroot ⟨"/".toList⟩
    saveLocalizer.dictionary twoPages none hconfined
  exact ⟨hvalid, hroot, hconfined, fun i hi => (hissues i hi).under⟩

/-- A page beside the source root. -/
def secretPage : FileTree :=
  { entries := [(["src".toList], .directory),
      (["secret.tsx".toList], .file (Text.encode "<p>Save</p>".toList))] }

def secretReport : Text :=
  "src/../secret.tsx\n  1: Hardcoded string: \"Save\"\n".toList

theorem secretPage_holds : secretPage.Holds ⟨"/src/../secret.tsx".toList⟩ ["secret.tsx".toList]
    "<p>Save</p>".toList := by
  refine ⟨_, ?_, rfl, Text.decode?_encode _⟩
  change secretPage.walk FileTree.linkLimit []
    [[], "src".toList, "..".toList, "secret.tsx".toList] = _
  rw [FileTree.walk_idle rfl, FileTree.walk_directory (by decide) rfl]
  exact FileTree.walk_up.trans (FileTree.walk_file (by decide) rfl)

/-- A header that goes up from the source root has a page beside it rewritten. -/
theorem header_leaves_source_root :
    ({} : Config).IsValid ∧ (sourcePath {}).components = [.name "src".toList] ∧
    saveLocalizer.issues secretReport = [pageIssue "/src/../secret.tsx" 1 "Save"] ∧
    ¬ (Path.ofString "/src/../secret.tsx").Under
      (saveLocalizer.projectRoot.join (sourcePath {})) ∧
    secretPage.Holds (.ofString "/src/../secret.tsx") ["secret.tsx".toList]
      "<p>Save</p>".toList ∧
    ((saveLocalizer.process false secretReport secretPage).account saveLocalizer false
      none).summary = ⟨1, 1, 0⟩ := by
  have hissues : saveLocalizer.issues secretReport =
      [pageIssue "/src/../secret.tsx" 1 "Save"] := by decide +kernel
  have hgroups : Issue.groups (saveLocalizer.issues secretReport) =
      [(⟨"/src/../secret.tsx".toList⟩, [pageIssue "/src/../secret.tsx" 1 "Save"])] := by
    rw [hissues]
    rfl
  have hedits : (saveLocalizer.replaced "<p>Save</p>".toList
      [pageIssue "/src/../secret.tsx" 1 "Save"]).map Applied.edit =
        [("save".toList, ⟨0, "<p>Save</p>".toList, "<p>\x7bt(\"save\")\x7d</p>".toList⟩)] := by
    rw [replaced, settled, bottomUp, List.mergeSort_of_pairwise (by decide)]
    decide +kernel
  exact ⟨by decide, by decide, hissues, by decide, secretPage_holds,
    summary_of_one_group none hgroups secretPage_holds hedits⟩

end Localizer
end Localize

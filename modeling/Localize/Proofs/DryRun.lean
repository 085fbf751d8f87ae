import Localize.Proofs.Course

/-! A dry run predicts the run that writes. What a visit comes to depends on where its path leads
and on what the file there holds; a write changes that for no other file, so each visit of the real
run finds what the dry run finds, whatever was written before it. -/

namespace Localize

theorem Spot.eq_of_shape_eq {spot spot' : Spot} (hshape : spot'.shape = spot.shape)
    (hfile : ∀ l bytes, spot ≠ .present l (.file bytes)) : spot' = spot := by
  cases spot with
  | absent l d =>
    cases spot' with
    | absent l' d' => exact hshape
    | present l' node' => cases hshape
  | present l node =>
    cases spot' with
    | absent l' d' => cases hshape
    | present l' node' =>
      cases node with
      | file bytes => exact absurd rfl (hfile l bytes)
      | directory =>
        cases node' with
        | directory => exact hshape
        | file bytes => cases hshape
        | link target => cases hshape
      | link target =>
        cases node' with
        | directory => cases hshape
        | file bytes => cases hshape
        | link target' => exact hshape

namespace FileTree

variable {tree tree' : FileTree} {p q : Path}

def SameFile (tree : FileTree) (p q : Path) : Prop :=
  ∃ l bytes, tree.find p = .ok (.present l (.file bytes)) ∧
    tree.find q = .ok (.present l (.file bytes))

theorem sameFile_congr (hp : tree'.find p = tree.find p) (hq : tree'.find q = tree.find q) :
    tree'.SameFile p q ↔ tree.SameFile p q := by
  rw [SameFile, SameFile, hp, hq]

theorem sameFile_of_holds {l : Location} {content content' : Text}
    (h : tree.Holds p l content) (h' : tree.Holds q l content') :
    tree.SameFile p q := by
  obtain ⟨bytes, hfind, -⟩ := h
  obtain ⟨bytes', hfind', -⟩ := h'
  have hnode := node?_of_find hfind
  rw [node?_of_find hfind'] at hnode
  cases hnode
  exact ⟨l, _, hfind, hfind'⟩

theorem sameFile_symm (h : tree.SameFile p q) :
    tree.SameFile q p :=
  let ⟨l, bytes, hp, hq⟩ := h
  ⟨l, bytes, hq, hp⟩

/-- A path leads where it led, to the same bytes, if the shape is kept and its file is untouched. -/
theorem find_eq_of_untouched (hshape : tree'.shape = tree.shape)
    (hfile : ∀ l bytes, tree.find q = .ok (.present l (.file bytes)) →
      tree'.node? l = tree.node? l) : tree'.find q = tree.find q := by
  have hmap : (tree'.find q).map Spot.shape = (tree.find q).map Spot.shape := by
    rw [← find_shape, hshape, find_shape]
  by_cases hisFile : ∃ l bytes, tree.find q = .ok (.present l (.file bytes))
  · obtain ⟨l, bytes, hq⟩ := hisFile
    obtain ⟨bytes', hq'⟩ := exists_find_of_shape_eq hshape hq
    have hnode := hfile l bytes hq
    rw [node?_of_find hq, node?_of_find hq'] at hnode
    cases hnode
    rw [hq', hq]
  · cases hq : tree.find q with
    | error e =>
      cases hq' : tree'.find q with
      | error e' => rw [hq, hq'] at hmap; cases hmap; rfl
      | ok spot' => rw [hq, hq'] at hmap; cases hmap
    | ok spot =>
      cases hq' : tree'.find q with
      | error e' => rw [hq, hq'] at hmap; cases hmap
      | ok spot' =>
        rw [hq, hq'] at hmap
        rw [Spot.eq_of_shape_eq (Except.ok.inj hmap)]
        rintro l bytes rfl
        exact hisFile ⟨l, bytes, hq⟩

theorem isFile_congr (hfind : tree'.find p = tree.find p) : tree'.isFile p = tree.isFile p := by
  rw [isFile, isFile, hfind]

theorem readText_congr (hfind : tree'.find p = tree.find p) (hshape : tree'.shape = tree.shape) :
    tree'.readText p = tree.readText p := by
  have hopened : tree'.opened = tree.opened := funext (opened_of_shape_eq hshape)
  rw [readText, readText, read, read, hfind, hopened]

end FileTree

namespace Localizer

variable {p : Localizer} {tree tree' : FileTree} {path q : Path} {issues : List Issue} {v : Visit}
  {dryRun : Bool}

theorem Visits.shape_eq (h : p.Visits dryRun tree path issues v tree') :
    tree'.shape = tree.shape := by
  cases h with
  | missing absent => rfl
  | unreadable e present unread => rfl
  | unchanged holds idle => rfl
  | changed holds busy =>
    cases dryRun with
    | true => rfl
    | false => exact FileTree.shape_put_of_holds holds _

theorem Visits.find_eq (h : p.Visits dryRun tree path issues v tree')
    (hq : ¬ tree.SameFile path q) : tree'.find q = tree.find q := by
  cases h with
  | missing absent => rfl
  | unreadable e present unread => rfl
  | unchanged holds idle => rfl
  | @changed l content holds busy =>
    cases dryRun with
    | true => rfl
    | false =>
      refine FileTree.find_eq_of_untouched (FileTree.shape_put_of_holds holds _) ?_
      intro l' bytes' hfind'
      obtain ⟨bytes, hfind, -⟩ := holds
      have hnode := FileTree.node?_of_find hfind
      refine (FileTree.node?_put tree (FileTree.ne_nil_of_node? hnode) l' _).trans (if_neg ?_)
      rintro rfl
      -- One location holds one file, so both paths lead to it.
      rw [FileTree.node?_of_find hfind'] at hnode
      cases hnode
      exact hq ⟨l', _, hfind, hfind'⟩

theorem Visits.tree_eq_of_dryRun (h : p.Visits true tree path issues v tree') : tree' = tree := by
  cases h <;> rfl

/-- What a visit comes to depends on where its path leads, and not on whether the run writes. -/
theorem visit_congr (p : Localizer) (dryRun dryRun' : Bool) (issues : List Issue)
    (hfind : tree'.find path = tree.find path) (hshape : tree'.shape = tree.shape) :
    (p.visit dryRun' tree' (path, issues)).1 = (p.visit dryRun tree (path, issues)).1 := by
  simp only [visit, FileTree.isFile_congr hfind, SourceFile.read,
    FileTree.readText_congr hfind hshape]
  split
  · rfl
  · split
    · rfl
    · cases dryRun <;> cases dryRun' <;> rfl

/-- Each visit of the real run finds what the dry run finds, and the dry run leaves the tree. -/
theorem visitAll_dryRun (p : Localizer) {groups : List Issue.Group}
    (hfind : ∀ g ∈ groups, tree'.find g.1 = tree.find g.1) (hshape : tree'.shape = tree.shape)
    (hapart : groups.Pairwise fun g g' => ¬ tree.SameFile g.1 g'.1) :
    (p.visitAll true tree groups).visits = (p.visitAll false tree' groups).visits ∧
      (p.visitAll true tree groups).tree = tree := by
  induction groups generalizing tree' with
  | nil => exact ⟨rfl, rfl⟩
  | cons group groups ih =>
    obtain ⟨path, issues⟩ := group
    obtain ⟨hhead, hrest⟩ := List.forall_mem_cons.1 hfind
    obtain ⟨hothers, hapart⟩ := List.pairwise_cons.1 hapart
    obtain ⟨dry, hdry, hdryVisits⟩ := p.visits_visit true tree path issues
    obtain ⟨real, hreal, hrealVisits⟩ := p.visits_visit false tree' path issues
    obtain rfl := hdryVisits.tree_eq_of_dryRun
    have hkept : ∀ g ∈ groups, real.find g.1 = dry.find g.1 := by
      intro g hg
      have hdifferent := mt (FileTree.sameFile_congr hhead (hrest g hg)).1 (hothers g hg)
      exact (hrealVisits.find_eq hdifferent).trans (hrest g hg)
    obtain ⟨hvisits, htree⟩ := ih hkept (hrealVisits.shape_eq.trans hshape) hapart
    rw [visitAll_cons hdry, visitAll_cons hreal, p.visit_congr true false issues hhead hshape,
      hvisits]
    exact ⟨rfl, htree⟩

/-- If no two groups of a report are of one file on disk, a dry run leaves the files alone and gives
the account of the run that writes, but for the mark that it is dry. -/
theorem dryRun_predicts (p : Localizer) {report : Text} {tree : FileTree}
    (lintStatus : Option LintStatus)
    (h : (Issue.groups (p.issues report)).Pairwise fun g g' => ¬ tree.SameFile g.1 g'.1) :
    (p.process true report tree).failure = none ∧ (p.process false report tree).failure = none ∧
    (p.process true report tree).tree = tree ∧
    (p.process true report tree).account p true lintStatus =
      { (p.process false report tree).account p false lintStatus with dryRun := true } := by
  obtain ⟨hvisits, htree⟩ := p.visitAll_dryRun (fun _ _ => rfl) rfl h
  refine ⟨(p.tours_process true report tree).1, (p.tours_process false report tree).1, htree, ?_⟩
  rw [Course.account_eq, Course.account_eq]
  rw [process, process, hvisits]

def twoPages : FileTree :=
  { entries := [(["src".toList], .directory),
      (["src".toList, "a.tsx".toList], .file (Text.encode "<p>Save</p>".toList)),
      (["src".toList, "b.tsx".toList], .file (Text.encode "<b>Save</b>".toList))] }

def saveReport : Text :=
  "src/a.tsx\n  1: Hardcoded string: \"Save\"\n./src/b.tsx\n  1: Hardcoded string: \"Save\"\n".toList

def saveLocalizer : Localizer :=
  ofConfig {} ⟨"/".toList⟩ (.ofJson (.object [("save".toList, .string "Save".toList)]))

theorem groups_saveReport :
    (Issue.groups (saveLocalizer.issues saveReport)).map (·.1) =
      [⟨"/src/a.tsx".toList⟩, ⟨"/src/b.tsx".toList⟩] := by
  decide +kernel

/-- Both pages are to be changed; the second group does not find what the first one wrote. -/
theorem dryRun_predicts_two_pages :
    ((Issue.groups (saveLocalizer.issues saveReport)).Pairwise fun g g' =>
      ¬ twoPages.SameFile g.1 g'.1) ∧
    (saveLocalizer.process true saveReport twoPages).tree = twoPages ∧
    (saveLocalizer.process true saveReport twoPages).account saveLocalizer true none =
      { (saveLocalizer.process false saveReport twoPages).account saveLocalizer false none with
        dryRun := true } := by
  have hfirst : twoPages.find ⟨"/src/a.tsx".toList⟩ = .ok (.present _ _) :=
    FileTree.walk_file_of_directory (by decide) (by decide) rfl rfl
  have hsecond : twoPages.find ⟨"/src/b.tsx".toList⟩ = .ok (.present _ _) :=
    FileTree.walk_file_of_directory (by decide) (by decide) rfl rfl
  have hapart : (Issue.groups (saveLocalizer.issues saveReport)).Pairwise fun g g' =>
      ¬ twoPages.SameFile g.1 g'.1 := by
    refine List.Pairwise.of_map (·.1) (fun _ _ h => h) ?_ (S := fun p q => ¬ twoPages.SameFile p q)
    rw [groups_saveReport, List.pairwise_pair]
    rintro ⟨l, bytes, hl, hl'⟩
    rw [hfirst] at hl
    rw [hsecond] at hl'
    cases hl
    cases hl'
  obtain ⟨-, -, htree, haccount⟩ := dryRun_predicts saveLocalizer none hapart
  exact ⟨hapart, htree, haccount⟩

end Localizer
end Localize

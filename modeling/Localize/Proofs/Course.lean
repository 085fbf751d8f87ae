import Localize.Proofs.FileTree
import Localize.Proofs.Settling

/-! A run over the groups of a report, visit by visit: what a visit can find, what it leaves in the
tree, and that no visit stops the run. -/

namespace Localize

/-- The lines under the line ending of a text, with a last one ended as in the text. -/
def SourceFile.joinedAs (content : Text) (lines : Buffer) : Text :=
  Text.joined (Text.ending content).text lines ++
    if Text.endsLine content then (Text.ending content).text else []

theorem SourceFile.flush_of_holds {tree : FileTree} {path : Path} {l : Location} {content : Text}
    (h : tree.Holds path l content) (lines : Buffer) :
    { SourceFile.ofContent path content with lines, changed := true }.flush tree =
      .ok (true, tree.put l (.file (Text.encode (SourceFile.joinedAs content lines)))) := by
  have hwrite := FileTree.writeText_of_holds h (SourceFile.joinedAs content lines)
  rw [SourceFile.flush, if_pos rfl]
  exact congrArg (Except.map fun tree => (true, tree)) hwrite

namespace Localizer

/-- The issues of a file with this content, handled from the bottom up. -/
def settled (p : Localizer) (content : Text) (issues : List Issue) : List Outcome × Buffer :=
  p.settleAll (Text.lines content) (bottomUp issues)

def replaced (p : Localizer) (content : Text) (issues : List Issue) : List Applied :=
  (p.settled content issues).1.filterMap Outcome.applied?

/-- What a visit to a file comes to, and the tree that it leaves. -/
inductive Visits (p : Localizer) (dryRun : Bool) (tree : FileTree) (path : Path)
    (issues : List Issue) : Visit → FileTree → Prop
  | missing (absent : tree.isFile path = false) :
      Visits p dryRun tree path issues (.missing path issues) tree
  | unreadable (e : FileError) (present : tree.isFile path = true)
      (unread : tree.readText path = .error e) :
      Visits p dryRun tree path issues (.unreadable path e issues) tree
  | unchanged {l : Location} {content : Text} (holds : tree.Holds path l content)
      (idle : p.replaced content issues = []) :
      Visits p dryRun tree path issues (.edited path (p.settled content issues).1 none) tree
  | changed {l : Location} {content : Text} (holds : tree.Holds path l content)
      (busy : p.replaced content issues ≠ []) :
      Visits p dryRun tree path issues
        (.edited path (p.settled content issues).1
          (some (p.hook.augment (p.settled content issues).2).1))
        (if dryRun then tree
          else tree.put l (.file (Text.encode
            (SourceFile.joinedAs content (p.hook.augment (p.settled content issues).2).2))))

theorem edit_ofContent (p : Localizer) (path : Path) (content : Text) (issues : List Issue) :
    p.edit (.ofContent path content) issues =
      if p.replaced content issues = [] then
        (.edited path (p.settled content issues).1 none, .ofContent path content)
      else
        (.edited path (p.settled content issues).1
            (some (p.hook.augment (p.settled content issues).2).1),
          { SourceFile.ofContent path content with
            lines := (p.hook.augment (p.settled content issues).2).2, changed := true }) := by
  by_cases h : p.replaced content issues = []
  · rw [if_pos h]
    exact if_pos (List.isEmpty_iff.2 h)
  · rw [if_neg h]
    exact if_neg (mt List.isEmpty_iff.1 h)

theorem visit_of_holds {tree : FileTree} {path : Path} {l : Location} {content : Text}
    (p : Localizer) (dryRun : Bool) (issues : List Issue) (h : tree.Holds path l content) :
    p.visit dryRun tree (path, issues) =
      if dryRun then ((p.edit (.ofContent path content) issues).1, .ok tree)
      else ((p.edit (.ofContent path content) issues).1,
        (((p.edit (.ofContent path content) issues).2.flush tree).map (·.2)).mapError
          (⟨path, ·⟩)) := by
  simp only [visit, FileTree.isFile_of_holds h, SourceFile.read, FileTree.readText_of_holds h]
  rfl

theorem visit_outcomes {tree : FileTree} {path : Path} {l : Location} {content : Text}
    (p : Localizer) (dryRun : Bool) (issues : List Issue) (h : tree.Holds path l content) :
    (p.visit dryRun tree (path, issues)).1.outcomes = (p.settled content issues).1 := by
  have hedit : (p.edit (.ofContent path content) issues).1.outcomes =
      (p.settled content issues).1 := by
    rw [edit_ofContent]
    split <;> rfl
  rw [visit_of_holds p dryRun issues h]
  split <;> exact hedit

/-- A visit leaves a tree: what could be read can be written. -/
theorem visits_visit (p : Localizer) (dryRun : Bool) (tree : FileTree) (path : Path)
    (issues : List Issue) :
    ∃ tree', (p.visit dryRun tree (path, issues)).2 = .ok tree' ∧
      p.Visits dryRun tree path issues (p.visit dryRun tree (path, issues)).1 tree' := by
  by_cases hfile : tree.isFile path = true
  · cases hread : tree.readText path with
    | error e =>
      have hvisit : p.visit dryRun tree (path, issues) = (.unreadable path e issues, .ok tree) := by
        simp [visit, hfile, SourceFile.read, hread, Except.map]
      rw [hvisit]
      exact ⟨tree, rfl, .unreadable e hfile hread⟩
    | ok content =>
      obtain ⟨l, hholds⟩ := FileTree.holds_of_readText hread
      rw [visit_of_holds p dryRun issues hholds, edit_ofContent]
      by_cases hidle : p.replaced content issues = []
      · rw [if_pos hidle]
        exact ⟨tree, by cases dryRun <;> rfl, by cases dryRun <;> exact .unchanged hholds hidle⟩
      · rw [if_neg hidle]
        have hbusy : p.Visits dryRun tree path issues _ _ := .changed hholds hidle
        cases dryRun with
        | true => exact ⟨tree, rfl, hbusy⟩
        | false =>
          refine ⟨_, ?_, hbusy⟩
          simp only [SourceFile.flush_of_holds hholds]
          rfl
  · have hvisit : p.visit dryRun tree (path, issues) = (.missing path issues, .ok tree) := by
      simp [visit, hfile]
    rw [hvisit]
    exact ⟨tree, rfl, .missing (by simpa using hfile)⟩

/-- Visits one after another, each to the tree that the one before left. -/
inductive Tours (p : Localizer) (dryRun : Bool) :
    FileTree → List Issue.Group → List Visit → FileTree → Prop
  | nil (tree : FileTree) : Tours p dryRun tree [] [] tree
  | cons {tree tree' final : FileTree} {path : Path} {issues : List Issue} {v : Visit}
      {groups : List Issue.Group} {vs : List Visit}
      (first : p.Visits dryRun tree path issues v tree')
      (rest : Tours p dryRun tree' groups vs final) :
      Tours p dryRun tree ((path, issues) :: groups) (v :: vs) final

theorem visitAll_cons {p : Localizer} {dryRun : Bool} {tree tree' : FileTree} {g : Issue.Group}
    (hok : (p.visit dryRun tree g).2 = .ok tree') (groups : List Issue.Group) :
    p.visitAll dryRun tree (g :: groups) =
      { p.visitAll dryRun tree' groups with
        visits := (p.visit dryRun tree g).1 :: (p.visitAll dryRun tree' groups).visits } := by
  rw [visitAll]
  generalize p.visit dryRun tree g = result at hok
  obtain ⟨v, after⟩ := result
  subst hok
  rfl

theorem tours_visitAll (p : Localizer) (dryRun : Bool) (tree : FileTree)
    (groups : List Issue.Group) :
    (p.visitAll dryRun tree groups).failure = none ∧
      p.Tours dryRun tree groups (p.visitAll dryRun tree groups).visits
        (p.visitAll dryRun tree groups).tree := by
  induction groups generalizing tree with
  | nil => exact ⟨rfl, .nil tree⟩
  | cons group groups ih =>
    obtain ⟨path, issues⟩ := group
    obtain ⟨tree', hok, hvisits⟩ := p.visits_visit dryRun tree path issues
    rw [visitAll_cons hok]
    exact ⟨(ih tree').1, .cons hvisits (ih tree').2⟩

/-- No run over a report fails: a file that can be read can be written. -/
theorem tours_process (p : Localizer) (dryRun : Bool) (report : Text) (tree : FileTree) :
    (p.process dryRun report tree).failure = none ∧
      p.Tours dryRun tree (Issue.groups (p.issues report)) (p.process dryRun report tree).visits
        (p.process dryRun report tree).tree :=
  p.tours_visitAll dryRun tree _

end Localizer

namespace Account

theorem foldl_record (vs : List Visit) (r : Account) :
    vs.foldl record r =
      { r with
        changes := r.changes ++ vs.filterMap Visit.change?
        skipped := r.skipped ++ vs.flatMap Visit.skipped
        summary :=
          { filesModified := r.summary.filesModified + (vs.filterMap Visit.change?).length
            stringsReplaced := r.summary.stringsReplaced +
              ((vs.filterMap Visit.change?).flatMap (·.replacements)).length
            stringsSkipped := r.summary.stringsSkipped + (vs.flatMap Visit.skipped).length } } := by
  induction vs generalizing r with
  | nil => simp
  | cons v vs ih =>
    rw [List.foldl_cons, ih]
    cases hc : v.change? with
    | none => simp [record, hc, Nat.add_assoc]
    | some c =>
      simp [record, hc, Nat.add_assoc]
      omega

end Account

theorem Localizer.Course.account_eq (c : Course) (p : Localizer) (dryRun : Bool)
    (lintStatus : Option LintStatus) :
    c.account p dryRun lintStatus =
      { summary :=
          { filesModified := (c.visits.filterMap Visit.change?).length
            stringsReplaced :=
              ((c.visits.filterMap Visit.change?).flatMap (·.replacements)).length
            stringsSkipped := (c.visits.flatMap Visit.skipped).length }
        changes := c.visits.filterMap Visit.change?
        skipped := c.visits.flatMap Visit.skipped
        lintStatus, dryRun, indexedStrings := p.dictionary.size } := by
  rw [account, Account.foldl_record]
  simp

end Localize

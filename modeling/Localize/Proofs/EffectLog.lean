import Localize.Proofs.Course

/-! The account of a run over a report is an exact log of what the run did to the files. Each change
can be replayed from the lines that its file had when it was reached, the replayed lines after one
augmentation are what was written, and nothing else in the tree is different. -/

namespace Localize
namespace Localizer

/-- What a change says of the tree before it and the tree after it. -/
inductive Writes (p : Localizer) (tree : FileTree) (change : FileChange) : FileTree → Prop
  | intro {l : Location} {content : Text} {lines : Buffer}
      (holds : tree.Holds change.path l content)
      (replay : Replay p.replacer (Text.lines content) change.replacements lines)
      (length : lines.length = (Text.lines content).length)
      (others : ∀ i, (∀ a ∈ change.replacements, a.replacement.lineIndex ≠ i) →
        lines[i]? = (Text.lines content)[i]?)
      (augmentation : change.augmentation = (p.hook.augment lines).1) :
      Writes p tree change (tree.put l (.file (Text.encode
        (SourceFile.joinedAs content (p.hook.augment lines).2))))

/-- The changes in order, each written to the tree that the one before left. -/
inductive Logs (p : Localizer) : FileTree → List FileChange → FileTree → Prop
  | nil (tree : FileTree) : Logs p tree [] tree
  | cons {tree tree' final : FileTree} {change : FileChange} {changes : List FileChange}
      (first : p.Writes tree change tree') (rest : Logs p tree' changes final) :
      Logs p tree (change :: changes) final

variable {p : Localizer} {tree final : FileTree}

theorem Writes.shape_eq {change : FileChange} (h : p.Writes tree change final) :
    final.shape = tree.shape := by
  obtain ⟨holds, -, -, -, -⟩ := h
  exact FileTree.shape_put_of_holds holds _

theorem Writes.node?_eq {change : FileChange} (h : p.Writes tree change final) {l : Location}
    (hl : ∀ bytes, tree.find change.path ≠ .ok (.present l (.file bytes))) :
    final.node? l = tree.node? l := by
  obtain ⟨⟨bytes, hfind, hdecode⟩, -, -, -, -⟩ := h
  rw [FileTree.node?_put tree (FileTree.ne_nil_of_node? (FileTree.node?_of_find hfind)), if_neg]
  rintro rfl
  exact hl bytes hfind

theorem Logs.shape_eq {changes : List FileChange} (h : p.Logs tree changes final) :
    final.shape = tree.shape := by
  induction h with
  | nil => rfl
  | cons first rest ih => rw [ih, first.shape_eq]

/-- What no change leads to stays as it was. Where a change leads is asked of the first tree: the
changes before it do not move it. -/
theorem Logs.node?_eq {changes : List FileChange} (h : p.Logs tree changes final) {l : Location}
    (hl : ∀ c ∈ changes, ∀ bytes, tree.find c.path ≠ .ok (.present l (.file bytes))) :
    final.node? l = tree.node? l := by
  induction h with
  | nil => rfl
  | cons first rest ih =>
    rw [ih, first.node?_eq (hl _ List.mem_cons_self)]
    intro c hc bytes hfind
    obtain ⟨bytes', hfind'⟩ := FileTree.exists_find_of_shape_eq first.shape_eq.symm hfind
    exact hl c (List.mem_cons_of_mem _ hc) bytes' hfind'

theorem writes_of_changed {path : Path} {issues : List Issue} {l : Location} {content : Text}
    (p : Localizer) (h : tree.Holds path l content) :
    p.Writes tree
      ⟨path, p.replaced content issues, (p.hook.augment (p.settled content issues).2).1⟩
      (tree.put l (.file (Text.encode
        (SourceFile.joinedAs content (p.hook.augment (p.settled content issues).2).2)))) := by
  have hreplay := p.replay_settleAll (Text.lines content) (bottomUp issues)
  exact .intro h hreplay hreplay.length_eq (fun i hi => hreplay.getElem?_eq hi) rfl

theorem Tours.logs {groups : List Issue.Group} {vs : List Visit}
    (h : p.Tours false tree groups vs final) : p.Logs tree (vs.filterMap Visit.change?) final := by
  induction h with
  | nil tree => exact .nil tree
  | cons first rest ih =>
    cases first with
    | missing => exact ih
    | unreadable => exact ih
    | unchanged => exact ih
    | changed holds busy => exact .cons (p.writes_of_changed holds) ih

/-- A run that writes succeeds, and its account is an exact log of what it did to the files: the
changes replay, and what none of them leads to keeps its bytes. No file comes or goes. -/
theorem account_logs_effect (p : Localizer) (report : Text) (tree : FileTree)
    (lintStatus : Option LintStatus) :
    (p.process false report tree).failure = none ∧
    p.Logs tree ((p.process false report tree).account p false lintStatus).changes
      (p.process false report tree).tree ∧
    (∀ l, (∀ c ∈ ((p.process false report tree).account p false lintStatus).changes,
        ∀ bytes, tree.find c.path ≠ .ok (.present l (.file bytes))) →
      (p.process false report tree).tree.node? l = tree.node? l) ∧
    (p.process false report tree).tree.shape = tree.shape := by
  obtain ⟨hok, htour⟩ := p.tours_process false report tree
  have hlogs := htour.logs
  rw [Course.account_eq]
  exact ⟨hok, hlogs, fun l hl => hlogs.node?_eq hl, hlogs.shape_eq⟩

end Localizer
end Localize

import Localize.Proofs.Course
import Localize.Proofs.Grouping

/-! Conservation of issues: every issue that a report names comes out of a run exactly once, as the
issue of a recorded replacement or as a skipped one, and the summary counts what is recorded. -/

namespace Localize

theorem Outcome.issues_perm (os : List Outcome) :
    ((os.filterMap Outcome.applied?).map (·.issue) ++
      (os.filterMap Outcome.skipped?).map (·.issue)).Perm (os.map Outcome.issue) := by
  induction os with
  | nil => exact List.Perm.refl _
  | cons o os ih =>
    cases o with
    | applied a => exact ih.cons a.issue
    | skipped s => exact List.perm_middle.trans (ih.cons s.issue)

theorem Outcome.applied_issues_sublist (os : List Outcome) :
    ((os.filterMap Outcome.applied?).map (·.issue)).Sublist (os.map Outcome.issue) := by
  induction os with
  | nil => exact List.Sublist.slnil
  | cons o os ih =>
    cases o with
    | applied a => exact ih.cons_cons a.issue
    | skipped s => exact ih.cons s.issue

/-- What can become of the issues of one file. -/
inductive Fate (p : Localizer) (issues : List Issue) (replaced : List Applied)
    (skipped : List Skipped) : Prop
  | missing (none : replaced = []) (all : skipped = issues.map (⟨·, .missingFile⟩))
  | unreadable (none : replaced = []) (all : skipped = issues.map (⟨·, .unreadable⟩))
  | handled
      (unknown : (issues.filter fun i => (p.dictionary.lookup i.string).isNone).Perm
        ((skipped.filter (·.reason = .noKey)).map (·.issue)))
      (known : (issues.filter fun i => (p.dictionary.lookup i.string).isSome).Perm
        (replaced.map (·.issue) ++ (skipped.filter (·.reason = .notFound)).map (·.issue)))
      (reasons : ∀ s ∈ skipped, s.reason = .noKey ∨ s.reason = .notFound)

namespace Localizer

variable {p : Localizer} {dryRun : Bool} {tree tree' final : FileTree} {path : Path}
  {issues : List Issue} {v : Visit}

theorem settled_issues_perm (p : Localizer) (content : Text) (issues : List Issue) :
    ((p.settled content issues).1.map Outcome.issue).Perm issues := by
  rw [settled, settleAll_issues]
  exact (Issue.isBottomUp_bottomUp issues).perm

theorem filter_issues_perm {os : List Outcome} (hperm : (os.map Outcome.issue).Perm issues)
    (q : Issue → Bool) :
    (issues.filter q).Perm
      (((os.filterMap Outcome.applied?).filter (q ·.issue)).map (·.issue) ++
        ((os.filterMap Outcome.skipped?).filter (q ·.issue)).map (·.issue)) := by
  have hfilter := ((Outcome.issues_perm os).trans hperm).symm.filter q
  rwa [List.filter_append, List.filter_map, List.filter_map] at hfilter

/-- Outcomes that account for their strings share out issues with and without a key. -/
theorem fate_of_accounts {os : List Outcome} (hperm : (os.map Outcome.issue).Perm issues)
    (h : ∀ o ∈ os, p.Accounts o) :
    Fate p issues (os.filterMap Outcome.applied?) (os.filterMap Outcome.skipped?) := by
  have happlied : ∀ a ∈ os.filterMap Outcome.applied?,
      p.dictionary.lookup a.issue.string = some a.key := by
    intro a ha
    obtain ⟨o, ho, hoa⟩ := List.mem_filterMap.1 ha
    cases o with
    | applied b => cases hoa; exact h _ ho
    | skipped s => cases hoa
  have hskipped : ∀ s ∈ os.filterMap Outcome.skipped?, p.Accounts (.skipped s) := by
    intro s hs
    obtain ⟨o, ho, hos⟩ := List.mem_filterMap.1 hs
    cases o with
    | applied b => cases hos
    | skipped t => cases hos; exact h _ ho
  have hreason : ∀ s ∈ os.filterMap Outcome.skipped?,
      (p.dictionary.lookup s.issue.string).isNone = decide (s.reason = .noKey) ∧
        (p.dictionary.lookup s.issue.string).isSome = decide (s.reason = .notFound) := by
    intro s hs
    rcases hskipped s hs with ⟨hr, hl⟩ | ⟨hr, key, hl⟩ <;> simp [hr, hl]
  refine .handled ?_ ?_ fun s hs => (hskipped s hs).imp And.left And.left
  · have hnone : (os.filterMap Outcome.applied?).filter
        (fun a => (p.dictionary.lookup a.issue.string).isNone) = [] :=
      List.filter_eq_nil_iff.2 fun a ha => by simp [happlied a ha]
    have hfilter := filter_issues_perm hperm fun i => (p.dictionary.lookup i.string).isNone
    rwa [hnone, List.filter_congr fun s hs => (hreason s hs).1] at hfilter
  · have hall : (os.filterMap Outcome.applied?).filter
        (fun a => (p.dictionary.lookup a.issue.string).isSome) =
          os.filterMap Outcome.applied? :=
      List.filter_eq_self.2 fun a ha => by simp [happlied a ha]
    have hfilter := filter_issues_perm hperm fun i => (p.dictionary.lookup i.string).isSome
    rwa [hall, List.filter_congr fun s hs => (hreason s hs).2] at hfilter

theorem settled_fate (p : Localizer) (content : Text) (issues : List Issue) :
    Fate p issues (p.replaced content issues)
      ((p.settled content issues).1.filterMap Outcome.skipped?) :=
  fate_of_accounts (p.settled_issues_perm content issues) (p.settleAll_accounts _ _)

theorem filterMap_skipped (issues : List Issue) (reason : SkipReason) :
    (issues.map fun i => Outcome.skipped ⟨i, reason⟩).filterMap Outcome.applied? = [] ∧
      (issues.map fun i => Outcome.skipped ⟨i, reason⟩).filterMap Outcome.skipped? =
        issues.map (⟨·, reason⟩) := by
  induction issues with
  | nil => exact ⟨rfl, rfl⟩
  | cons i issues ih => exact ⟨ih.1, congrArg _ ih.2⟩

namespace Visits

theorem outcomes_perm (h : p.Visits dryRun tree path issues v tree') :
    (v.outcomes.map Outcome.issue).Perm issues := by
  cases h with
  | missing absent => simp [Visit.outcomes, Outcome.issue, Function.comp_def]
  | unreadable e present unread => simp [Visit.outcomes, Outcome.issue, Function.comp_def]
  | unchanged holds idle => exact p.settled_issues_perm _ issues
  | changed holds busy => exact p.settled_issues_perm _ issues

theorem applied_eq (h : p.Visits dryRun tree path issues v tree') :
    v.outcomes.filterMap Outcome.applied? = v.change?.toList.flatMap (·.replacements) := by
  cases h with
  | missing absent => exact (filterMap_skipped issues _).1
  | unreadable e present unread => exact (filterMap_skipped issues _).1
  | unchanged holds idle => exact idle
  | changed holds busy => exact (List.append_nil _).symm

theorem skipped_mem (h : p.Visits dryRun tree path issues v tree') :
    ∀ s ∈ v.skipped, s.issue ∈ issues := fun _ hs =>
  h.outcomes_perm.subset ((Outcome.issues_perm v.outcomes).subset
    (List.mem_append_right _ (List.mem_map_of_mem hs)))

theorem fate (h : p.Visits dryRun tree path issues v tree') :
    Fate p issues (v.change?.toList.flatMap (·.replacements)) v.skipped := by
  cases h with
  | missing absent => exact .missing rfl (filterMap_skipped issues _).2
  | unreadable e present unread => exact .unreadable rfl (filterMap_skipped issues _).2
  | @unchanged l content holds idle =>
    have hfate := p.settled_fate content issues
    rwa [idle] at hfate
  | @changed l content holds busy =>
    have hfate := p.settled_fate content issues
    rwa [← List.append_nil (p.replaced content issues)] at hfate

theorem change_facts (h : p.Visits dryRun tree path issues v tree') {c : FileChange}
    (hc : v.change? = some c) :
    c.path = path ∧ c.replacements ≠ [] ∧
      (c.replacements.map (·.issue)).Sublist (bottomUp issues) := by
  cases h with
  | missing absent => cases hc
  | unreadable e present unread => cases hc
  | unchanged holds idle => cases hc
  | @changed l content holds busy =>
    cases hc
    refine ⟨rfl, busy, ?_⟩
    have hsub := Outcome.applied_issues_sublist (p.settled content issues).1
    rwa [settled, settleAll_issues] at hsub

end Visits
namespace Tours

variable {groups : List Issue.Group} {vs : List Visit}

theorem issues_perm (h : p.Tours dryRun tree groups vs final) :
    (((vs.filterMap Visit.change?).flatMap (·.replacements)).map (·.issue) ++
      (vs.flatMap Visit.skipped).map (·.issue)).Perm (groups.flatMap (·.2)) := by
  induction h with
  | nil => exact List.Perm.refl _
  | @cons tree tree' final path issues v groups vs first rest ih =>
    have hfirst := (Outcome.issues_perm v.outcomes).trans first.outcomes_perm
    rw [first.applied_eq] at hfirst
    rw [List.filterMap_eq_flatMap_toList] at ih ⊢
    simp only [List.flatMap_cons, List.flatMap_append, List.map_append, List.append_assoc] at ih ⊢
    -- The skipped of the first visit move over the replaced of the later ones.
    refine (List.Perm.append_left _ (List.perm_append_comm_assoc _ _ _)).trans ?_
    rw [← List.append_assoc]
    exact hfirst.append ih

theorem paths_sublist (h : p.Tours dryRun tree groups vs final) :
    ((vs.filterMap Visit.change?).map (·.path)).Sublist (groups.map (·.1)) := by
  induction h with
  | nil => exact List.Sublist.slnil
  | @cons tree tree' final path issues v groups vs first rest ih =>
    cases hc : v.change? with
    | none =>
      rw [List.filterMap_cons_none hc]
      exact ih.cons path
    | some c =>
      rw [List.filterMap_cons_some hc, List.map_cons, (first.change_facts hc).1]
      exact ih.cons_cons path

theorem change_facts (h : p.Tours dryRun tree groups vs final) :
    ∀ c ∈ vs.filterMap Visit.change?, c.replacements ≠ [] ∧
      ∃ issues, (c.path, issues) ∈ groups ∧
        (c.replacements.map (·.issue)).Sublist (bottomUp issues) := by
  induction h with
  | nil => intro c hc; cases hc
  | @cons tree tree' final path issues v groups vs first rest ih =>
    intro c hc
    obtain ⟨v', hv', hchange⟩ := List.mem_filterMap.1 hc
    rcases List.mem_cons.1 hv' with rfl | hv'
    · obtain ⟨hpath, hne, hsub⟩ := first.change_facts hchange
      exact ⟨hne, issues, by rw [hpath]; exact List.mem_cons_self, hsub⟩
    · obtain ⟨hne, issues', hmem, hsub⟩ := ih c (List.mem_filterMap.2 ⟨v', hv', hchange⟩)
      exact ⟨hne, issues', List.mem_cons_of_mem _ hmem, hsub⟩

theorem skipped_mem (h : p.Tours dryRun tree groups vs final)
    (hfiles : ∀ g ∈ groups, ∀ i ∈ g.2, g.1.Same i.file) :
    ∀ s ∈ vs.flatMap Visit.skipped, ∃ g ∈ groups, g.1.Same s.issue.file := by
  intro s hs
  have hmem : s.issue ∈ groups.flatMap (·.2) :=
    h.issues_perm.subset (List.mem_append_right _ (List.mem_map_of_mem hs))
  obtain ⟨g, hg, hi⟩ := List.mem_flatMap.1 hmem
  exact ⟨g, hg, hfiles g hg _ hi⟩

theorem fate (h : p.Tours dryRun tree groups vs final)
    (hpaths : groups.Pairwise fun g g' => ¬ g.1.Same g'.1)
    (hfiles : ∀ g ∈ groups, ∀ i ∈ g.2, g.1.Same i.file) :
    ∀ g ∈ groups, Fate p g.2
      (((vs.filterMap Visit.change?).filter (g.1.Same ·.path)).flatMap (·.replacements))
      ((vs.flatMap Visit.skipped).filter (g.1.Same ·.issue.file)) := by
  induction h with
  | nil => intro g hg; cases hg
  | @cons tree tree' final path issues v groups vs first rest ih =>
    obtain ⟨hhead, htail⟩ := List.pairwise_cons.1 hpaths
    have hfiles' : ∀ g ∈ groups, ∀ i ∈ g.2, g.1.Same i.file := fun g hg =>
      hfiles g (List.mem_cons_of_mem _ hg)
    have hchange : ∀ c ∈ v.change?.toList, c.path = path := fun c hc =>
      (first.change_facts (Option.mem_toList.1 hc)).1
    have hskipped : ∀ s ∈ v.skipped, path.Same s.issue.file := fun s hs =>
      hfiles _ List.mem_cons_self _ (first.skipped_mem s hs)
    have hchange' : ∀ c ∈ vs.filterMap Visit.change?, ∃ g ∈ groups, g.1 = c.path := fun c hc =>
      List.mem_map.1 (rest.paths_sublist.subset (List.mem_map_of_mem hc))
    have hskipped' := rest.skipped_mem hfiles'
    intro g hg
    rw [List.filterMap_eq_flatMap_toList, List.flatMap_cons, ← List.filterMap_eq_flatMap_toList,
      List.flatMap_cons, List.filter_append, List.filter_append, List.flatMap_append]
    rcases List.mem_cons.1 hg with rfl | hg
    · have h1 : v.change?.toList.filter (path.Same ·.path) = v.change?.toList :=
        List.filter_eq_self.2 fun c hc => by simp [hchange c hc, Path.Same]
      have h2 : v.skipped.filter (path.Same ·.issue.file) = v.skipped :=
        List.filter_eq_self.2 fun s hs => by simpa using hskipped s hs
      have h3 : (vs.filterMap Visit.change?).filter (path.Same ·.path) = [] := by
        refine List.filter_eq_nil_iff.2 fun c hc => ?_
        obtain ⟨g, hg, heq⟩ := hchange' c hc
        simpa using heq ▸ hhead g hg
      have h4 : (vs.flatMap Visit.skipped).filter (path.Same ·.issue.file) = [] := by
        refine List.filter_eq_nil_iff.2 fun s hs => ?_
        obtain ⟨g, hg, hsame⟩ := hskipped' s hs
        simpa using fun h => hhead g hg (Path.Same.trans h hsame.symm)
      rw [h1, h2, h3, h4]
      simpa using first.fate
    · have h1 : v.change?.toList.filter (g.1.Same ·.path) = [] :=
        List.filter_eq_nil_iff.2 fun c hc => by
          simpa [hchange c hc] using fun h => hhead g hg (Path.Same.symm h)
      have h2 : v.skipped.filter (g.1.Same ·.issue.file) = [] :=
        List.filter_eq_nil_iff.2 fun s hs => by
          simpa using fun h => hhead g hg ((hskipped s hs).trans (Path.Same.symm h))
      rw [h1, h2]
      exact ih htail hfiles' g hg

end Tours
end Localizer

namespace Account

def replacedIn (r : Account) (f : Path) : List Applied :=
  (r.changes.filter (f.Same ·.path)).flatMap (·.replacements)

def skippedIn (r : Account) (f : Path) : List Skipped := r.skipped.filter (f.Same ·.issue.file)

/-- The account has each of the issues once and counts what it has. Its changes are of different
files in the order of the report, each from the bottom up, and the issues of every file share one of
three fates. -/
structure Conserves (p : Localizer) (issues : List Issue) (r : Account) : Prop where
  conserved : issues.Perm
    ((r.changes.flatMap (·.replacements)).map (·.issue) ++ r.skipped.map (·.issue))
  stringsReplaced : r.summary.stringsReplaced = (r.changes.flatMap (·.replacements)).length
  stringsSkipped : r.summary.stringsSkipped = r.skipped.length
  filesModified : r.summary.filesModified = r.changes.length
  nonempty : ∀ c ∈ r.changes, c.replacements ≠ []
  different : r.changes.Pairwise fun c c' => ¬ c.path.Same c'.path
  inOrder : (r.changes.map (·.path)).Sublist (Issue.firstMentions (issues.map (·.file)))
  bottomUp : ∀ c ∈ r.changes, ∃ sorted,
    Issue.IsBottomUp (issues.filter (c.path.Same ·.file)) sorted ∧
      (c.replacements.map (·.issue)).Sublist sorted
  fates : ∀ f ∈ Issue.firstMentions (issues.map (·.file)),
    Fate p (issues.filter (f.Same ·.file)) (r.replacedIn f) (r.skippedIn f)

end Account

/-- A run loses no issue, doubles none and counts right, whatever files are missing or unreadable,
and whether it writes or not. -/
theorem Localizer.account_conserves (p : Localizer) (dryRun : Bool) (report : Text)
    (tree : FileTree) (lintStatus : Option LintStatus) :
    (p.process dryRun report tree).failure = none ∧
      ((p.process dryRun report tree).account p dryRun lintStatus).Conserves p
        (p.issues report) := by
  obtain ⟨hok, htour⟩ := p.tours_process dryRun report tree
  refine ⟨hok, ?_⟩
  rw [Course.account_eq]
  have hgroups := Issue.groups_eq (p.issues report)
  have hfst : (Issue.groups (p.issues report)).map (·.1) =
      Issue.firstMentions ((p.issues report).map (·.file)) := by
    rw [hgroups, List.map_map]
    exact List.map_id _
  have hdifferent := Issue.firstMentions_pairwise ((p.issues report).map (·.file))
  have hmem : ∀ {f : Path} {issues : List Issue}, (f, issues) ∈ Issue.groups (p.issues report) →
      issues = (p.issues report).filter (f.Same ·.file) := by
    intro f issues hg
    rw [hgroups] at hg
    obtain ⟨f', -, heq⟩ := List.mem_map.1 hg
    cases heq
    rfl
  have hpaths := htour.paths_sublist
  rw [hfst] at hpaths
  exact {
    conserved := (htour.issues_perm.trans (Issue.groups_perm _)).symm
    stringsReplaced := rfl
    stringsSkipped := rfl
    filesModified := rfl
    nonempty := fun c hc => (htour.change_facts c hc).1
    different := List.pairwise_map.1 (hdifferent.sublist hpaths)
    inOrder := hpaths
    bottomUp := fun c hc => by
      obtain ⟨-, issues, hg, hsub⟩ := htour.change_facts c hc
      exact ⟨_, Issue.isBottomUp_bottomUp _, hmem hg ▸ hsub⟩
    fates := fun f hf => by
      have hg : (f, (p.issues report).filter (f.Same ·.file)) ∈
          Issue.groups (p.issues report) := by
        rw [hgroups]
        exact List.mem_map_of_mem hf
      refine htour.fate ?_ ?_ _ hg
      · exact List.pairwise_map.1 (hfst ▸ hdifferent)
      · rintro ⟨f', issues⟩ hg' i hi
        rw [hmem hg'] at hi
        exact of_decide_eq_true (List.mem_filter.1 hi).2 }

end Localize

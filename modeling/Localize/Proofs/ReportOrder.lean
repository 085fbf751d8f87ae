import Mathlib.Algebra.GroupWithZero.Nat
import Mathlib.Data.List.Nodup
import Localize.Proofs.DryRun
import Localize.Proofs.Findings

/-! The order of a report does not matter beyond the strings of one line. A run does in each file
what a visit to the file as it was before the run comes to, so two reports with the same findings
have the same effect on every file, whatever order their groups are in. -/

namespace Localize

namespace Issue

/-- In every file and on every line the same strings in the same order. -/
def SameFindings (is js : List Issue) : Prop :=
  ∀ f : Path, SameLines (is.filter (f.Same ·.file)) (js.filter (f.Same ·.file))

variable {is js : List Issue}

theorem SameFindings.trans {ks : List Issue} (h : SameFindings is js) (h' : SameFindings js ks) :
    SameFindings is ks := fun f line => (h f line).trans (h' f line)

theorem sameFindings_swap (front rest : List Issue) {i j : Issue}
    (h : i.file.Same j.file → i.line ≠ j.line) :
    SameFindings (front ++ i :: j :: rest) (front ++ j :: i :: rest) := by
  intro f line
  simp only [List.filter_filter, List.filter_append, List.map_append]
  congr 1
  by_cases hi : i.line = line ∧ f.Same i.file
  · have hj : ¬ (j.line = line ∧ f.Same j.file) := fun hj =>
      h (hi.2.symm.trans hj.2) (hi.1.trans hj.1.symm)
    simp [hi, hj]
  · simp [List.filter_cons, hi]

theorem SameFindings.symm (h : SameFindings is js) : SameFindings js is := fun f line =>
  (h f line).symm

theorem SameFindings.exists_group (h : SameFindings is js) {g : Group} (hg : g ∈ groups is) :
    ∃ g' ∈ groups js, g.1.Same g'.1 ∧ SameLines g.2 g'.2 := by
  obtain ⟨hfirst, hissues⟩ := mem_groups.1 hg
  obtain ⟨i, hi, hfile⟩ := List.mem_map.1 ((firstMentions_sublist _).subset hfirst)
  have hpos : 0 < (js.filter (g.1.Same ·.file)).length := by
    rw [← (h g.1).length_eq]
    exact List.length_pos_of_mem (List.mem_filter.2 ⟨hi, by simp [hfile, Path.Same]⟩)
  obtain ⟨j, hj⟩ := List.exists_mem_of_length_pos hpos
  obtain ⟨hj, hsame⟩ := List.mem_filter.1 hj
  obtain ⟨f, hf, hfj⟩ := exists_firstMention (List.mem_map_of_mem (f := (·.file)) hj)
  have hgf : g.1.Same f := Path.Same.trans (of_decide_eq_true hsame) hfj.symm
  refine ⟨(f, js.filter (f.Same ·.file)), mem_groups.2 ⟨hf, rfl⟩, hgf, ?_⟩
  have hcomponents : g.1.components = f.components := hgf
  have hfilter : js.filter (f.Same ·.file) = js.filter (g.1.Same ·.file) :=
    List.filter_congr fun j _ => decide_eq_decide.2 (by rw [Path.Same, Path.Same, hcomponents])
  rw [hissues, hfilter]
  exact h g.1

/-- The spellings that the groups of two lists have for one path lead to one file, or to none. -/
def PartnersAgree (tree : FileTree) (is js : List Issue) : Prop :=
  ∀ g ∈ groups is, ∀ g' ∈ groups js, g.1.Same g'.1 → tree.Agree g.1 g'.1

theorem PartnersAgree.symm {tree : FileTree} (h : PartnersAgree tree is js) :
    PartnersAgree tree js is := fun g' hg' g hg hsame l bytes =>
  (h g hg g' hg' hsame.symm l bytes).symm

theorem PartnersAgree.apart {tree : FileTree} (h : PartnersAgree tree is js)
    (hsame : SameFindings is js)
    (hapart : (groups is).Pairwise fun g g' => ¬ tree.SameFile g.1 g'.1) :
    (groups js).Pairwise fun g g' => ¬ tree.SameFile g.1 g'.1 := by
  refine (groups_pairwise js).imp_of_mem fun {g₁' g₂'} hg₁' hg₂' hdiff hfile => ?_
  obtain ⟨g₁, hg₁, hsame₁, -⟩ := hsame.symm.exists_group hg₁'
  obtain ⟨g₂, hg₂, hsame₂, -⟩ := hsame.symm.exists_group hg₂'
  have hne : g₁ ≠ g₂ := fun heq => hdiff (hsame₁.trans (heq ▸ hsame₂.symm))
  obtain ⟨l, bytes, hfind₁, hfind₂⟩ := hfile
  have : Std.Symm fun g g' : Group => ¬ tree.SameFile g.1 g'.1 :=
    ⟨fun _ _ hdiff hfile => hdiff (FileTree.sameFile_symm hfile)⟩
  refine hapart.forall hg₁ hg₂ hne ?_
  exact ⟨l, bytes, (h g₁ hg₁ g₁' hg₁' hsame₁.symm l bytes).2 hfind₁,
    (h g₂ hg₂ g₂' hg₂' hsame₂.symm l bytes).2 hfind₂⟩

end Issue

namespace Localizer

variable {p : Localizer} {tree tree' final : FileTree} {path : Path} {issues : List Issue}
  {v : Visit} {l : Location} {groups : List Issue.Group} {vs : List Visit}

theorem visits_visitAll_dryRun (p : Localizer) (tree : FileTree) (groups : List Issue.Group) :
    (p.visitAll true tree groups).visits = groups.map fun g => (p.visit true tree g).1 := by
  induction groups with
  | nil => rfl
  | cons g groups ih =>
    obtain ⟨path, issues⟩ := g
    obtain ⟨tree', hok, hvisits⟩ := p.visits_visit true tree path issues
    obtain rfl := hvisits.tree_eq_of_dryRun
    rw [visitAll_cons hok, ih, List.map_cons]

/-- A run works on each file as if it visited only this one. -/
theorem visits_process {report : Text}
    (hapart : (Issue.groups (p.issues report)).Pairwise fun g g' => ¬ tree.SameFile g.1 g'.1) :
    (p.process false report tree).visits =
      (Issue.groups (p.issues report)).map fun g => (p.visit true tree g).1 := by
  rw [process, ← (p.visitAll_dryRun (fun _ _ => rfl) rfl hapart).1, visits_visitAll_dryRun]

/-- What a run does in each file, under the components of its path. -/
def effects (p : Localizer) (tree : FileTree) (groups : List Issue.Group) :
    List (List Path.Component × Effect) :=
  groups.map fun g => (g.1.components, (p.visit true tree g).1.effect)

theorem map_effect_visits {report : Text}
    (hapart : (Issue.groups (p.issues report)).Pairwise fun g g' => ¬ tree.SameFile g.1 g'.1) :
    (p.process false report tree).visits.map Visit.effect =
      (p.effects tree (Issue.groups (p.issues report))).map (·.2) := by
  rw [visits_process hapart, effects, List.map_map, List.map_map]
  rfl

theorem summary_eq (c : Course) (p : Localizer) (dryRun : Bool) (lintStatus : Option LintStatus) :
    (c.account p dryRun lintStatus).summary =
      { filesModified := ((c.visits.map Visit.effect).filterMap (·.edits?)).length
        stringsReplaced := ((c.visits.map Visit.effect).filterMap (·.edits?)).flatten.length
        stringsSkipped := ((c.visits.map Visit.effect).map (·.skipped)).sum } := by
  have hedits : (c.visits.map Visit.effect).filterMap (·.edits?) =
      (c.visits.filterMap Visit.change?).map fun change =>
        change.replacements.map Applied.edit := by
    rw [List.filterMap_map, List.map_filterMap]
    rfl
  rw [Course.account_eq, hedits, List.length_map, List.map_map, ← List.flatMap_def,
    ← List.map_flatMap, List.length_map, List.length_flatMap, List.length_flatMap]
  rfl

theorem summary_of_one_group {report content : Text} {edits : List (Text × Replacement)}
    (lintStatus : Option LintStatus) (hgroups : Issue.groups (p.issues report) = [(path, issues)])
    (hholds : tree.Holds path l content)
    (hedits : (p.replaced content issues).map Applied.edit = edits) :
    ((p.process false report tree).account p false lintStatus).summary =
      ⟨if edits = [] then 0 else 1, edits.length, issues.length - edits.length⟩ := by
  have hapart : (Issue.groups (p.issues report)).Pairwise fun g g' =>
      ¬ tree.SameFile g.1 g'.1 := by
    rw [hgroups]
    exact List.pairwise_singleton _ _
  rw [summary_eq, map_effect_visits hapart, hgroups, effects, List.map_singleton,
    p.effect_visit_of_holds true issues hholds, hedits, Effect.ofEdits]
  by_cases hnil : edits = [] <;> simp [hnil]

theorem effects_nodup (h : groups.Pairwise fun g g' => ¬ g.1.Same g'.1) :
    ((p.effects tree groups).map (·.1)).Nodup := by
  rw [effects, List.map_map, List.nodup_iff_pairwise_ne, List.pairwise_map]
  exact h

/-- The edits that the effects have under some components. -/
def editsAt (components : List Path.Component)
    (effects : List (List Path.Component × Effect)) :
    List (Text × Replacement) :=
  effects.flatMap fun e => if components = e.1 then e.2.edits?.getD [] else []

theorem editsAt_cons (components : List Path.Component)
    (e : List Path.Component × Effect) (effects) :
    editsAt components (e :: effects) =
      (if components = e.1 then e.2.edits?.getD [] else []) ++ editsAt components effects := rfl

theorem map_edit_replacements (p : Localizer) (tree : FileTree) (groups : List Issue.Group)
    (f : Path) :
    ((((groups.map fun g => (p.visit true tree g).1).filterMap Visit.change?).filter
      (f.Same ·.path)).flatMap (·.replacements)).map Applied.edit =
        editsAt f.components (p.effects tree groups) := by
  induction groups with
  | nil => rfl
  | cons g groups ih =>
    obtain ⟨path, issues⟩ := g
    obtain ⟨tree', -, hvisits⟩ := p.visits_visit true tree path issues
    rw [effects, List.map_cons, List.map_cons, editsAt_cons, Visit.effect, ← effects, ← ih]
    cases hchange : (p.visit true tree (path, issues)).1.change? with
    | none =>
      rw [List.filterMap_cons_none hchange]
      simp
    | some change =>
      obtain ⟨hpath, -⟩ := hvisits.change_facts hchange
      rw [List.filterMap_cons_some hchange]
      by_cases hf : f.components = path.components
      · rw [List.filter_cons_of_pos (by simpa [Path.Same, hpath] using hf), List.flatMap_cons,
          List.map_append, if_pos hf]
        rfl
      · rw [List.filter_cons_of_neg (by simpa [Path.Same, hpath] using hf), if_neg hf,
          List.nil_append]

theorem map_edit_replacedIn {report : Text} {lintStatus : Option LintStatus}
    (hapart : (Issue.groups (p.issues report)).Pairwise fun g g' => ¬ tree.SameFile g.1 g'.1)
    (f : Path) :
    (((p.process false report tree).account p false lintStatus).replacedIn f).map Applied.edit =
      editsAt f.components (p.effects tree (Issue.groups (p.issues report))) := by
  rw [Account.replacedIn, Course.account_eq, visits_process hapart]
  exact p.map_edit_replacements tree _ f

theorem editsAt_of_forall_ne {components : List Path.Component}
    {effects : List (List Path.Component × Effect)}
    (h : ∀ e ∈ effects, e.1 ≠ components) : editsAt components effects = [] :=
  List.flatMap_eq_nil_iff.2 fun e he => if_neg (h e he).symm

theorem editsAt_of_mem
    {effects : List (List Path.Component × Effect)}
    {e : List Path.Component × Effect}
    (hnodup : (effects.map (·.1)).Nodup) (he : e ∈ effects) :
    editsAt e.1 effects = e.2.edits?.getD [] := by
  induction effects with
  | nil => cases he
  | cons e' effects ih =>
    obtain ⟨hnot, hnodup⟩ := List.nodup_cons.1 hnodup
    rw [editsAt_cons]
    rcases List.mem_cons.1 he with rfl | he
    · rw [if_pos rfl, editsAt_of_forall_ne fun e' he' heq => hnot (List.mem_map.2 ⟨e', he', heq⟩),
        List.append_nil]
    · rw [if_neg fun heq => hnot (List.mem_map.2 ⟨e, he, heq⟩), ih hnodup he, List.nil_append]

theorem editsAt_perm
    {effects effects' : List (List Path.Component × Effect)}
    (h : effects.Perm effects') (hnodup : (effects.map (·.1)).Nodup)
    (components : List Path.Component) :
    editsAt components effects = editsAt components effects' := by
  by_cases hsome : ∃ e ∈ effects, e.1 = components
  · obtain ⟨e, he, rfl⟩ := hsome
    rw [editsAt_of_mem hnodup he, editsAt_of_mem ((h.map _).nodup_iff.1 hnodup) (h.mem_iff.1 he)]
  · have hnone : ∀ e ∈ effects, e.1 ≠ components := fun e he heq => hsome ⟨e, he, heq⟩
    rw [editsAt_of_forall_ne hnone, editsAt_of_forall_ne fun e he => hnone e (h.mem_iff.2 he)]

variable {is js : List Issue}

theorem mem_effects_of_mem (hsame : Issue.SameFindings is js)
    (hagree : Issue.PartnersAgree tree is js) {e : List Path.Component × Effect}
    (he : e ∈ p.effects tree (Issue.groups is)) : e ∈ p.effects tree (Issue.groups js) := by
  obtain ⟨g, hg, rfl⟩ := List.mem_map.1 he
  obtain ⟨g', hg', hpath, hlines⟩ := hsame.exists_group hg
  refine List.mem_map.2 ⟨g', hg', Prod.ext hpath.symm ?_⟩
  exact (p.effect_visit_congr true (hagree g hg g' hg' hpath) hlines).symm

/-- Reports with the same findings have the same effects, in some order. -/
theorem effects_perm (hsame : Issue.SameFindings is js)
    (hagree : Issue.PartnersAgree tree is js) :
    (p.effects tree (Issue.groups is)).Perm (p.effects tree (Issue.groups js)) := by
  have hnodup (is : List Issue) : (p.effects tree (Issue.groups is)).Nodup :=
    .of_map _ (effects_nodup (Issue.groups_pairwise is))
  refine (List.perm_ext_iff_of_nodup (hnodup is) (hnodup js)).2 fun e => ?_
  exact ⟨mem_effects_of_mem hsame hagree, mem_effects_of_mem hsame.symm hagree.symm⟩

theorem Visits.node?_of_rewrites (h : p.Visits false tree path issues v tree') {bytes : ByteArray}
    (hrewrites : p.Rewrites tree (path, issues) l bytes) :
    tree'.node? l = some (.file bytes) := by
  obtain ⟨content, hholds, hbusy, rfl⟩ := hrewrites
  cases h with
  | missing absent => cases absent.symm.trans (FileTree.isFile_of_holds hholds)
  | unreadable e present unread => cases unread.symm.trans (FileTree.readText_of_holds hholds)
  | unchanged holds idle =>
    obtain ⟨-, rfl⟩ := hholds.unique holds
    exact absurd idle hbusy
  | changed holds busy =>
    obtain ⟨rfl, rfl⟩ := hholds.unique holds
    obtain ⟨bytes, hfind, -⟩ := holds
    have hne := FileTree.ne_nil_of_node? (FileTree.node?_of_find hfind)
    exact (FileTree.node?_put tree hne _ _).trans (if_pos rfl)

theorem Visits.node?_of_not_rewrites (h : p.Visits false tree path issues v tree')
    (hkept : ∀ bytes, ¬ p.Rewrites tree (path, issues) l bytes) :
    tree'.node? l = tree.node? l := by
  cases h with
  | missing absent => rfl
  | unreadable e present unread => rfl
  | unchanged holds idle => rfl
  | @changed l' content holds busy =>
    have hne : l ≠ l' := by
      rintro rfl
      exact hkept _ ⟨content, holds, busy, rfl⟩
    obtain ⟨bytes, hfind, -⟩ := holds
    have hne' := FileTree.ne_nil_of_node? (FileTree.node?_of_find hfind)
    exact (FileTree.node?_put tree hne' _ _).trans (if_neg hne)

theorem rewrites_of_find_eq {g : Issue.Group} {bytes : ByteArray}
    (hfind : tree'.find g.1 = tree.find g.1) (hshape : tree'.shape = tree.shape) :
    p.Rewrites tree' g l bytes ↔ p.Rewrites tree g l bytes := by
  unfold Rewrites FileTree.Holds
  rw [hfind, FileTree.opened_of_shape_eq hshape]

/-- A run over groups of different files leaves in each file what its group makes of the file as it
was before the run, and every other place as it was. -/
theorem Tours.node?_eq (h : p.Tours false tree groups vs final)
    (hapart : groups.Pairwise fun g g' => ¬ tree.SameFile g.1 g'.1) :
    (∀ g ∈ groups, ∀ l bytes, p.Rewrites tree g l bytes → final.node? l = some (.file bytes)) ∧
      ∀ l, (∀ g ∈ groups, ∀ bytes, ¬ p.Rewrites tree g l bytes) →
        final.node? l = tree.node? l := by
  induction h with
  | nil => exact ⟨nofun, fun _ _ => rfl⟩
  | @cons tree tree' final path issues v groups vs first rest ih =>
    obtain ⟨hothers, hapart⟩ := List.pairwise_cons.1 hapart
    -- The first visit moves no later path, so the later groups write what they would have written.
    have hfind : ∀ g ∈ groups, tree'.find g.1 = tree.find g.1 := fun g hg =>
      first.find_eq (hothers g hg)
    obtain ⟨hwritten, hkept⟩ := ih (hapart.imp_of_mem fun hg hg' hdiff =>
      mt (FileTree.sameFile_congr (hfind _ hg) (hfind _ hg')).1 hdiff)
    refine ⟨fun g hg l bytes hrewrites => ?_, fun l hnone => ?_⟩
    · rcases List.mem_cons.1 hg with rfl | hg
      · rw [← first.node?_of_rewrites hrewrites]
        refine hkept l fun g' hg' bytes' hrewrites' => hothers g' hg' ?_
        obtain ⟨_, hholds, -⟩ := hrewrites
        obtain ⟨_, hholds', -⟩ := (rewrites_of_find_eq (hfind g' hg') first.shape_eq).1
          hrewrites'
        exact FileTree.sameFile_of_holds hholds hholds'
      · exact hwritten g hg l bytes
          ((rewrites_of_find_eq (hfind g hg) first.shape_eq).2 hrewrites)
    · obtain ⟨hfirst, hrest⟩ := List.forall_mem_cons.1 hnone
      rw [hkept l fun g hg bytes =>
        mt (rewrites_of_find_eq (hfind g hg) first.shape_eq).1 (hrest g hg bytes)]
      exact first.node?_of_not_rewrites hfirst

theorem exists_rewrites_of_partner (hsame : Issue.SameFindings is js)
    (hagree : Issue.PartnersAgree tree is js) {g : Issue.Group} (hg : g ∈ Issue.groups is)
    {bytes : ByteArray} (hrewrites : p.Rewrites tree g l bytes) :
    ∃ g' ∈ Issue.groups js, p.Rewrites tree g' l bytes := by
  obtain ⟨g', hg', hpath, hlines⟩ := hsame.exists_group hg
  exact ⟨g', hg', (p.rewrites_congr (hagree g hg g' hg' hpath) hlines).1 hrewrites⟩

theorem Tours.node?_eq_of_partners {vs' : List Visit} {final' : FileTree}
    (h : p.Tours false tree (Issue.groups is) vs final)
    (h' : p.Tours false tree (Issue.groups js) vs' final')
    (hsame : Issue.SameFindings is js) (hagree : Issue.PartnersAgree tree is js)
    (hapart : (Issue.groups is).Pairwise fun g g' => ¬ tree.SameFile g.1 g'.1) (l : Location) :
    final.node? l = final'.node? l := by
  obtain ⟨hwritten, hkept⟩ := h.node?_eq hapart
  obtain ⟨hwritten', hkept'⟩ := h'.node?_eq (hagree.apart hsame hapart)
  by_cases hsome : ∃ g ∈ Issue.groups is, ∃ bytes, p.Rewrites tree g l bytes
  · obtain ⟨g, hg, bytes, hrewrites⟩ := hsome
    obtain ⟨g', hg', hrewrites'⟩ := exists_rewrites_of_partner hsame hagree hg hrewrites
    rw [hwritten g hg l bytes hrewrites, hwritten' g' hg' l bytes hrewrites']
  · rw [hkept l fun g hg bytes hrewrites => hsome ⟨g, hg, bytes, hrewrites⟩,
      hkept' l fun g' hg' bytes hrewrites' => ?_]
    obtain ⟨g, hg, hrewrites⟩ :=
      exists_rewrites_of_partner hsame.symm hagree.symm hg' hrewrites'
    exact hsome ⟨g, hg, bytes, hrewrites⟩

/-- Two reports whose issues give every line of every file the same strings in the same order leave
the same files, count the same and edit each file in the same way, if no two groups of a report are
of one file on disk and the spellings of one path in both reports agree. -/
theorem report_order_immaterial (p : Localizer) {report report' : Text} {tree : FileTree}
    (lintStatus lintStatus' : Option LintStatus)
    (hsame : Issue.SameFindings (p.issues report) (p.issues report'))
    (hapart : (Issue.groups (p.issues report)).Pairwise fun g g' => ¬ tree.SameFile g.1 g'.1)
    (hagree : Issue.PartnersAgree tree (p.issues report) (p.issues report')) :
    let course := p.process false report tree
    let course' := p.process false report' tree
    course.failure = none ∧ course'.failure = none ∧
    (∀ l, course.tree.node? l = course'.tree.node? l) ∧
    (course.account p false lintStatus).summary = (course'.account p false lintStatus').summary ∧
    ∀ f, ((course.account p false lintStatus).replacedIn f).map Applied.edit =
      ((course'.account p false lintStatus').replacedIn f).map Applied.edit := by
  intro course course'
  obtain ⟨hok, htour⟩ := p.tours_process false report tree
  obtain ⟨hok', htour'⟩ := p.tours_process false report' tree
  have hperm := effects_perm (p := p) hsame hagree
  refine ⟨hok, hok', htour.node?_eq_of_partners htour' hsame hagree hapart, ?_, fun f => ?_⟩
  · rw [summary_eq, summary_eq, map_effect_visits hapart,
      map_effect_visits (hagree.apart hsame hapart)]
    have heffects := (hperm.map (·.2)).filterMap (·.edits?)
    rw [heffects.length_eq, heffects.flatten.length_eq, ((hperm.map (·.2)).map (·.skipped)).sum_nat]
  · rw [map_edit_replacedIn hapart, map_edit_replacedIn (hagree.apart hsame hapart)]
    exact editsAt_perm hperm (effects_nodup (Issue.groups_pairwise _)) f.components

def pagesReport : Text :=
  "src/a.tsx\n  1: Hardcoded string: \"Save\"\n".toList ++
    "src/b.tsx\n  1: Hardcoded string: \"Save\"\n".toList ++
    "src//b.tsx\n  2: Hardcoded string: \"Open\"\n".toList

def pagesReport' : Text :=
  "src//b.tsx\n  2: Hardcoded string: \"Open\"\n".toList ++
    "src/a.tsx\n  1: Hardcoded string: \"Save\"\n".toList ++
    "src/b.tsx\n  1: Hardcoded string: \"Save\"\n".toList

def pageIssue (path : String) (line : Nat) (string : String) : Issue :=
  ⟨.ofString path, line, string.toList⟩

theorem issues_pagesReport : saveLocalizer.issues pagesReport =
    [pageIssue "/src/a.tsx" 1 "Save", pageIssue "/src/b.tsx" 1 "Save",
      pageIssue "/src//b.tsx" 2 "Open"] := by
  decide +kernel

theorem issues_pagesReport' : saveLocalizer.issues pagesReport' =
    [pageIssue "/src//b.tsx" 2 "Open", pageIssue "/src/a.tsx" 1 "Save",
      pageIssue "/src/b.tsx" 1 "Save"] := by
  decide +kernel

/-- The second report mentions the second page first, under another spelling. -/
theorem report_order_immaterial_pages :
    Issue.SameFindings (saveLocalizer.issues pagesReport) (saveLocalizer.issues pagesReport') ∧
    ((Issue.groups (saveLocalizer.issues pagesReport)).Pairwise fun g g' =>
      ¬ twoPages.SameFile g.1 g'.1) ∧
    Issue.PartnersAgree twoPages (saveLocalizer.issues pagesReport)
      (saveLocalizer.issues pagesReport') ∧
    (∀ l, (saveLocalizer.process false pagesReport twoPages).tree.node? l =
      (saveLocalizer.process false pagesReport' twoPages).tree.node? l) ∧
    ((saveLocalizer.process false pagesReport twoPages).account saveLocalizer false none).summary =
      ((saveLocalizer.process false pagesReport' twoPages).account saveLocalizer false none).summary
    := by
  have hsame : Issue.SameFindings (saveLocalizer.issues pagesReport)
      (saveLocalizer.issues pagesReport') := by
    rw [issues_pagesReport, issues_pagesReport']
    exact (Issue.sameFindings_swap [_] [] (by decide)).trans
      (Issue.sameFindings_swap [] [_] (by decide +kernel))
  have hgroups : (Issue.groups (saveLocalizer.issues pagesReport)).map (·.1) =
      [⟨"/src/a.tsx".toList⟩, ⟨"/src/b.tsx".toList⟩] := by decide +kernel
  have hgroups' : (Issue.groups (saveLocalizer.issues pagesReport')).map (·.1) =
      [⟨"/src//b.tsx".toList⟩, ⟨"/src/a.tsx".toList⟩] := by decide +kernel
  have hfirst : twoPages.find ⟨"/src/a.tsx".toList⟩ = .ok (.present _ _) :=
    FileTree.walk_file_of_directory (by decide) (by decide) rfl rfl
  have hsecond : twoPages.find ⟨"/src/b.tsx".toList⟩ = .ok (.present _ _) :=
    FileTree.walk_file_of_directory (by decide) (by decide) rfl rfl
  have hapart : (Issue.groups (saveLocalizer.issues pagesReport)).Pairwise fun g g' =>
      ¬ twoPages.SameFile g.1 g'.1 := by
    refine List.Pairwise.of_map (·.1) (fun _ _ h => h) ?_ (S := fun p q => ¬ twoPages.SameFile p q)
    rw [hgroups, List.pairwise_pair]
    rintro ⟨l, bytes, hl, hl'⟩
    cases hfirst.symm.trans hl
    cases hsecond.symm.trans hl'
  have hplain : ∀ path ∈ [Path.ofString "/src/a.tsx", .ofString "/src/b.tsx",
      .ofString "/src//b.tsx"], path.Plain := by
    intro path hpath
    simp only [List.mem_cons, List.not_mem_nil, or_false] at hpath
    rcases hpath with rfl | rfl | rfl <;> exact ⟨by decide, fun s hs => by cases hs; rfl⟩
  have hagree : Issue.PartnersAgree twoPages (saveLocalizer.issues pagesReport)
      (saveLocalizer.issues pagesReport') := by
    intro g hg g' hg' hpath
    have hmem := List.mem_map_of_mem (f := (·.1)) hg
    have hmem' := List.mem_map_of_mem (f := (·.1)) hg'
    rw [hgroups] at hmem
    rw [hgroups'] at hmem'
    refine FileTree.agree_of_same hpath (hplain _ ?_) (hplain _ ?_)
    · exact List.mem_of_mem_take (i := 2) hmem
    · simp only [List.mem_cons, List.not_mem_nil, or_false] at hmem'
      rcases hmem' with h | h <;> rw [h] <;> decide
  obtain ⟨-, -, htree, hsummary, -⟩ :=
    report_order_immaterial saveLocalizer none none hsame hapart hagree
  exact ⟨hsame, hapart, hagree, htree, hsummary⟩

/-- Header paths may end in a separator. -/
def slashLocalizer : Localizer :=
  ofConfig { extensions := ["tsx/".toList, "tsx".toList] } ⟨"/".toList⟩
    (.ofJson (.object [("save".toList, .string "Save".toList)]))

def slashReport : Text :=
  "src/a.tsx/\n  1: Hardcoded string: \"Save\"\n".toList ++
    "src/a.tsx\n  2: Hardcoded string: \"Open\"\n".toList

def slashReport' : Text :=
  "src/a.tsx\n  2: Hardcoded string: \"Open\"\n".toList ++
    "src/a.tsx/\n  1: Hardcoded string: \"Save\"\n".toList

theorem groups_slashReport : Issue.groups (slashLocalizer.issues slashReport) =
    [(⟨"/src/a.tsx/".toList⟩,
      [pageIssue "/src/a.tsx/" 1 "Save", pageIssue "/src/a.tsx" 2 "Open"])] := by
  decide +kernel

theorem groups_slashReport' : Issue.groups (slashLocalizer.issues slashReport') =
    [(⟨"/src/a.tsx".toList⟩,
      [pageIssue "/src/a.tsx" 2 "Open", pageIssue "/src/a.tsx/" 1 "Save"])] := by
  decide +kernel

theorem find_behind_page :
    twoPages.find ⟨"/src/a.tsx/".toList⟩ = .error .notADirectory := by
  change twoPages.walk FileTree.linkLimit [] [[], "src".toList, "a.tsx".toList, []] = _
  rw [FileTree.walk_idle rfl, FileTree.walk_directory (by decide) rfl]
  exact FileTree.walk_file (by decide) rfl

/-- The first spelling of a path decides whether its group finds the file. -/
theorem first_spelling_decides :
    Issue.SameFindings (slashLocalizer.issues slashReport) (slashLocalizer.issues slashReport') ∧
    ((Issue.groups (slashLocalizer.issues slashReport)).Pairwise fun g g' =>
      ¬ twoPages.SameFile g.1 g'.1) ∧
    ((Issue.groups (slashLocalizer.issues slashReport')).Pairwise fun g g' =>
      ¬ twoPages.SameFile g.1 g'.1) ∧
    ((slashLocalizer.process false slashReport twoPages).account slashLocalizer false
      none).summary = ⟨0, 0, 2⟩ ∧
    ((slashLocalizer.process false slashReport' twoPages).account slashLocalizer false
      none).summary = ⟨1, 1, 1⟩ := by
  have hsame : Issue.SameFindings (slashLocalizer.issues slashReport)
      (slashLocalizer.issues slashReport') := by
    have hissues : slashLocalizer.issues slashReport =
        [pageIssue "/src/a.tsx/" 1 "Save", pageIssue "/src/a.tsx" 2 "Open"] := by decide +kernel
    have hissues' : slashLocalizer.issues slashReport' =
        [pageIssue "/src/a.tsx" 2 "Open", pageIssue "/src/a.tsx/" 1 "Save"] := by decide +kernel
    rw [hissues, hissues']
    exact Issue.sameFindings_swap [] [] (by decide)
  have hapart : (Issue.groups (slashLocalizer.issues slashReport)).Pairwise fun g g' =>
      ¬ twoPages.SameFile g.1 g'.1 := by
    rw [groups_slashReport]
    exact List.pairwise_singleton _ _
  have hapart' : (Issue.groups (slashLocalizer.issues slashReport')).Pairwise fun g g' =>
      ¬ twoPages.SameFile g.1 g'.1 := by
    rw [groups_slashReport']
    exact List.pairwise_singleton _ _
  refine ⟨hsame, hapart, hapart', ?_, ?_⟩
  · have hnone : ∀ l content, ¬ twoPages.Holds ⟨"/src/a.tsx/".toList⟩ l content := by
      rintro l content ⟨bytes, hfind, -⟩
      cases find_behind_page.symm.trans hfind
    rw [summary_eq, map_effect_visits hapart, groups_slashReport, effects, List.map_singleton,
      effect_visit_of_not_holds _ _ _ hnone]
    rfl
  · have hholds : twoPages.Holds ⟨"/src/a.tsx".toList⟩ ["src".toList, "a.tsx".toList]
        "<p>Save</p>".toList :=
      ⟨_, FileTree.walk_file_of_directory (by decide) (by decide) rfl rfl, rfl,
        Text.decode?_encode _⟩
    have hedits : (slashLocalizer.replaced "<p>Save</p>".toList
        [pageIssue "/src/a.tsx" 2 "Open", pageIssue "/src/a.tsx/" 1 "Save"]).map Applied.edit =
          [("save".toList, ⟨0, "<p>Save</p>".toList, "<p>\x7bt(\"save\")\x7d</p>".toList⟩)] := by
      rw [replaced, settled, bottomUp, List.mergeSort_of_pairwise (by decide)]
      decide +kernel
    rw [summary_eq, map_effect_visits hapart', groups_slashReport', effects, List.map_singleton,
      effect_visit_of_holds _ _ _ hholds, hedits]
    decide

end Localizer
end Localize

import Mathlib.Data.List.Sort
import Localize.Proofs.Grouping

/-! The groups of a report are its one exact and stable partition by files: a group for each file, in
the order of the first mentions and under the spelling of the first mention, with every issue of the
file in it as it is and in the order of the report. They are dealt out just as well with a map that
has the place of each file's group, and dealing out the groups again gives them back. -/

namespace Localize.Issue

variable {issue : Issue} {issues : List Issue} {gs : List Group} {file : Path} {ps : List Path}

/-- The index of the first issue of a file. -/
def firstIndex (issues : List Issue) (file : Path) : Nat := issues.findIdx (file.Same ·.file)

/-- A partition of issues by their files, stable and with groups that are named and ordered by the
first mentions. -/
structure IsPartition (issues : List Issue) (gs : List Group) : Prop where
  covered : ∀ i ∈ issues, ∃ g ∈ gs, i ∈ g.2
  exact : ∀ g ∈ gs, g.2 = issues.filter (g.1.Same ·.file)
  named : ∀ g ∈ gs, g.2.head?.map (·.file) = some g.1
  apart : gs.Pairwise fun g g' => ¬ g.1.Same g'.1
  ordered : gs.Pairwise fun g g' => firstIndex issues g.1 < firstIndex issues g'.1

theorem firstIndex_eq (issues : List Issue) (file : Path) :
    firstIndex issues file = (issues.map (·.file)).findIdx (file.Same ·) := by
  rw [firstIndex, List.findIdx_map]
  rfl

theorem find?_same_congr {p q : Path} (h : p.Same q) (ps : List Path) :
    ps.find? (p.Same ·) = ps.find? (q.Same ·) := by
  have hpred : (fun r => decide (p.Same r)) = fun r => decide (q.Same r) :=
    funext fun r => decide_eq_decide.2 (by rw [Path.Same, Path.Same, h])
  rw [hpred]

theorem mem_firstMentions_iff : file ∈ firstMentions ps ↔ ps.find? (file.Same ·) = some file := by
  have hfind {f : Path} (h : f ∈ firstMentions ps) : ps.find? (f.Same ·) = some f := by
    induction ps with
    | nil => cases h
    | cons p ps ih =>
      rcases List.mem_cons.1 h with rfl | h
      · exact List.find?_cons_of_pos (decide_eq_true (Path.Same.refl f))
      · obtain ⟨hf, hp⟩ := List.mem_filter.1 h
        have hother : ¬ f.Same p := fun hs => of_decide_eq_true hp hs.symm
        rw [List.find?_cons_of_neg (by simpa using hother), ih hf]
  refine ⟨hfind, fun h => ?_⟩
  obtain ⟨f, hf, hsame⟩ := exists_firstMention (List.mem_of_find?_eq_some h)
  have hfirst := hfind hf
  rw [find?_same_congr hsame, h] at hfirst
  rwa [Option.some.inj hfirst]

theorem firstMentions_ordered (ps : List Path) :
    (firstMentions ps).Pairwise fun p q => ps.findIdx (p.Same ·) < ps.findIdx (q.Same ·) := by
  induction ps with
  | nil => exact List.Pairwise.nil
  | cons p ps ih =>
    have hbehind {q : Path} (hq : q ∈ (firstMentions ps).filter fun q => ¬ p.Same q) :
        (p :: ps).findIdx (q.Same ·) = ps.findIdx (q.Same ·) + 1 := by
      have hother : ¬ q.Same p := fun hs =>
        of_decide_eq_true (List.mem_filter.1 hq).2 hs.symm
      rw [List.findIdx_cons, decide_eq_false hother]
      rfl
    refine List.pairwise_cons.2 ⟨fun q hq => ?_, (ih.filter _).imp_of_mem fun hp hq hlt => ?_⟩
    · rw [hbehind hq, List.findIdx_cons, decide_eq_true (Path.Same.refl p)]
      exact Nat.succ_pos _
    · rw [hbehind hp, hbehind hq]
      exact Nat.succ_lt_succ hlt

theorem head?_filter_same (issues : List Issue) (file : Path) :
    (issues.filter (file.Same ·.file)).head?.map (·.file) =
      (issues.map (·.file)).find? (file.Same ·) := by
  rw [List.head?_filter, List.find?_map]
  rfl

theorem isPartition_groups (issues : List Issue) : IsPartition issues (groups issues) where
  covered i hi := List.mem_flatMap.1 ((groups_perm issues).mem_iff.2 hi)
  exact g hg := (mem_groups.1 hg).2
  named g hg := by
    obtain ⟨hname, hissues⟩ := mem_groups.1 hg
    rw [hissues, head?_filter_same, mem_firstMentions_iff.1 hname]
  apart := groups_pairwise issues
  ordered := by
    rw [groups_eq, List.pairwise_map]
    refine (firstMentions_ordered _).imp fun hlt => ?_
    rwa [firstIndex_eq, firstIndex_eq]

theorem IsPartition.mem_names (h : IsPartition issues gs) :
    file ∈ gs.map (·.1) ↔ file ∈ firstMentions (issues.map (·.file)) := by
  have hname {g : Group} (hg : g ∈ gs) :
      (issues.map (·.file)).find? (g.1.Same ·) = some g.1 := by
    rw [← head?_filter_same, ← h.exact g hg, h.named g hg]
  rw [mem_firstMentions_iff]
  constructor
  · intro hmem
    obtain ⟨g, hg, rfl⟩ := List.mem_map.1 hmem
    exact hname hg
  · intro hfind
    obtain ⟨i, hi, rfl⟩ := List.mem_map.1 (List.mem_of_find?_eq_some hfind)
    obtain ⟨g, hg, hmem⟩ := h.covered i hi
    rw [h.exact g hg] at hmem
    have hsame : g.1.Same i.file := of_decide_eq_true (List.mem_filter.1 hmem).2
    have hfirst := hname hg
    rw [find?_same_congr hsame, hfind] at hfirst
    rw [Option.some.inj hfirst]
    exact List.mem_map_of_mem hg

/-- There is one partition only. -/
theorem IsPartition.eq_groups (h : IsPartition issues gs) : gs = groups issues := by
  let before (p q : Path) : Prop := firstIndex issues p < firstIndex issues q
  have : Std.Irrefl before := ⟨fun _ => Nat.lt_irrefl _⟩
  have : Std.Antisymm before := ⟨fun _ _ hlt hgt => absurd hlt (Nat.lt_asymm hgt)⟩
  have hordered : (firstMentions (issues.map (·.file))).Pairwise before := by
    refine (firstMentions_ordered _).imp fun hlt => ?_
    rwa [← firstIndex_eq, ← firstIndex_eq] at hlt
  have hnames : gs.map (·.1) = firstMentions (issues.map (·.file)) :=
    List.Pairwise.eq_of_mem_iff (List.pairwise_map.2 h.ordered) hordered fun _ => h.mem_names
  rw [groups_eq, ← hnames, List.map_map]
  conv_lhs => rw [← List.map_id gs]
  exact List.map_congr_left fun g hg => Prod.ext rfl (h.exact g hg)

/-! ### Dealing out the groups again -/

theorem insert_append_of_apart {rest : List Group} (h : ∀ g ∈ gs, ¬ g.1.Same issue.file) :
    insert issue (gs ++ rest) = gs ++ insert issue rest := by
  induction gs with
  | nil => rfl
  | cons g gs ih =>
    obtain ⟨hg, hgs⟩ := List.forall_mem_cons.1 h
    rw [List.cons_append, insert, if_neg hg, ih hgs, List.cons_append]

theorem foldl_insert_last {before more : List Issue} (hapart : ∀ g ∈ gs, ¬ g.1.Same file)
    (hsame : ∀ i ∈ more, file.Same i.file) :
    more.foldl (fun gs i => insert i gs) (gs ++ [(file, before)]) =
      gs ++ [(file, before ++ more)] := by
  induction more generalizing before with
  | nil => rw [List.foldl_nil, List.append_nil]
  | cons i more ih =>
    obtain ⟨hi, hmore⟩ := List.forall_mem_cons.1 hsame
    have hpast : ∀ g ∈ gs, ¬ g.1.Same i.file := fun g hg h => hapart g hg (h.trans hi.symm)
    rw [List.foldl_cons, insert_append_of_apart hpast, insert, if_pos hi, ih hmore,
      List.append_assoc, List.singleton_append]

theorem foldl_insert_group {g : Group} (hapart : ∀ g' ∈ gs, ¬ g'.1.Same g.1)
    (hname : g.2.head?.map (·.file) = some g.1) (hsame : ∀ i ∈ g.2, g.1.Same i.file) :
    g.2.foldl (fun gs i => insert i gs) gs = gs ++ [g] := by
  obtain ⟨file, _ | ⟨i, more⟩⟩ := g
  · cases hname
  · obtain rfl : i.file = file := Option.some.inj hname
    have hopen : insert i (gs ++ []) = gs ++ insert i [] := insert_append_of_apart hapart
    rw [List.append_nil, insert] at hopen
    rw [List.foldl_cons, hopen,
      foldl_insert_last hapart (fun j hj => hsame j (List.mem_cons_of_mem _ hj)),
      List.singleton_append]

/-- Groups that are apart and named by their first issues are dealt out again one after another. -/
theorem foldl_insert_flatMap {rest : List Group}
    (hapart : (gs ++ rest).Pairwise fun g g' => ¬ g.1.Same g'.1)
    (hnames : ∀ g ∈ rest, g.2.head?.map (·.file) = some g.1)
    (hsame : ∀ g ∈ rest, ∀ i ∈ g.2, g.1.Same i.file) :
    (rest.flatMap (·.2)).foldl (fun gs i => insert i gs) gs = gs ++ rest := by
  induction rest generalizing gs with
  | nil => rw [List.flatMap_nil, List.foldl_nil, List.append_nil]
  | cons g rest ih =>
    have hg : ∀ g' ∈ gs, ¬ g'.1.Same g.1 := fun g' hg' =>
      (List.pairwise_append.1 hapart).2.2 g' hg' g List.mem_cons_self
    obtain ⟨hname, hnames⟩ := List.forall_mem_cons.1 hnames
    obtain ⟨hs, hsame⟩ := List.forall_mem_cons.1 hsame
    rw [List.append_cons] at hapart ⊢
    rw [List.flatMap_cons, List.foldl_append, foldl_insert_group hg hname hs,
      ih hapart hnames hsame]

theorem groups_flatMap_groups (issues : List Issue) :
    groups ((groups issues).flatMap (·.2)) = groups issues := by
  have hpart := isPartition_groups issues
  refine foldl_insert_flatMap hpart.apart hpart.named fun g hg i hi => ?_
  rw [hpart.exact g hg] at hi
  exact of_decide_eq_true (List.mem_filter.1 hi).2

/-! ### Dealing with a map of places -/

/-- The groups so far, and a map that has the place of each file's group among them. -/
structure Dealing where
  places : List (Path × Nat)
  groups : List Group

namespace Dealing

variable {d : Dealing}

def place? (d : Dealing) (file : Path) : Option Nat :=
  (d.places.find? (·.1.Same file)).map (·.2)

def add (issue : Issue) (g : Group) : Group := (g.1, g.2 ++ [issue])

/-- An issue joins the group at the place of its file, or opens one at the next place. There is no
result if no group is at the place. -/
def deal (d : Dealing) (issue : Issue) : Option Dealing :=
  match d.place? issue.file with
  | some place =>
    if place < d.groups.length then
      some { d with groups := d.groups.modify place (add issue) }
    else none
  | none =>
    some {
      places := (issue.file, d.groups.length) :: d.places
      groups := d.groups ++ [(issue.file, [issue])] }

/-- The map has the places of the groups, and nothing else. -/
def InStep (d : Dealing) : Prop :=
  ∀ file, d.place? file = d.groups.findIdx? (·.1.Same file)

/-- Dealt out with the map of places, from the first issue to the last. -/
def dealt (issues : List Issue) : Option Dealing := issues.foldlM deal ⟨[], []⟩

theorem insert_eq_modify (issue : Issue) (gs : List Group) :
    insert issue gs =
      match gs.findIdx? (·.1.Same issue.file) with
      | some place => gs.modify place (add issue)
      | none => gs ++ [(issue.file, [issue])] := by
  induction gs with
  | nil => rfl
  | cons g gs ih =>
    rw [insert, List.findIdx?_cons]
    by_cases hg : g.1.Same issue.file
    · rw [if_pos hg, decide_eq_true hg]
      rfl
    · rw [if_neg hg, decide_eq_false hg, ih]
      cases gs.findIdx? (·.1.Same issue.file) <;> rfl

theorem findIdx?_modify_add (place : Nat) (gs : List Group) :
    (gs.modify place (add issue)).findIdx? (·.1.Same file) = gs.findIdx? (·.1.Same file) := by
  induction gs generalizing place with
  | nil => rw [List.modify_nil]
  | cons g gs ih =>
    cases place with
    | zero => rfl
    | succ place => rw [List.modify_succ_cons, List.findIdx?_cons, List.findIdx?_cons, ih]

/-- One issue keeps the map and the groups in step, and the place it has is the place of a group. -/
theorem InStep.exists_deal (h : d.InStep) (issue : Issue) :
    ∃ d', d.deal issue = some d' ∧ d'.InStep ∧ d'.groups = insert issue d.groups := by
  have hplace := h issue.file
  rw [deal, insert_eq_modify, ← hplace]
  cases hfound : d.place? issue.file with
  | some place =>
    rw [hfound] at hplace
    have hlt : place < d.groups.length :=
      (List.findIdx?_eq_some_iff_getElem.1 hplace.symm).1
    refine ⟨_, if_pos hlt, fun file => ?_, rfl⟩
    rw [findIdx?_modify_add]
    exact h file
  | none =>
    rw [hfound] at hplace
    refine ⟨_, rfl, fun file => ?_, rfl⟩
    rw [place?, List.find?_cons, List.findIdx?_append]
    by_cases hs : issue.file.Same file
    · -- The file is new under this spelling too.
      have hnone : d.groups.findIdx? (·.1.Same file) = none := by
        rw [List.findIdx?_eq_none_iff]
        intro g hg
        have hother := of_decide_eq_false (List.findIdx?_eq_none_iff.1 hplace.symm g hg)
        exact decide_eq_false fun h' => hother (h'.trans hs.symm)
      simp [hs, hnone]
    · rw [decide_eq_false hs]
      simpa [hs, place?] using h file

theorem exists_dealt (issues : List Issue) :
    ∃ d, dealt issues = some d ∧ d.InStep ∧ d.groups = Issue.groups issues := by
  induction issues using List.reverseRecOn with
  | nil => exact ⟨_, rfl, fun _ => rfl, rfl⟩
  | append_singleton issues issue ih =>
    obtain ⟨d, hd, hstep, hgroups⟩ := ih
    obtain ⟨d', hd', hstep', hgroups'⟩ := hstep.exists_deal issue
    refine ⟨d', ?_, hstep', ?_⟩
    · rw [dealt] at hd ⊢
      rw [List.foldlM_append, hd]
      simpa using hd'
    · rw [hgroups', hgroups, groups_append_singleton]

end Dealing

/-- The groups are the one stable partition of the issues by their files, with every issue in one
place; a map of places deals them out as well, and they are the groups of their own issues. -/
theorem grouped_by_file (issues : List Issue) :
    (∀ gs, IsPartition issues gs ↔ gs = groups issues) ∧
      ((groups issues).flatMap (·.2)).Perm issues ∧
      groups ((groups issues).flatMap (·.2)) = groups issues ∧
      (Dealing.dealt issues).map (·.groups) = some (groups issues) := by
  refine ⟨fun gs => ⟨fun h => h.eq_groups, ?_⟩, groups_perm issues, groups_flatMap_groups issues, ?_⟩
  · rintro rfl
    exact isPartition_groups issues
  · obtain ⟨d, hd, -, hgroups⟩ := Dealing.exists_dealt issues
    rw [hd, Option.map_some, hgroups]

/-- Other spellings of a file join its group, but a leading `.` names another file. -/
example :
    let issue (file : String) : Issue := ⟨.ofString file, 1, []⟩
    groups [issue "src//a.tsx", issue "./src/a.tsx", issue "src/./a.tsx", issue "src/a.tsx/"] =
      [(.ofString "src//a.tsx", [issue "src//a.tsx", issue "src/./a.tsx", issue "src/a.tsx/"]),
        (.ofString "./src/a.tsx", [issue "./src/a.tsx"])] := by
  decide

end Localize.Issue

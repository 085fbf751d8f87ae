import Mathlib.Data.List.Induction
import Mathlib.Data.List.Pairwise
import Localize.Run

/-! How the issues of a report are dealt out: one group for each file, in the order in which the
files are first mentioned and with every issue of the file in it, and in each group the issues from
the last claimed line to the first. -/

namespace Localize

theorem Path.Same.refl (p : Path) : p.Same p := rfl

theorem Path.Same.symm {p q : Path} (h : p.Same q) : q.Same p := Eq.symm h

theorem Path.Same.trans {p q r : Path} (h : p.Same q) (h' : q.Same r) : p.Same r := Eq.trans h h'

namespace Issue

/-- The different files of a list, each where and how it is first mentioned. -/
def firstMentions : List Path → List Path
  | [] => []
  | p :: ps => p :: (firstMentions ps).filter fun q => ¬ p.Same q

theorem firstMentions_pairwise (ps : List Path) :
    (firstMentions ps).Pairwise fun p q => ¬ p.Same q := by
  induction ps with
  | nil => exact List.Pairwise.nil
  | cons p ps ih =>
    refine List.pairwise_cons.2 ⟨fun q hq => ?_, ih.filter _⟩
    simpa using (List.mem_filter.1 hq).2

theorem firstMentions_sublist (ps : List Path) : (firstMentions ps).Sublist ps := by
  induction ps with
  | nil => exact List.Sublist.slnil
  | cons p ps ih => exact (List.filter_sublist.trans ih).cons_cons p

theorem exists_firstMention {p : Path} {ps : List Path} (h : p ∈ ps) :
    ∃ f ∈ firstMentions ps, f.Same p := by
  induction ps with
  | nil => cases h
  | cons q ps ih =>
    by_cases hq : q.Same p
    · exact ⟨q, List.mem_cons_self, hq⟩
    · obtain ⟨f, hf, hp⟩ := ih ((List.mem_cons.1 h).resolve_left fun he => hq (he ▸ rfl))
      refine ⟨f, List.mem_cons_of_mem _ (List.mem_filter.2 ⟨hf, ?_⟩), hp⟩
      simpa using fun hqf => hq (Path.Same.trans hqf hp)

theorem firstMentions_append_singleton (ps : List Path) (p : Path) :
    firstMentions (ps ++ [p]) =
      firstMentions ps ++ if ∃ f ∈ firstMentions ps, f.Same p then [] else [p] := by
  induction ps with
  | nil => simp [firstMentions]
  | cons q ps ih =>
    rw [List.cons_append, firstMentions, ih, List.filter_append, firstMentions, List.cons_append]
    congr 2
    by_cases hq : q.Same p
    · have hmem : ∃ f ∈ q :: (firstMentions ps).filter fun r => ¬ q.Same r, f.Same p :=
        ⟨q, List.mem_cons_self, hq⟩
      simp only [if_pos hmem]
      split <;> simp [hq]
    · have hiff : (∃ f ∈ q :: (firstMentions ps).filter fun r => ¬ q.Same r, f.Same p) ↔
          ∃ f ∈ firstMentions ps, f.Same p := by
        constructor
        · rintro ⟨f, hf, hp⟩
          rcases List.mem_cons.1 hf with rfl | hf
          · exact absurd hp hq
          · exact ⟨f, (List.mem_filter.1 hf).1, hp⟩
        · rintro ⟨f, hf, hp⟩
          refine ⟨f, List.mem_cons_of_mem _ (List.mem_filter.2 ⟨hf, ?_⟩), hp⟩
          simpa using fun hqf => hq (Path.Same.trans hqf hp)
      simp only [hiff]
      split <;> simp [hq]

theorem groups_append_singleton (issues : List Issue) (issue : Issue) :
    groups (issues ++ [issue]) = insert issue (groups issues) := by
  simp [groups, List.foldl_append]

/-- Among groups of different files an issue joins the one of its file, or opens one. -/
theorem insert_map {fs : List Path} (g : Path → List Issue) (issue : Issue)
    (h : fs.Pairwise fun p q => ¬ p.Same q) :
    insert issue (fs.map fun f => (f, g f)) =
      (fs.map fun f => (f, g f ++ if f.Same issue.file then [issue] else [])) ++
        if ∃ f ∈ fs, f.Same issue.file then [] else [(issue.file, [issue])] := by
  induction fs with
  | nil => simp [insert]
  | cons f fs ih =>
    obtain ⟨hf, hfs⟩ := List.pairwise_cons.1 h
    rw [List.map_cons, insert]
    by_cases hs : f.Same issue.file
    · have hrest : ∀ q ∈ fs, ¬ q.Same issue.file := fun q hq hq' =>
        hf q hq (Path.Same.trans hs (Path.Same.symm hq'))
      have hmap : (fs.map fun q => (q, g q ++ if q.Same issue.file then [issue] else [])) =
          fs.map fun q => (q, g q) :=
        List.map_congr_left fun q hq => by rw [if_neg (hrest q hq), List.append_nil]
      rw [if_pos hs, if_pos ⟨f, List.mem_cons_self, hs⟩, List.append_nil, List.map_cons, if_pos hs,
        hmap]
    · rw [if_neg hs, ih hfs, List.map_cons, if_neg hs, List.append_nil, List.cons_append]
      simp only [List.mem_cons, exists_eq_or_imp, hs, false_or]

/-- Each file has one group, which holds every issue of the file in the order of the report. -/
theorem groups_eq (issues : List Issue) :
    groups issues =
      (firstMentions (issues.map (·.file))).map fun f => (f, issues.filter (f.Same ·.file)) := by
  induction issues using List.reverseRecOn with
  | nil => rfl
  | append_singleton issues issue ih =>
    rw [groups_append_singleton, ih, insert_map _ _ (firstMentions_pairwise _), List.map_append,
      List.map_cons, List.map_nil, firstMentions_append_singleton, List.map_append]
    congr 1
    · refine List.map_congr_left fun f _ => ?_
      rw [List.filter_append]
      by_cases hf : f.Same issue.file <;> simp [hf]
    · split
      · rfl
      · rename_i hnone
        -- No issue so far is of the file, or the file would have been mentioned.
        have hnil : issues.filter (issue.file.Same ·.file) = [] := by
          rw [List.filter_eq_nil_iff]
          intro i hi hs
          obtain ⟨f, hf, hfi⟩ := exists_firstMention (List.mem_map_of_mem (f := (·.file)) hi)
          exact hnone ⟨f, hf, hfi.trans (Path.Same.symm (of_decide_eq_true hs))⟩
        rw [List.map_cons, List.map_nil, List.filter_append, hnil]
        simp [Path.Same]

theorem mem_groups {issues : List Issue} {g : Group} :
    g ∈ groups issues ↔
      g.1 ∈ firstMentions (issues.map (·.file)) ∧ g.2 = issues.filter (g.1.Same ·.file) := by
  rw [groups_eq, List.mem_map]
  constructor
  · rintro ⟨f, hf, rfl⟩
    exact ⟨hf, rfl⟩
  · rintro ⟨hf, hissues⟩
    exact ⟨g.1, hf, Prod.ext rfl hissues.symm⟩

theorem groups_pairwise (issues : List Issue) :
    (groups issues).Pairwise fun g g' => ¬ g.1.Same g'.1 := by
  rw [groups_eq, List.pairwise_map]
  exact firstMentions_pairwise _

theorem insert_perm (issue : Issue) (gs : List Group) :
    ((insert issue gs).flatMap (·.2)).Perm (gs.flatMap (·.2) ++ [issue]) := by
  induction gs with
  | nil => simp [insert]
  | cons g gs ih =>
    obtain ⟨file, issues⟩ := g
    rw [insert]
    split
    · simp only [List.flatMap_cons, List.append_assoc]
      exact List.Perm.append_left _ List.perm_append_comm
    · simp only [List.flatMap_cons, List.append_assoc]
      exact List.Perm.append_left _ ih

theorem groups_perm (issues : List Issue) : ((groups issues).flatMap (·.2)).Perm issues := by
  induction issues using List.reverseRecOn with
  | nil => exact List.Perm.refl _
  | append_singleton issues issue ih =>
    rw [groups_append_singleton]
    exact (insert_perm issue _).trans (ih.append_right _)

/-- From the last claimed line to the first, and issues of one line in the order they came in. -/
structure IsBottomUp (issues sorted : List Issue) : Prop where
  perm : sorted.Perm issues
  descending : sorted.Pairwise fun a b => b.line ≤ a.line
  stable : ∀ line, sorted.filter (·.line = line) = issues.filter (·.line = line)

theorem isBottomUp_bottomUp (issues : List Issue) :
    IsBottomUp issues (Localizer.bottomUp issues) := by
  have htrans : ∀ a b c : Issue, decide (b.line ≤ a.line) → decide (c.line ≤ b.line) →
      decide (c.line ≤ a.line) := by
    simp only [decide_eq_true_eq]
    omega
  have htotal : ∀ a b : Issue, decide (b.line ≤ a.line) || decide (a.line ≤ b.line) := by
    simp only [Bool.or_eq_true, decide_eq_true_eq]
    omega
  have hperm := List.mergeSort_perm issues fun a b => decide (b.line ≤ a.line)
  refine ⟨hperm, ?_, fun line => ?_⟩
  · exact (List.pairwise_mergeSort htrans htotal issues).imp fun h => of_decide_eq_true h
  · -- The issues of one line are sorted already, so sorting keeps them as a sublist.
    have hsorted : (issues.filter (·.line = line)).Pairwise
        fun a b => decide (b.line ≤ a.line) := by
      refine List.pairwise_of_forall_mem_list fun a ha b hb => ?_
      have ha := of_decide_eq_true (List.mem_filter.1 ha).2
      have hb := of_decide_eq_true (List.mem_filter.1 hb).2
      simp [ha, hb]
    have hsub := List.sublist_mergeSort htrans htotal hsorted List.filter_sublist
    have hfilter := hsub.filter (·.line = line)
    rw [List.filter_filter] at hfilter
    simp only [Bool.and_self] at hfilter
    exact (hfilter.eq_of_length (hperm.filter _).length_eq.symm).symm

end Issue
end Localize

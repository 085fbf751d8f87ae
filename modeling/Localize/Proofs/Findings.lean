import Localize.Proofs.Conservation
import Localize.Proofs.Spelling
import Localize.Proofs.WrittenLines

/-! What is done in a file depends on the strings that each of its lines has, in their order, and on
nothing else of the issues. Sorted from the bottom up, issues with the same strings on every line
are the same findings, and a visit reads no more than those. -/

namespace Localize

/-- A replacement and its key, without the issue that asked for it. -/
def Applied.edit (a : Applied) : Text × Replacement := (a.key, a.replacement)

def Outcome.edit? (o : Outcome) : Option (Text × Replacement) := o.applied?.map Applied.edit

/-- The edits of a file if it was changed, and the number of strings that were left alone. -/
structure Effect where
  edits? : Option (List (Text × Replacement))
  skipped : Nat

def Visit.effect (v : Visit) : Effect :=
  ⟨v.change?.map fun c => c.replacements.map Applied.edit, v.skipped.length⟩

/-- The effect on a file that can be read and has so many issues. -/
def Effect.ofEdits (edits : List (Text × Replacement)) (issues : Nat) : Effect :=
  ⟨if edits = [] then none else some edits, issues - edits.length⟩

namespace Issue

def finding (i : Issue) : Nat × Text := (i.line, i.string)

/-- On every line the same strings in the same order. -/
def SameLines (is js : List Issue) : Prop :=
  ∀ line, (is.filter (·.line = line)).map (·.string) = (js.filter (·.line = line)).map (·.string)

theorem mem_iff_of_filter_eq {xs ys : List (Nat × Text)}
    (h : ∀ n, xs.filter (·.1 = n) = ys.filter (·.1 = n)) (z : Nat × Text) : z ∈ xs ↔ z ∈ ys := by
  have hz : z ∈ xs.filter (·.1 = z.1) ↔ z ∈ ys.filter (·.1 = z.1) := by rw [h z.1]
  simpa using hz

/-- A list that descends is known by the pairs on each line. -/
theorem eq_of_descending {xs ys : List (Nat × Text)} (hxs : xs.Pairwise fun x x' => x'.1 ≤ x.1)
    (hys : ys.Pairwise fun y y' => y'.1 ≤ y.1)
    (h : ∀ n, xs.filter (·.1 = n) = ys.filter (·.1 = n)) : xs = ys := by
  have hmem := mem_iff_of_filter_eq h
  induction xs generalizing ys with
  | nil => exact (List.eq_nil_iff_forall_not_mem.2 fun z hz => nomatch (hmem z).2 hz).symm
  | cons x xs ih =>
    cases ys with
    | nil => cases (hmem x).1 List.mem_cons_self
    | cons y ys =>
      obtain ⟨hx, hxs'⟩ := List.pairwise_cons.1 hxs
      obtain ⟨hy, hys'⟩ := List.pairwise_cons.1 hys
      have hle : x.1 ≤ y.1 := by
        rcases List.mem_cons.1 ((hmem x).1 List.mem_cons_self) with rfl | hx'
        · exact Nat.le_refl _
        · exact hy x hx'
      have hge : y.1 ≤ x.1 := by
        rcases List.mem_cons.1 ((hmem y).2 List.mem_cons_self) with rfl | hy'
        · exact Nat.le_refl _
        · exact hx y hy'
      -- Both heads are on the last line, and each is the first pair of it.
      have hfst : y.1 = x.1 := Nat.le_antisymm hge hle
      have hhead := h x.1
      rw [List.filter_cons_of_pos (by simp), List.filter_cons_of_pos (by simpa using hfst)] at hhead
      obtain ⟨rfl, -⟩ := List.cons.inj hhead
      have htail : ∀ n, xs.filter (·.1 = n) = ys.filter (·.1 = n) := by
        intro n
        have hn := h n
        by_cases hx : x.1 = n
        · rw [List.filter_cons_of_pos (by simpa using hx),
            List.filter_cons_of_pos (by simpa using hx)] at hn
          exact (List.cons.inj hn).2
        · rwa [List.filter_cons_of_neg (by simpa using hx),
            List.filter_cons_of_neg (by simpa using hx)] at hn
      rw [ih hxs' hys' htail (mem_iff_of_filter_eq htail)]

theorem filter_map_finding (is : List Issue) (line : Nat) :
    (is.map finding).filter (·.1 = line) =
      ((is.filter (·.line = line)).map (·.string)).map (line, ·) := by
  rw [List.filter_map, List.map_map]
  refine List.map_congr_left fun i hi => ?_
  have hline : i.line = line := of_decide_eq_true (List.mem_filter.1 hi).2
  exact Prod.ext hline rfl

theorem map_finding_bottomUp {is js : List Issue} (h : SameLines is js) :
    (Localizer.bottomUp is).map finding = (Localizer.bottomUp js).map finding := by
  have his := isBottomUp_bottomUp is
  have hjs := isBottomUp_bottomUp js
  refine eq_of_descending (List.pairwise_map.2 his.descending)
    (List.pairwise_map.2 hjs.descending) fun n => ?_
  rw [filter_map_finding, filter_map_finding, his.stable, hjs.stable, h n]

theorem SameLines.length_eq {is js : List Issue} (h : SameLines is js) :
    is.length = js.length := by
  have hlength := congrArg List.length (map_finding_bottomUp h)
  rwa [List.length_map, List.length_map, (isBottomUp_bottomUp is).perm.length_eq,
    (isBottomUp_bottomUp js).perm.length_eq] at hlength

end Issue

namespace Localizer

variable {is js : List Issue}

theorem settle_congr (p : Localizer) (lines : Buffer) {i j : Issue} (h : i.finding = j.finding) :
    (p.settle lines i).1.edit? = (p.settle lines j).1.edit? ∧
      (p.settle lines i).2 = (p.settle lines j).2 := by
  obtain ⟨hline, hstring⟩ := Prod.mk.inj h
  unfold settle
  rw [hline, hstring]
  split
  · exact ⟨rfl, rfl⟩
  · split
    · exact ⟨rfl, rfl⟩
    · exact ⟨rfl, rfl⟩

theorem settleAll_congr (p : Localizer) (lines : Buffer)
    (h : is.map Issue.finding = js.map Issue.finding) :
    (p.settleAll lines is).1.map Outcome.edit? = (p.settleAll lines js).1.map Outcome.edit? ∧
      (p.settleAll lines is).2 = (p.settleAll lines js).2 := by
  induction is generalizing js lines with
  | nil => rw [List.map_eq_nil_iff.1 h.symm]; exact ⟨rfl, rfl⟩
  | cons i is ih =>
    obtain ⟨j, js, rfl, hj, hjs⟩ := List.map_eq_cons_iff.1 h.symm
    obtain ⟨hedit, hlines⟩ := p.settle_congr lines hj.symm
    obtain ⟨hedits, hfinal⟩ := ih (p.settle lines i).2 hjs.symm
    rw [settleAll_cons, settleAll_cons, List.map_cons, List.map_cons, hedit, hedits, hfinal, hlines]
    exact ⟨rfl, rfl⟩

theorem settled_congr (p : Localizer) (content : Text) (h : Issue.SameLines is js) :
    (p.settled content is).1.map Outcome.edit? = (p.settled content js).1.map Outcome.edit? ∧
      (p.settled content is).2 = (p.settled content js).2 :=
  p.settleAll_congr (Text.lines content) (Issue.map_finding_bottomUp h)

theorem map_edit_replaced (p : Localizer) (content : Text) (issues : List Issue) :
    (p.replaced content issues).map Applied.edit =
      ((p.settled content issues).1.map Outcome.edit?).filterMap id := by
  rw [replaced, List.map_filterMap, List.filterMap_map]
  rfl

theorem map_edit_replaced_congr (p : Localizer) (content : Text) (h : Issue.SameLines is js) :
    (p.replaced content is).map Applied.edit = (p.replaced content js).map Applied.edit := by
  rw [map_edit_replaced, map_edit_replaced, (p.settled_congr content h).1]

theorem replaced_eq_nil_congr (p : Localizer) (content : Text) (h : Issue.SameLines is js) :
    p.replaced content is = [] ↔ p.replaced content js = [] := by
  rw [← List.map_eq_nil_iff (f := Applied.edit), p.map_edit_replaced_congr content h,
    List.map_eq_nil_iff]

theorem length_skipped (p : Localizer) (content : Text) (issues : List Issue) :
    ((p.settled content issues).1.filterMap Outcome.skipped?).length =
      issues.length - ((p.replaced content issues).map Applied.edit).length := by
  have hall := ((Outcome.issues_perm (p.settled content issues).1).trans
    (p.settled_issues_perm content issues)).length_eq
  rw [List.length_append, List.length_map, List.length_map] at hall
  rw [List.length_map, replaced]
  omega

variable {tree : FileTree} {path path' : Path} {l : Location} {content : Text}

theorem effect_visit_of_holds (p : Localizer) (dryRun : Bool) (issues : List Issue)
    (h : tree.Holds path l content) :
    (p.visit dryRun tree (path, issues)).1.effect =
      Effect.ofEdits ((p.replaced content issues).map Applied.edit) issues.length := by
  have hedit : (p.edit (.ofContent path content) issues).1.effect =
      Effect.ofEdits ((p.replaced content issues).map Applied.edit) issues.length := by
    rw [edit_ofContent, Effect.ofEdits, ← length_skipped]
    by_cases hidle : p.replaced content issues = []
    · rw [if_pos hidle, if_pos (by rw [hidle]; rfl)]
      rfl
    · rw [if_neg hidle, if_neg (mt List.map_eq_nil_iff.1 hidle)]
      rfl
  rw [p.visit_of_holds dryRun issues h]
  split <;> exact hedit

theorem effect_visit_of_not_holds (p : Localizer) (dryRun : Bool) (issues : List Issue)
    (h : ∀ l content, ¬ tree.Holds path l content) :
    (p.visit dryRun tree (path, issues)).1.effect = ⟨none, issues.length⟩ := by
  have hall (reason : SkipReason) :
      ((issues.map fun i => Outcome.skipped ⟨i, reason⟩).filterMap Outcome.skipped?).length =
        issues.length := by
    rw [(filterMap_skipped issues reason).2, List.length_map]
  obtain ⟨tree', -, hvisits⟩ := p.visits_visit dryRun tree path issues
  generalize (p.visit dryRun tree (path, issues)).1 = v at hvisits
  cases hvisits with
  | missing absent => exact congrArg (Effect.mk none) (hall .missingFile)
  | unreadable e present unread => exact congrArg (Effect.mk none) (hall .unreadable)
  | unchanged holds idle => exact absurd holds (h _ _)
  | changed holds busy => exact absurd holds (h _ _)

/-- Spellings that agree and the same strings on every line have the same effect. -/
theorem effect_visit_congr (p : Localizer) (dryRun : Bool) (hagree : tree.Agree path path')
    (hlines : Issue.SameLines is js) :
    (p.visit dryRun tree (path, is)).1.effect = (p.visit dryRun tree (path', js)).1.effect := by
  by_cases h : ∃ l content, tree.Holds path l content
  · obtain ⟨l, content, h⟩ := h
    rw [p.effect_visit_of_holds dryRun is h,
      p.effect_visit_of_holds dryRun js (hagree.holds_iff.1 h),
      p.map_edit_replaced_congr content hlines, hlines.length_eq]
  · simp only [not_exists] at h
    rw [p.effect_visit_of_not_holds dryRun is h,
      p.effect_visit_of_not_holds dryRun js fun l content => mt hagree.holds_iff.2 (h l content),
      hlines.length_eq]

/-- A group has its file at `l` rewritten to the bytes. -/
def Rewrites (p : Localizer) (tree : FileTree) (g : Issue.Group) (l : Location)
    (bytes : ByteArray) : Prop :=
  ∃ content, tree.Holds g.1 l content ∧ p.replaced content g.2 ≠ [] ∧
    bytes = Text.encode (SourceFile.joinedAs content (p.rewritten content g.2))

theorem rewrites_congr (p : Localizer) (hagree : tree.Agree path path')
    (hlines : Issue.SameLines is js) {bytes : ByteArray} :
    p.Rewrites tree (path, is) l bytes ↔ p.Rewrites tree (path', js) l bytes := by
  refine exists_congr fun content => ?_
  rw [hagree.holds_iff, ne_eq, p.replaced_eq_nil_congr content hlines, rewritten, rewritten,
    (p.settled_congr content hlines).2]

end Localizer
end Localize

import Localize.Proofs.FileTree

/-! Spellings of one path. Empty segments and dots move no walk, so two spellings with the same
components lead to one file, as long as the file's name ends both and none is too long. -/

namespace Localize
namespace Path

/-- The segment that a component was made from. -/
def Component.segment? : Component → Option Text
  | .root => none
  | .here => none
  | .up => some ['.', '.']
  | .name t => some t

theorem Component.segment?_ofSegment (s : Text) : (ofSegment s).segment? = some s := by
  unfold ofSegment
  split
  · rename_i h
    exact congrArg some h.symm
  · rfl

/-- The segments that move a walk. -/
def steps (segments : List Text) : List Text := segments.filter fun s => !isIdle s

theorem steps_cons_of_idle {s : Text} (h : isIdle s = true) (ss : List Text) :
    steps (s :: ss) = steps ss :=
  List.filter_cons_of_neg (by simp [h])

theorem steps_segments (p : Path) :
    steps p.segments = steps (Text.fields separator p.spelled) := by
  by_cases hroot : p.isAbsolute = true
  · obtain ⟨t, ht⟩ := List.head?_eq_some_iff.1 (of_decide_eq_true hroot)
    rw [segments, anchor, hroot, Bool.true_or, if_pos rfl, ht]
    exact (steps_cons_of_idle rfl _).symm
  · by_cases hhere : p.startsHere = true
    · rw [segments, anchor, hhere, Bool.or_true, if_pos rfl]
      unfold startsHere at hhere
      split at hhere
      · rename_i ht
        rw [ht]
        rfl
      · rename_i t ht
        rw [ht]
        rfl
      · cases hhere
    · rw [segments, anchor, if_neg (by simp [hroot, hhere])]
      rfl

theorem filterMap_components (p : Path) :
    p.components.filterMap Component.segment? = steps (Text.fields separator p.spelled) := by
  have hanchor : p.anchorComponents.filterMap Component.segment? = [] := by
    unfold anchorComponents
    split
    · rfl
    · split <;> rfl
  rw [components, List.filterMap_append, hanchor, List.nil_append, List.filterMap_map]
  refine (List.filterMap_congr fun s _ => Component.segment?_ofSegment s).trans ?_
  rw [List.filterMap_some]
  exact p.steps_segments

theorem Same.steps_eq {p q : Path} (h : p.Same q) :
    steps (Text.fields separator p.spelled) = steps (Text.fields separator q.spelled) := by
  rw [← filterMap_components, ← filterMap_components]
  exact congrArg _ h

/-- The last segment moves the walk. -/
def EndsInStep (segments : List Text) : Prop := ∀ s ∈ segments.getLast?, isIdle s = false

end Path

namespace FileTree

variable {tree : FileTree} {links : Nat} {cur l : Location} {todo todo' : List Text}
  {bytes : ByteArray}

theorem walk_append_of_idle {idle : List Text} (h : ∀ s ∈ idle, Path.isIdle s = true) :
    tree.walk links cur (idle ++ todo) = tree.walk links cur todo := by
  induction idle with
  | nil => rfl
  | cons s idle ih =>
    obtain ⟨hs, hidle⟩ := List.forall_mem_cons.1 h
    rw [List.cons_append, walk_idle hs, ih hidle]

/-- Both lists are the same steps up to a last one, or they are the same list. -/
inductive Alike : List Text → List Text → Prop
  | refl (todo : List Text) : Alike todo todo
  | steps {todo todo' : List Text} (same : Path.steps todo = Path.steps todo')
      (ends : Path.EndsInStep todo) (ends' : Path.EndsInStep todo') : Alike todo todo'

namespace Alike

variable {s : Text} {ss : List Text}

theorem nil_iff (h : Alike todo todo') : todo = [] ↔ todo' = [] := by
  have hlast {segments : List Text} (hends : Path.EndsInStep segments)
      (hnone : Path.steps segments = []) : segments = [] := by
    by_contra hne
    have hmem := List.getLast_mem hne
    have hidle := hends _ (List.getLast?_eq_some_getLast hne)
    have := List.filter_eq_nil_iff.1 hnone _ hmem
    rw [hidle] at this
    exact this rfl
  cases h with
  | refl => rfl
  | steps same ends ends' =>
    constructor
    · rintro rfl
      exact hlast ends' same.symm
    · rintro rfl
      exact hlast ends same

theorem append (h : Alike todo todo') (front : List Text) :
    Alike (front ++ todo) (front ++ todo') := by
  have hnil := h.nil_iff
  cases h with
  | refl => exact .refl _
  | steps same ends ends' =>
    by_cases hne : todo = []
    · rw [hne, hnil.1 hne]
      exact .refl _
    · refine .steps ?_ ?_ ?_
      · rw [Path.steps, Path.steps, List.filter_append, List.filter_append]
        exact congrArg _ same
      · rwa [Path.EndsInStep, List.getLast?_append_of_ne_nil _ hne]
      · rwa [Path.EndsInStep, List.getLast?_append_of_ne_nil _ (mt hnil.2 hne)]

theorem tail_of_idle (h : Alike (s :: ss) todo') (hs : Path.isIdle s = true) :
    todo' = s :: ss ∨ Alike ss todo' := by
  cases h with
  | refl => exact .inl rfl
  | steps same ends ends' =>
    refine .inr (.steps ((Path.steps_cons_of_idle hs ss).symm.trans same) ?_ ends')
    intro s' hs'
    refine ends s' ?_
    rw [List.getLast?_cons, hs']
    rfl

theorem exists_of_step (h : Alike (s :: ss) todo') (hs : ¬ Path.isIdle s = true) :
    ∃ idle ss', todo' = idle ++ s :: ss' ∧ (∀ s' ∈ idle, Path.isIdle s' = true) ∧
      Alike ss ss' := by
  cases h with
  | refl => exact ⟨[], ss, rfl, nofun, .refl ss⟩
  | steps same ends ends' =>
    rw [Path.steps, List.filter_cons_of_pos (by simpa using hs)] at same
    obtain ⟨idle, ss', rfl, hidle, -, hsame⟩ := List.filter_eq_cons_iff.1 same.symm
    refine ⟨idle, ss', rfl, by simpa using hidle, .steps hsame.symm ?_ ?_⟩
    · intro s' hs'
      refine ends s' ?_
      rw [List.getLast?_cons, hs']
      rfl
    · intro s' hs'
      refine ends' s' ?_
      rw [List.getLast?_append_of_ne_nil _ (List.cons_ne_nil _ _), List.getLast?_cons, hs']
      rfl

end Alike

/-- A walk to a file depends on its steps only. -/
theorem walk_of_alike (halike : Alike todo todo')
    (h : tree.walk links cur todo = .ok (.present l (.file bytes))) :
    tree.walk links cur todo' = .ok (.present l (.file bytes)) := by
  fun_induction walk tree links cur todo generalizing todo' with
  | case1 => cases h
  | case2 links cur s ss hidle ih =>
    rcases halike.tail_of_idle hidle with rfl | halike
    · rw [walk_idle hidle]
      exact h
    · exact ih halike h
  | case3 links cur ss hidle ih =>
    obtain ⟨idle, ss', rfl, hall, halike⟩ := halike.exists_of_step hidle
    rw [walk_append_of_idle hall, walk_up]
    exact ih halike h
  | case4 => cases h
  | case5 => cases h
  | case6 => cases h
  | case7 links cur s ss hidle hup hshort hnode ih =>
    obtain ⟨idle, ss', rfl, hall, halike⟩ := halike.exists_of_step hidle
    rw [walk_append_of_idle hall, walk_directory ⟨hidle, hup, hshort⟩ hnode]
    exact ih halike h
  | case8 links cur s ss hidle hup hshort bytes' hnode hempty =>
    obtain ⟨idle, ss', rfl, hall, halike⟩ := halike.exists_of_step hidle
    rw [walk_append_of_idle hall, walk_file ⟨hidle, hup, hshort⟩ hnode,
      halike.nil_iff.1 (List.isEmpty_iff.1 hempty)]
    exact h
  | case9 => cases h
  | case10 => cases h
  | case11 cur s ss hidle hup hshort target hnode n ih =>
    obtain ⟨idle, ss', rfl, hall, halike⟩ := halike.exists_of_step hidle
    rw [walk_append_of_idle hall, walk_link ⟨hidle, hup, hshort⟩ hnode]
    exact ih (halike.append _) (by simpa only [dite_eq_ite] using h)

/-- The two paths lead to one file, or neither leads to a file. -/
def Agree (tree : FileTree) (p q : Path) : Prop :=
  ∀ l bytes, tree.find p = .ok (.present l (.file bytes)) ↔
    tree.find q = .ok (.present l (.file bytes))

theorem Agree.holds_iff {p q : Path} {content : Text} (h : tree.Agree p q) :
    tree.Holds p l content ↔ tree.Holds q l content :=
  exists_congr fun bytes => and_congr_left fun _ => h l bytes

end FileTree

/-- The path is not too long to be followed, and a name or `..` ends it. -/
structure Path.Plain (p : Path) : Prop where
  short : Text.byteSize p.spelled ≤ FileTree.pathLimit
  ends : Path.EndsInStep (Text.fields separator p.spelled)

namespace FileTree

variable {tree : FileTree} {p q : Path}

theorem not_nul_of_same (h : p.Same q) (hnul : '\x00' ∉ p.spelled) : '\x00' ∉ q.spelled := by
  have hsep : '\x00' ≠ Path.separator := by decide
  rw [Text.mem_iff_mem_fields hsep] at hnul ⊢
  rintro ⟨s, hs, hmem⟩
  have hmoves : Path.isIdle s = false := by
    by_contra hidle
    rw [Bool.not_eq_false, Path.isIdle, Bool.or_eq_true, beq_iff_eq, beq_iff_eq] at hidle
    rcases hidle with rfl | rfl <;> revert hmem <;> decide
  have hstep : s ∈ Path.steps (Text.fields Path.separator q.spelled) :=
    List.mem_filter.2 ⟨hs, by simp [hmoves]⟩
  rw [← h.steps_eq] at hstep
  exact hnul ⟨s, List.mem_of_mem_filter hstep, hmem⟩

theorem find_of_same (h : p.Same q) (hp : p.Plain) (hq : q.Plain) {l : Location}
    {bytes : ByteArray} (hfind : tree.find p = .ok (.present l (.file bytes))) :
    tree.find q = .ok (.present l (.file bytes)) := by
  unfold find at hfind
  split at hfind
  · cases hfind
  rename_i hnul
  split at hfind
  · cases hfind
  split at hfind
  · cases hfind
  have hnul' : ¬ q.spelled.contains '\x00' = true := by
    rw [List.contains_iff_mem] at hnul ⊢
    exact not_nul_of_same h hnul
  have hne : ¬ q.spelled.isEmpty = true := by
    intro hempty
    have hends := hq.ends
    rw [List.isEmpty_iff.1 hempty] at hends
    cases hends [] rfl
  rw [find, if_neg hnul', if_neg hne, if_neg (Nat.not_lt.2 hq.short)]
  exact walk_of_alike (.steps h.steps_eq hp.ends hq.ends) hfind

/-- Spellings of one path agree unless one is too long or goes on behind the last name. -/
theorem agree_of_same (h : p.Same q) (hp : p.Plain) (hq : q.Plain) : tree.Agree p q := fun _ _ =>
  ⟨find_of_same h hp hq, find_of_same h.symm hq hp⟩

end FileTree
end Localize

import Localize.Proofs.Resolution

/-! Parents and joins by their components. A parent lacks the last component, and a relative path that
is joined continues the components, so the parent of what lies in a directory is the directory. The
ancestors are the chain of parents, which ends. -/

namespace Localize
namespace Path

variable {p q : Path} {ss : List Text}

theorem separator_not_mem_segments {s : Text} (h : s ∈ p.segments) : separator ∉ s :=
  (Text.mem_fields_iff.1 h).1

theorem steps_fields_joinSegments (h : ∀ s ∈ ss, separator ∉ s) :
    steps (Text.fields separator (joinSegments ss)) = steps ss := by
  by_cases hne : ss = []
  · rw [hne]
    rfl
  · rw [joinSegments, Text.fields_joined hne h]

theorem joinSegments_append (hne : ss ≠ []) {ss' : List Text} (hne' : ss' ≠ []) :
    joinSegments (ss ++ ss') = joinSegments ss ++ separator :: joinSegments ss' := by
  induction ss with
  | nil => exact absurd rfl hne
  | cons s ss ih =>
    cases ss with
    | nil =>
      obtain ⟨s', ss', rfl⟩ := List.exists_cons_of_ne_nil hne'
      simp [joinSegments, Text.joined_cons_cons, Text.joined_singleton]
    | cons t ss =>
      have hrest := ih (List.cons_ne_nil t ss)
      simp only [joinSegments, List.cons_append, Text.joined_cons_cons] at hrest ⊢
      simp [hrest]

theorem startsHere_iff :
    p.startsHere = true ↔ p.spelled = ['.'] ∨ ∃ t, p.spelled = '.' :: separator :: t := by
  unfold startsHere
  constructor
  · intro h
    split at h
    · rename_i heq
      exact .inl heq
    · rename_i t heq
      exact .inr ⟨t, heq⟩
    · cases h
  · rintro (h | ⟨t, h⟩) <;> rw [h] <;> rfl

theorem anchorComponents_eq_nil_iff :
    p.anchorComponents = [] ↔ ¬ p.isAbsolute = true ∧ ¬ p.startsHere = true := by
  unfold anchorComponents
  cases p.isAbsolute <;> cases p.startsHere <;> simp

theorem startsHere_append (u t : Text) :
    (Path.mk (u ++ separator :: t)).startsHere = (Path.mk u).startsHere := by
  rw [Bool.eq_iff_iff, startsHere_iff, startsHere_iff]
  cases u with
  | nil => simp [separator]
  | cons c u => cases u <;> simp

theorem anchorComponents_of_append {u t : Text} (hp : p.anchorComponents = [])
    (h : p.spelled = u ++ separator :: t) : (Path.mk u).anchorComponents = [] := by
  obtain rfl : p = ⟨u ++ separator :: t⟩ := congrArg Path.mk h
  rw [anchorComponents_eq_nil_iff, startsHere_append] at hp
  refine anchorComponents_eq_nil_iff.2 ⟨fun habs => hp.1 ?_, hp.2⟩
  obtain ⟨u', rfl⟩ := List.head?_eq_some_iff.1 (of_decide_eq_true habs)
  rfl

theorem joinSegments_segments (hp : p.anchorComponents = []) :
    joinSegments p.segments = p.spelled := by
  obtain ⟨habs, hhere⟩ := anchorComponents_eq_nil_iff.1 hp
  rw [segments, anchor, if_neg (by simp [habs, hhere])]
  exact Text.joined_fields separator p.spelled

theorem anchorComponents_of_segments (hp : p.anchorComponents = []) (h : ss <+: p.segments) :
    (Path.mk (joinSegments ss)).anchorComponents = [] := by
  obtain ⟨rest, hrest⟩ := h
  by_cases hss : ss = []
  · rw [hss]
    rfl
  have hspelled := joinSegments_segments hp
  by_cases hend : rest = []
  · rw [hend, List.append_nil] at hrest
    rw [hrest, hspelled]
    exact hp
  · rw [← hrest, joinSegments_append hss hend] at hspelled
    exact anchorComponents_of_append hp hspelled.symm

theorem components_eq (p : Path) :
    p.components =
      p.anchorComponents ++ (steps (Text.fields separator p.spelled)).map Component.ofSegment := by
  rw [← steps_segments]
  rfl

theorem components_separator (h : ∀ s ∈ ss, separator ∉ s) :
    (Path.mk (separator :: joinSegments ss)).components =
      .root :: (steps ss).map Component.ofSegment := by
  have hfields (t : Text) : Text.fields separator (separator :: t) =
      [] :: Text.fields separator t := if_pos rfl
  rw [components_eq, hfields, steps_cons_of_idle rfl, steps_fields_joinSegments h]
  rfl

theorem components_here (h : ∀ s ∈ ss, separator ∉ s) :
    (Path.mk ('.' :: separator :: joinSegments ss)).components =
      .here :: (steps ss).map Component.ofSegment := by
  have hfields (t : Text) : Text.fields separator ('.' :: separator :: t) =
      ['.'] :: Text.fields separator t := rfl
  rw [components_eq, hfields, steps_cons_of_idle rfl, steps_fields_joinSegments h]
  rfl

theorem exists_segments_of_startsHere (h : p.startsHere = true) : ∃ ss, p.segments = [] :: ss := by
  rcases startsHere_iff.1 h with ht | ⟨t, ht⟩
  · exact ⟨[], by simp [segments, anchor, h, ht, Text.fields]⟩
  · exact ⟨Text.fields separator t, by simp [segments, anchor, h, ht, Text.fields]⟩

theorem components_of_segments (h : ss <+: p.segments) :
    (Path.mk (p.anchor ++ joinSegments ss)).components =
      p.anchorComponents ++ (steps ss).map Component.ofSegment := by
  have hsegments : ∀ s ∈ ss, separator ∉ s := fun s hs => separator_not_mem_segments (h.subset hs)
  by_cases habs : p.isAbsolute = true
  · have hanchor : p.anchor = [separator] := by
      obtain ⟨t, ht⟩ := List.head?_eq_some_iff.1 (of_decide_eq_true habs)
      rw [anchor, habs, Bool.true_or, if_pos rfl, ht]
      rfl
    rw [hanchor, anchorComponents, if_pos habs]
    exact components_separator hsegments
  by_cases hhere : p.startsHere = true
  · have hanchor : p.anchor = ['.'] := by
      rcases startsHere_iff.1 hhere with ht | ⟨t, ht⟩ <;> simp [anchor, hhere, ht]
    obtain ⟨rest, hrest⟩ := exists_segments_of_startsHere hhere
    rw [hanchor, anchorComponents, if_neg habs, if_pos hhere]
    cases ss with
    | nil => rfl
    | cons s ss =>
      obtain ⟨rfl, -⟩ := List.cons_prefix_cons.1 (hrest ▸ h)
      rw [steps_cons_of_idle rfl]
      by_cases hnil : ss = []
      · subst hnil
        rfl
      · have hjoin : joinSegments ([] :: ss) = separator :: joinSegments ss :=
          joinSegments_append (List.cons_ne_nil [] []) hnil
        rw [hjoin]
        exact components_here (List.forall_mem_cons.1 hsegments).2
  · have hnone : p.anchorComponents = [] := anchorComponents_eq_nil_iff.2 ⟨habs, hhere⟩
    have hanchor : p.anchor = [] := by simp [anchor, habs, hhere]
    rw [components_eq, hanchor, List.nil_append, steps_fields_joinSegments hsegments,
      anchorComponents_of_segments hnone h, hnone]

theorem steps_dropIdleEnd (ss : List Text) : steps (dropIdleEnd ss) = steps ss := by
  have hdrop (ss : List Text) : steps (ss.dropWhile isIdle) = steps ss := by
    induction ss with
    | nil => rfl
    | cons s ss ih =>
      by_cases hs : isIdle s = true
      · rw [List.dropWhile_cons_of_pos hs, ih, steps_cons_of_idle hs]
      · rw [List.dropWhile_cons_of_neg hs]
  rw [dropIdleEnd, steps, List.filter_reverse, ← steps, hdrop, steps, List.filter_reverse,
    List.reverse_reverse, steps]

theorem dropIdleEnd_isPrefix (ss : List Text) : dropIdleEnd ss <+: ss := by
  obtain ⟨idle, hidle⟩ := exists_dropIdleEnd_append ss
  exact ⟨idle, hidle.symm⟩

theorem steps_dropIdleEnd_dropLast (h : dropIdleEnd ss ≠ []) :
    ∃ s, steps ss = steps (dropIdleEnd ss).dropLast ++ [s] := by
  have hstep : ¬ isIdle ((dropIdleEnd ss).getLast h) = true := by
    have hreverse : ss.reverse.dropWhile isIdle ≠ [] := by simpa [dropIdleEnd] using h
    have hhead := List.head_dropWhile_not isIdle hreverse
    simpa [dropIdleEnd, List.getLast_reverse] using hhead
  refine ⟨(dropIdleEnd ss).getLast h, ?_⟩
  have hsplit := congrArg steps (List.dropLast_concat_getLast h)
  rwa [steps_append, steps_cons_of_step hstep, steps_dropIdleEnd, eq_comm] at hsplit

theorem parent?_eq_none_iff : p.parent? = none ↔ p.moves = [] ∧ p.startsHere = false := by
  rw [moves_eq, List.map_eq_nil_iff]
  change _ ↔ steps p.segments = [] ∧ _
  unfold parent?
  split
  · rename_i hnone
    rw [← steps_dropIdleEnd, hnone]
    cases p.startsHere <;> simp [steps]
  · rename_i s ss hsome
    obtain ⟨last, hlast⟩ := steps_dropIdleEnd_dropLast (hsome ▸ List.cons_ne_nil s ss)
    simp [hlast]

/-- A parent lacks the last component and nothing else. -/
theorem components_of_parent? (h : p.parent? = some q) : q.components = p.components.dropLast := by
  have hcomponents : p.components = p.anchorComponents ++ (steps p.segments).map .ofSegment := rfl
  unfold parent? at h
  split at h
  · rename_i hnone
    have hsteps : steps p.segments = [] := by
      rw [← steps_dropIdleEnd, hnone]
      rfl
    split at h
    · rename_i hhere
      cases h
      have habs : ¬ p.isAbsolute = true := by
        rcases startsHere_iff.1 hhere with ht | ⟨t, ht⟩ <;> simp [isAbsolute, ht, separator]
      rw [hcomponents, hsteps, anchorComponents, if_neg habs, if_pos hhere]
      rfl
    · cases h
  · rename_i s ss hsome
    cases h
    obtain ⟨last, hlast⟩ := steps_dropIdleEnd_dropLast (hsome ▸ List.cons_ne_nil s ss)
    rw [hsome] at hlast
    have hsegments : s :: ss <+: p.segments := hsome ▸ dropIdleEnd_isPrefix p.segments
    have hfront : dropIdleEnd (s :: ss).dropLast <+: p.segments :=
      ((dropIdleEnd_isPrefix _).trans ( List.dropLast_prefix _)).trans hsegments
    rw [components_of_segments hfront, steps_dropIdleEnd, hcomponents, hlast, List.map_append,
      ← List.append_assoc, List.map_singleton, List.dropLast_concat]

theorem startsHere_join (hq : q.anchorComponents = []) : (p.join q).startsHere = p.startsHere := by
  obtain ⟨habs, hhere⟩ := anchorComponents_eq_nil_iff.1 hq
  unfold join
  by_cases hnil : p.spelled = []
  · rw [if_pos (by simp [hnil]), Bool.eq_false_iff.2 hhere, startsHere, hnil]
  · rw [if_neg (by simp [habs, hnil])]
    split
    · rename_i hslash
      obtain ⟨front, hfront⟩ := List.getLast?_eq_some_iff.1 hslash
      obtain rfl : p = ⟨front ++ [separator]⟩ := congrArg Path.mk hfront
      rw [List.append_assoc, List.singleton_append, startsHere_append, startsHere_append]
    · exact startsHere_append p.spelled q.spelled

theorem components_join (hq : q.anchorComponents = []) :
    (p.join q).components = p.components ++ q.components := by
  have habs : q.isAbsolute = false := Bool.eq_false_iff.2 (anchorComponents_eq_nil_iff.1 hq).1
  have hcomponents (p : Path) : p.components = p.anchorComponents ++ p.moves := components_eq p
  rw [hcomponents, hcomponents p, hcomponents q, moves_join habs, anchorComponents,
    isAbsolute_join habs, startsHere_join hq, hq, List.append_assoc]
  rfl

/-- The parent of what lies in a directory under a name is the directory. -/
theorem exists_parent?_join {name : Text} (hsep : separator ∉ name) (hstep : isIdle name = false) :
    ∃ parent, (p.join ⟨name⟩).parent? = some parent ∧ parent.Same p := by
  have hanchor : (Path.mk name).anchorComponents = [] := by
    rw [anchorComponents_eq_nil_iff, startsHere_iff]
    refine ⟨fun habs => ?_, ?_⟩
    · obtain ⟨t, rfl⟩ := List.head?_eq_some_iff.1 (of_decide_eq_true habs)
      exact hsep List.mem_cons_self
    · rintro (rfl | ⟨t, rfl⟩)
      · cases hstep
      · exact hsep (List.mem_cons_of_mem _ List.mem_cons_self)
  have hmoves : (Path.mk name).moves = [Component.ofSegment name] := by
    rw [moves, Text.fields_of_not_mem hsep, steps_cons_of_step (Bool.eq_false_iff.1 hstep)]
    rfl
  have hcomponents : (p.join ⟨name⟩).components = p.components ++ [Component.ofSegment name] := by
    rw [components_join hanchor, components_eq ⟨name⟩, hanchor, ← hmoves]
    rfl
  cases hparent : (p.join ⟨name⟩).parent? with
  | none =>
    have hnone := (parent?_eq_none_iff.1 hparent).1
    have habs := Bool.eq_false_iff.2 (anchorComponents_eq_nil_iff.1 hanchor).1
    rw [moves_join habs, hmoves] at hnone
    exact absurd hnone (List.append_ne_nil_of_right_ne_nil _ (List.cons_ne_nil _ _))
  | some parent =>
    refine ⟨parent, rfl, ?_⟩
    rw [Same, components_of_parent? hparent, hcomponents, List.dropLast_concat]

theorem getElem?_ancestors_zero (p : Path) : p.ancestors[0]? = some p := by
  rw [ancestors]
  split <;> rfl

theorem getElem?_ancestors_succ (p : Path) (k : Nat) :
    p.ancestors[k + 1]? = p.ancestors[k]?.bind parent? := by
  induction k generalizing p with
  | zero =>
    rw [getElem?_ancestors_zero, ancestors, Option.bind_some]
    split
    · rename_i hparent
      exact hparent.symm
    · rename_i q hparent
      rw [hparent]
      exact getElem?_ancestors_zero q
  | succ k ih =>
    rw [ancestors]
    split
    · rfl
    · exact ih _

theorem length_ancestors_le (p : Path) : p.ancestors.length ≤ p.spelled.length + 1 := by
  fun_induction ancestors p with
  | case1 p => exact Nat.succ_le_succ (Nat.zero_le _)
  | case2 p q hparent ih =>
    have := length_parent?_lt hparent
    rw [List.length_cons]
    omega

end Path
end Localize

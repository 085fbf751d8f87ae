import Localize.Proofs.Spelling

/-! Where a path leads by its spelling alone. Each `..` takes away the name before it, so that what
never climbs above its start stays below it. In a tree without links this is where the path
leads. -/

namespace Localize
namespace Path

/-- A component behind those that are resolved. Nothing is above the root, and what is above a `..`
is not known. -/
def resolveStep (done : List Component) : Component → List Component
  | .root => [.root]
  | .here => done
  | .name t => done ++ [.name t]
  | .up =>
    match done.getLast? with
    | some (.name _) => done.dropLast
    | some .root => done
    | _ => done ++ [.up]

def resolve (done cs : List Component) : List Component := cs.foldl resolveStep done

/-- The components with every `.` and every `..` resolved. -/
def resolved (p : Path) : List Component := resolve [] p.components

/-- The path is the other one or lies below it. -/
def Under (p base : Path) : Prop := base.resolved <+: p.resolved

instance (p base : Path) : Decidable (p.Under base) := inferInstanceAs (Decidable (_ <+: _))

/-- The components that move a walk. -/
def moves (p : Path) : List Component :=
  (steps (Text.fields separator p.spelled)).map Component.ofSegment

/-- From so far below its start, the way never climbs above it. -/
def stays : Nat → List Component → Bool
  | _, [] => true
  | depth, .name _ :: cs => stays (depth + 1) cs
  | depth, .here :: cs => stays depth cs
  | depth + 1, .up :: cs => stays depth cs
  | _, _ => false

section Resolve

variable {done cs : List Component}

theorem resolve_append (done cs cs' : List Component) :
    resolve done (cs ++ cs') = resolve (resolve done cs) cs' :=
  List.foldl_append

theorem resolve_cons (done : List Component) (c : Component) (cs : List Component) :
    resolve done (c :: cs) = resolve (resolveStep done c) cs := rfl

theorem resolveStep_name (done : List Component) (names : List Text) (t : Text) :
    resolveStep (done ++ names.map .name) (.name t) = done ++ (names ++ [t]).map .name := by
  simp [resolveStep]

theorem resolveStep_up_concat (done : List Component) (names : List Text) (t : Text) :
    resolveStep (done ++ (names ++ [t]).map .name) .up = done ++ names.map .name := by
  rw [List.map_append, ← List.append_assoc]
  simp [resolveStep]

theorem prefix_resolve_names {names : List Text} (h : stays names.length cs = true) :
    done <+: resolve (done ++ names.map .name) cs := by
  induction cs generalizing names with
  | nil => exact List.prefix_append _ _
  | cons c cs ih =>
    rw [resolve_cons]
    cases c with
    | root => cases names <;> cases h
    | here => exact ih (by cases names <;> exact h)
    | name t =>
      rw [resolveStep_name]
      exact ih (by cases names <;> simpa [stays] using h)
    | up =>
      rcases List.eq_nil_or_concat names with rfl | ⟨names, t, rfl⟩
      · cases h
      · rw [List.concat_eq_append, List.length_append] at h
        rw [List.concat_eq_append, resolveStep_up_concat]
        exact ih h

theorem prefix_resolve_of_stays (done : List Component) (h : stays 0 cs = true) :
    done <+: resolve done cs := by
  have hnames : stays ([] : List Text).length cs = true := h
  have hprefix : done <+: resolve (done ++ [].map .name) cs := prefix_resolve_names hnames
  rwa [List.map_nil, List.append_nil] at hprefix

end Resolve

variable {p q : Path}

theorem moves_eq (p : Path) :
    p.moves = (p.segments.filter fun s => !isIdle s).map Component.ofSegment := by
  rw [moves, ← steps_segments, steps]

theorem resolved_eq (p : Path) :
    p.resolved = resolve (if p.isAbsolute then [.root] else []) p.moves := by
  rw [resolved, components, moves_eq, resolve_append, anchorComponents]
  split
  · rfl
  · split <;> rfl

theorem steps_append (segments segments' : List Text) :
    steps (segments ++ segments') = steps segments ++ steps segments' :=
  List.filter_append _ _

theorem steps_cons_of_step {s : Text} (h : ¬ isIdle s = true) (ss : List Text) :
    steps (s :: ss) = s :: steps ss :=
  List.filter_cons_of_pos (by simpa using h)

theorem moves_append_cons (t t' : Text) :
    (Path.mk (t ++ separator :: t')).moves = (Path.mk t).moves ++ (Path.mk t').moves := by
  rw [moves, Text.fields_append, steps_append, List.map_append]
  rfl

theorem moves_append_separators {slashes : Text} (h : ∀ c ∈ slashes, c = separator) (t : Text) :
    (Path.mk (t ++ slashes)).moves = (Path.mk t).moves := by
  induction slashes generalizing t with
  | nil => rw [List.append_nil]
  | cons c slashes ih =>
    obtain ⟨rfl, hslashes⟩ := List.forall_mem_cons.1 h
    rw [moves_append_cons, ← List.nil_append slashes, ih hslashes []]
    exact List.append_nil _

theorem moves_join (hq : q.isAbsolute = false) : (p.join q).moves = p.moves ++ q.moves := by
  unfold join
  by_cases hnil : p.spelled = []
  · rw [if_pos (by simp [hnil])]
    have hmoves : p.moves = [] := by rw [moves, hnil]; rfl
    rw [hmoves, List.nil_append]
  rw [if_neg (by simp [hq, hnil])]
  split
  · rename_i hslash
    obtain ⟨front, hfront⟩ := List.getLast?_eq_some_iff.1 hslash
    have hp : p.moves = (Path.mk front).moves := by
      have hslashes : ∀ c ∈ [separator], c = separator := fun c => List.mem_singleton.1
      rw [← moves_append_separators hslashes front, ← hfront]
    rw [hp, hfront, List.append_assoc, List.singleton_append, moves_append_cons]
  · exact moves_append_cons _ _

theorem isAbsolute_join (hq : q.isAbsolute = false) : (p.join q).isAbsolute = p.isAbsolute := by
  unfold join
  by_cases hnil : p.spelled = []
  · rw [if_pos (by simp [hnil]), hq, isAbsolute, hnil]
    rfl
  rw [if_neg (by simp [hq, hnil])]
  obtain ⟨c, t, ht⟩ := List.exists_cons_of_ne_nil hnil
  split <;> simp [isAbsolute, ht]

theorem resolved_join (hq : q.isAbsolute = false) :
    (p.join q).resolved = resolve p.resolved q.moves := by
  rw [resolved_eq, isAbsolute_join hq, moves_join hq, resolve_append, ← resolved_eq]

def Component.name? : Component → Option Text
  | .name t => some t
  | _ => none

/-- The names that are left when the path is resolved. -/
def location (p : Path) : Location := p.resolved.filterMap Component.name?

theorem Under.location_prefix (h : p.Under q) : q.location <+: p.location :=
  h.filterMap _

end Path

namespace FileTree

variable {tree : FileTree} {links : Nat} {cur l : Location} {todo : List Text} {bytes : ByteArray}

open Localize.Path (Component resolve resolveStep steps)

theorem exists_resolveStep_up {front : List Component}
    (hfront : front.filterMap Component.name? = []) (cur : Location) :
    ∃ front', front'.filterMap Component.name? = [] ∧
      resolveStep (front ++ cur.map .name) .up = front' ++ cur.dropLast.map .name := by
  rcases List.eq_nil_or_concat cur with rfl | ⟨names, t, rfl⟩
  · simp only [List.map_nil, List.append_nil, List.dropLast_nil, resolveStep]
    split
    · rename_i t hlast
      have hname := List.filterMap_eq_nil_iff.1 hfront _ (List.mem_of_getLast? hlast)
      cases hname
    · exact ⟨front, hfront, rfl⟩
    · exact ⟨front ++ [.up], by rw [List.filterMap_append, hfront]; rfl, rfl⟩
  · refine ⟨front, hfront, ?_⟩
    rw [List.concat_eq_append, Path.resolveStep_up_concat, List.dropLast_concat]

/-- Without links a walk resolves its steps: the directory that it is in has the names behind a
front without names. -/
theorem location_of_walk (hlinks : ∀ l target, tree.node? l ≠ some (.link target))
    {front : List Component} (hfront : front.filterMap Component.name? = [])
    (h : tree.walk links cur todo = .ok (.present l (.file bytes))) :
    l = (resolve (front ++ cur.map .name) ((steps todo).map Component.ofSegment)).filterMap
      Component.name? := by
  fun_induction FileTree.walk tree links cur todo generalizing front with
  | case1 => cases h
  | case2 links cur s ss hidle ih =>
    rw [Path.steps_cons_of_idle hidle]
    exact ih hfront h
  | case3 links cur ss hidle ih =>
    obtain ⟨front', hfront', hstep⟩ := exists_resolveStep_up hfront cur
    rw [Path.steps_cons_of_step hidle, List.map_cons, Component.ofSegment, if_pos rfl,
      Path.resolve_cons, hstep]
    exact ih hfront' h
  | case4 => cases h
  | case5 => cases h
  | case6 => cases h
  | case7 links cur s ss hidle hup hshort hnode ih =>
    rw [Path.steps_cons_of_step hidle, List.map_cons, Component.ofSegment, if_neg hup,
      Path.resolve_cons, Path.resolveStep_name]
    exact ih hfront h
  | case8 links cur s ss hidle hup hshort bytes' hnode hempty =>
    cases h
    rw [List.isEmpty_iff.1 hempty, Path.steps_cons_of_step hidle, List.map_cons,
      Component.ofSegment, if_neg hup, Path.resolve_cons, Path.resolveStep_name]
    change _ = (front ++ _).filterMap Component.name?
    rw [List.filterMap_append, hfront, List.nil_append, List.filterMap_map]
    exact List.filterMap_some.symm
  | case9 => cases h
  | case10 cur s ss hidle hup hshort target hnode => exact absurd hnode (hlinks _ _)
  | case11 cur s ss hidle hup hshort target hnode n ih => exact absurd hnode (hlinks _ _)

/-- Without links a file is where its path leads by its spelling. -/
theorem location_of_find {p : Path} (hlinks : ∀ l target, tree.node? l ≠ some (.link target))
    (h : tree.find p = .ok (.present l (.file bytes))) : l = p.location := by
  have hfront : (if p.isAbsolute then [Component.root] else []).filterMap Component.name? = [] := by
    split <;> rfl
  rw [Path.location, Path.resolved_eq, location_of_walk hlinks hfront (walk_of_find h),
    List.map_nil, List.append_nil]
  rfl

end FileTree
end Localize

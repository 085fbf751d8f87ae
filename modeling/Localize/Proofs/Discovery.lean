import Localize.Proofs.Config
import Localize.Proofs.Loading
import Localize.Proofs.Parent

/-! Which configuration governs a directory: that of the nearest directory upwards that holds one,
unless the root of a repository comes before it. Its directory is the project root, and where there
is none the defaults govern the directory itself. -/

namespace Localize.Config

/-- The directory is the nearest one of the list with a configuration file, and none before it is the
root of a repository. -/
structure Governs (tree : FileTree) (ds : List Path) (k : Nat) (d : Path) : Prop where
  place : ds[k]? = some d
  holds : tree.pathExists (d.join ⟨fileName⟩) = true
  nearest : ∀ j < k, ∀ e, ds[j]? = some e → tree.pathExists (e.join ⟨fileName⟩) = false
  inside : ∀ j < k, ∀ e, ds[j]? = some e → tree.pathExists (e.join ⟨repositoryMark⟩) = false

/-- What looking for a configuration and loading it come to. -/
inductive Discovered (tree : FileTree) (start : Path) :
    Option Path → Except LoadFailure Loaded → Prop
  | loaded {k : Nat} {d root : Path} {text : Text} {c : Config}
      (governs : Governs tree start.ancestors k d)
      (read : tree.readText (d.join ⟨fileName⟩) = .ok text) (parsed : parse text = .ok c)
      (valid : c.IsValid) (same : root.Same d) :
      Discovered tree start (some (d.join ⟨fileName⟩)) (.ok ⟨c, root, true⟩)
  | unreadable {k : Nat} {d : Path} {e : FileError} (governs : Governs tree start.ancestors k d)
      (unread : tree.readText (d.join ⟨fileName⟩) = .error e) :
      Discovered tree start (some (d.join ⟨fileName⟩))
        (.error (.unreadable (d.join ⟨fileName⟩) e))
  | malformed {k : Nat} {d : Path} {text : Text} {e : Json.Error}
      (governs : Governs tree start.ancestors k d)
      (read : tree.readText (d.join ⟨fileName⟩) = .ok text) (unparsed : parse text = .error e) :
      Discovered tree start (some (d.join ⟨fileName⟩)) (.error (.malformed (d.join ⟨fileName⟩) e))
  | flawed {k : Nat} {d : Path} {text : Text} {c : Config} {flaw : Flaw}
      (governs : Governs tree start.ancestors k d)
      (read : tree.readText (d.join ⟨fileName⟩) = .ok text) (parsed : parse text = .ok c)
      (flawed : c.flaw? = some flaw) :
      Discovered tree start (some (d.join ⟨fileName⟩)) (.error (.flawed flaw))
  | ungoverned (free : ∀ k d, ¬ Governs tree start.ancestors k d) (valid : ({} : Config).IsValid) :
      Discovered tree start none (.ok ⟨{}, start, false⟩)

variable {tree : FileTree} {ds : List Path} {d : Path} {k : Nat}

namespace Governs

theorem zero (h : tree.pathExists (d.join ⟨fileName⟩) = true) : Governs tree (d :: ds) 0 d :=
  ⟨rfl, h, nofun, nofun⟩

theorem succ {e : Path} (hfile : tree.pathExists (d.join ⟨fileName⟩) = false)
    (hmark : tree.pathExists (d.join ⟨repositoryMark⟩) = false) (h : Governs tree ds k e) :
    Governs tree (d :: ds) (k + 1) e := by
  refine ⟨h.place, h.holds, fun j hj e' he' => ?_, fun j hj e' he' => ?_⟩
  · cases j with
    | zero => exact Option.some.inj he' ▸ hfile
    | succ j => exact h.nearest j (Nat.lt_of_succ_lt_succ hj) e' he'
  · cases j with
    | zero => exact Option.some.inj he' ▸ hmark
    | succ j => exact h.inside j (Nat.lt_of_succ_lt_succ hj) e' he'

theorem tail {e : Path} (h : Governs tree (d :: ds) (k + 1) e) : Governs tree ds k e :=
  ⟨h.place, h.holds, fun j hj => h.nearest (j + 1) (Nat.succ_lt_succ hj),
    fun j hj => h.inside (j + 1) (Nat.succ_lt_succ hj)⟩

end Governs

/-- The search stops at the nearest file, or there is none. -/
theorem search_cases (tree : FileTree) (ds : List Path) :
    (∃ k d, Governs tree ds k d ∧ search tree ds = some (d.join ⟨fileName⟩)) ∨
      (search tree ds = none ∧ ∀ k d, ¬ Governs tree ds k d) := by
  induction ds with
  | nil => exact .inr ⟨rfl, fun k d h => by cases h.place⟩
  | cons d ds ih =>
    rw [search]
    by_cases hfile : tree.pathExists (d.join ⟨fileName⟩) = true
    · rw [if_pos hfile]
      exact .inl ⟨0, d, .zero hfile, rfl⟩
    rw [if_neg hfile]
    rw [Bool.not_eq_true] at hfile
    -- Nothing but a directory further up can govern here.
    have hlater {k : Nat} {e : Path} (h : Governs tree (d :: ds) k e) : ∃ j, k = j + 1 := by
      refine Nat.exists_eq_succ_of_ne_zero ?_
      rintro rfl
      obtain rfl := Option.some.inj h.place
      exact Bool.false_ne_true (hfile.symm.trans h.holds)
    by_cases hmark : tree.pathExists (d.join ⟨repositoryMark⟩) = true
    · rw [if_pos hmark]
      refine .inr ⟨rfl, fun k e h => ?_⟩
      obtain ⟨j, rfl⟩ := hlater h
      exact Bool.false_ne_true ((h.inside 0 (Nat.succ_pos j) d rfl).symm.trans hmark)
    · rw [if_neg hmark]
      rw [Bool.not_eq_true] at hmark
      rcases ih with ⟨k, e, hgoverns, hsearch⟩ | ⟨hsearch, hnone⟩
      · exact .inl ⟨k + 1, e, hgoverns.succ hfile hmark, hsearch⟩
      · refine .inr ⟨hsearch, fun k e h => ?_⟩
        obtain ⟨j, rfl⟩ := hlater h
        exact hnone j e h.tail

theorem exists_parent?_file (d : Path) :
    ∃ root, (d.join ⟨fileName⟩).parent? = some root ∧ root.Same d :=
  Path.exists_parent?_join (by decide) (by decide)

theorem loadFile_of_readText {start file : Path} {text : Text}
    (h : tree.readText file = .ok text) :
    loadFile tree start file =
      ((parse text).mapError (.malformed file)).bind fun c =>
        match c.flaw? with
        | some flaw => .error (.flawed flaw)
        | none => .ok ⟨c, file.parent?.getD start, true⟩ := by
  rw [loadFile, h]
  rfl

theorem discovered_of_governs {start : Path} (h : Governs tree start.ancestors k d) :
    Discovered tree start (some (d.join ⟨fileName⟩)) (loadFile tree start (d.join ⟨fileName⟩)) := by
  obtain ⟨root, hparent, hsame⟩ := exists_parent?_file d
  cases hread : tree.readText (d.join ⟨fileName⟩) with
  | error e =>
    rw [loadFile, hread]
    exact .unreadable h hread
  | ok text =>
    rw [loadFile_of_readText hread, hparent, Option.getD_some]
    cases hparse : parse text with
    | error e => exact .malformed h hread hparse
    | ok c =>
      simp only [Except.mapError, Except.bind]
      cases hflaw : c.flaw? with
      | some flaw => exact .flawed h hread hparse hflaw
      | none => exact .loaded h hread hparse hflaw hsame

/-- The nearest configuration upwards governs a directory, if no root of a repository comes before
it. The directories that are asked are the directory itself and its parents, as long as there is a
parent. -/
theorem nearest_governs (tree : FileTree) (start : Path) :
    Discovered tree start (find? tree start) (load tree start) ∧
      start.ancestors[0]? = some start ∧
      (∀ k, start.ancestors[k + 1]? = start.ancestors[k]?.bind Path.parent?) ∧
      start.ancestors.length ≤ start.spelled.length + 1 := by
  refine ⟨?_, start.getElem?_ancestors_zero, start.getElem?_ancestors_succ,
    start.length_ancestors_le⟩
  rw [load, find?]
  rcases search_cases tree start.ancestors with ⟨k, d, hgoverns, hsearch⟩ | ⟨hsearch, hnone⟩
  · rw [hsearch]
    exact discovered_of_governs hgoverns
  · rw [hsearch]
    exact .ungoverned hnone (by decide)

end Localize.Config

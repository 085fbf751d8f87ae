import Localize.Proofs.Failure
import Localize.Run

/-! Why loading a configuration or the messages fails: a file cannot be read, it cannot be parsed,
or what it holds cannot be used. Then a localizer is built unless an expression is too large. -/

namespace Localize

namespace Config

/-- The configuration that governs a directory cannot be read, parsed or used. -/
inductive Unusable (tree : FileTree) (start : Path) : Prop
  | unreadable {file : Path} (found : find? tree start = some file)
      (unread : Fails (tree.readText file))
  | malformed {file : Path} {text : Text} (found : find? tree start = some file)
      (read : tree.readText file = .ok text) (unparsed : Fails (parse text))
  | flawed {file : Path} {text : Text} {c : Config} (found : find? tree start = some file)
      (read : tree.readText file = .ok text) (parsed : parse text = .ok c) (flawed : ¬ c.IsValid)

theorem fails_check_iff {ε α : Type} {c : Config} {f : Flaw → ε} {a : α} :
    Fails (match c.flaw? with | some flaw => throw (f flaw) | none => pure a : Except ε α) ↔
      ¬ c.IsValid := by
  rw [IsValid]
  cases c.flaw? with
  | none => simp [pure, Except.pure]
  | some flaw => simp [throw, throwThe, MonadExceptOf.throw]

theorem fails_load_iff {tree : FileTree} {start : Path} :
    Fails (load tree start) ↔ Unusable tree start := by
  unfold load
  cases found : find? tree start with
  | none =>
    refine ⟨nofun, fun h => ?_⟩
    obtain ⟨found', -⟩ | ⟨found', -, -⟩ | ⟨found', -, -, -⟩ := h <;>
      rw [found] at found' <;> cases found'
  | some file =>
    simp only [loadFile, fails_bind_iff, fails_mapError_iff, mapError_eq_ok_iff]
    constructor
    · rintro (unread | ⟨text, read, unparsed | ⟨c, parsed, flawed⟩⟩)
      · exact .unreadable found unread
      · exact .malformed found read unparsed
      · exact .flawed found read parsed (fails_check_iff.1 flawed)
    · rintro (⟨found', unread⟩ | ⟨found', read, unparsed⟩ | ⟨found', read, parsed, flawed⟩) <;>
        cases found.symm.trans found'
      · exact .inl unread
      · exact .inr ⟨_, read, .inl unparsed⟩
      · exact .inr ⟨_, read, .inr ⟨_, parsed, fails_check_iff.2 flawed⟩⟩

end Config

section Compile

variable {engine : Engine} {c : Config}

theorem Engine.map_forM_eq_ok_iff {α : Type} {es : List Text} {a b : α} :
    (es.forM engine).map (fun _ => a) = .ok b ↔ engine.Accepts es ∧ a = b := by
  rw [map_eq_ok_iff, exists_and_right, ← forM_eq_ok_iff]
  exact and_congr_left fun _ => ⟨fun ⟨(), h⟩ => h, fun h => ⟨(), h⟩⟩

theorem Report.Format.compile_eq_ok_iff {f : Format} :
    compile engine c = .ok f ↔ engine.Accepts (ofConfig c).expressions ∧ ofConfig c = f :=
  Engine.map_forM_eq_ok_iff

theorem Hook.compile_eq_ok_iff {h : Hook} :
    compile engine c = .ok h ↔ engine.Accepts (ofConfig c).expressions ∧ ofConfig c = h :=
  Engine.map_forM_eq_ok_iff

end Compile

namespace Localizer

/-- The messages of the primary locale cannot be read or parsed. -/
inductive MessagesUnusable (c : Config) (projectRoot : Path) (tree : FileTree) : Prop
  | unreadable (unread : Fails (tree.readText (c.messagesFile projectRoot)))
  | malformed {text : Text} (read : tree.readText (c.messagesFile projectRoot) = .ok text)
      (unparsed : Fails (Json.parse text))

theorem fails_loadDictionary_iff {c : Config} {projectRoot : Path} {tree : FileTree} :
    Fails (loadDictionary tree (c.messagesFile projectRoot)) ↔
      MessagesUnusable c projectRoot tree := by
  rw [loadDictionary, fails_bind_iff, fails_mapError_iff]
  simp only [fails_bind_iff, fails_mapError_iff, mapError_eq_ok_iff, pure, Except.pure,
    not_fails_ok, and_false, exists_false, or_false]
  constructor
  · rintro (unread | ⟨text, read, unparsed⟩)
    · exact .unreadable unread
    · exact .malformed read unparsed
  · rintro (unread | ⟨read, unparsed⟩)
    · exact .inl unread
    · exact .inr ⟨_, read, unparsed⟩

/-- A localizer is built exactly if the engine compiles all its expressions, and it is always the
same one. -/
theorem compile_eq_ok_iff {engine : Engine} {c : Config} {projectRoot : Path} {d : Dictionary}
    {p : Localizer} : compile engine c projectRoot d = .ok p ↔
      engine.Accepts (expressions c) ∧ ofConfig c projectRoot d = p := by
  rw [compile, bind_eq_ok_iff, expressions, Engine.Accepts, List.forall_mem_append]
  constructor
  · rintro ⟨format, hformat, hrest⟩
    obtain ⟨hook, hhook, hp⟩ := bind_eq_ok_iff.1 hrest
    obtain ⟨hlines, rfl⟩ := Report.Format.compile_eq_ok_iff.1 hformat
    obtain ⟨hstatements, rfl⟩ := Hook.compile_eq_ok_iff.1 hhook
    cases hp
    exact ⟨⟨hlines, hstatements⟩, rfl⟩
  · rintro ⟨⟨hlines, hstatements⟩, rfl⟩
    refine ⟨_, Report.Format.compile_eq_ok_iff.2 ⟨hlines, rfl⟩, bind_eq_ok_iff.2 ?_⟩
    exact ⟨_, Hook.compile_eq_ok_iff.2 ⟨hstatements, rfl⟩, rfl⟩

end Localizer

end Localize

import Localize.Text

/-! Regular expressions as they are written. What they match is said by functions on text; here they
are what an engine compiles, or refuses where the compiled form would be too large. -/

namespace Localize

/-- Compiles an expression, or says why not. -/
abbrev Engine := Text → Except Text Unit

namespace Expression

def metaCharacters : Text := "\\.+*?()|[]\x7b\x7d^$#&-~".toList

/-- The expression that matches only this text. -/
def escape (t : Text) : Text :=
  t.flatMap fun c => if metaCharacters.contains c then ['\\', c] else [c]

def anyOf (ts : List Text) : Text := Text.joined ['|'] (ts.map escape)

end Expression

/-- The engine compiles every one of these expressions. -/
def Engine.Accepts (engine : Engine) (es : List Text) : Prop := ∀ e ∈ es, engine e = .ok ()

theorem Engine.forM_eq_ok_iff {engine : Engine} {es : List Text} :
    es.forM engine = .ok () ↔ engine.Accepts es := by
  induction es with
  | nil => exact iff_of_true rfl nofun
  | cons e es ih =>
    rw [Accepts, List.forall_mem_cons, ← Accepts, ← ih]
    change (engine e >>= fun _ => es.forM engine) = .ok () ↔ _
    cases engine e <;> simp [bind, Except.bind]

end Localize

import Mathlib.Data.List.Basic
import Localize.Dictionary

/-! What a dictionary that is read from messages can answer: texts with a visible character only. -/

namespace Localize.Dictionary

theorem add_of_unfit {d : Dictionary} {path text : Text}
    (h : ¬ (path ≠ [] ∧ Text.isAllBlank text = false) ∨ (d.lookup text).isSome = true) :
    d.add (path, text) = d := by
  refine if_pos ?_
  simp only [Bool.or_eq_true, decide_eq_true_eq]
  rcases h with h | h
  · rw [not_and_or, not_not, Bool.not_eq_false] at h
    exact .inl h
  · exact .inr h

theorem add_of_fit {d : Dictionary} {path text : Text}
    (h : path ≠ [] ∧ Text.isAllBlank text = false) (hnew : (d.lookup text).isSome = false) :
    d.add (path, text) = ⟨d.entries ++ [(text, path)]⟩ := by
  refine if_neg ?_
  simp only [Bool.or_eq_true, decide_eq_true_eq]
  rw [lookup] at hnew
  simp [h.1, h.2, hnew]

theorem lookup_add (d : Dictionary) (path text t : Text) :
    (d.add (path, text)).lookup t = (d.lookup t).or
      (if t = text ∧ path ≠ [] ∧ Text.isAllBlank text = false then some path else none) := by
  by_cases hfit : path ≠ [] ∧ Text.isAllBlank text = false
  · cases hmet : d.lookup text with
    | some key =>
      rw [add_of_unfit (.inr (by rw [hmet]; rfl))]
      by_cases ht : t = text
      · rw [ht, hmet]; rfl
      · rw [if_neg fun h => ht h.1, Option.or_none]
    | none =>
      rw [add_of_fit hfit (by rw [hmet]; rfl), lookup, List.lookup_append, List.lookup_singleton]
      simp only [beq_iff_eq, hfit, ne_eq, not_false_eq_true, and_true]
      rfl
  · rw [add_of_unfit (.inl hfit), if_neg fun h => hfit h.2, Option.or_none]

theorem lookup_foldl (leaves : List (Text × Text)) (d : Dictionary) (t : Text) :
    (leaves.foldl add d).lookup t = (d.lookup t).or ((leaves.find? fun leaf =>
      leaf.2 = t ∧ leaf.1 ≠ [] ∧ Text.isAllBlank leaf.2 = false).map (·.1)) := by
  induction leaves generalizing d with
  | nil => rw [List.foldl_nil, List.find?_nil, Option.map_none, Option.or_none]
  | cons leaf leaves ih =>
    rw [List.foldl_cons, ih, lookup_add, Option.or_assoc, List.find?_cons]
    congr 1
    by_cases hleaf : leaf.2 = t ∧ leaf.1 ≠ [] ∧ Text.isAllBlank leaf.2 = false
    · rw [if_pos ⟨hleaf.1.symm, hleaf.2⟩, decide_eq_true hleaf]
      rfl
    · rw [if_neg fun h => hleaf ⟨h.1.symm, h.2⟩, decide_eq_false hleaf]
      rfl

/-- The key of a text is the path of the first leaf with this text, blank leaves and a leaf at the
root left out. -/
theorem lookup_ofJson (messages : Json) (t : Text) :
    (ofJson messages).lookup t = ((leaves [] messages).find? fun leaf =>
      leaf.2 = t ∧ leaf.1 ≠ [] ∧ Text.isAllBlank leaf.2 = false).map (·.1) := by
  rw [ofJson, lookup_foldl]
  rfl

theorem visible_of_lookup {messages : Json} {t key : Text}
    (h : (ofJson messages).lookup t = some key) : Text.isAllBlank t = false := by
  have hfold (leaves : List (Text × Text)) (d : Dictionary)
      (h : (leaves.foldl add d).lookup t = some key) :
      d.lookup t = some key ∨ Text.isAllBlank t = false := by
    induction leaves generalizing d with
    | nil => exact .inl h
    | cons leaf leaves ih =>
      rcases ih (d.add leaf) h with h | h
      · rw [lookup_add, Option.or_eq_some_iff] at h
        rcases h with h | ⟨-, h⟩
        · exact .inl h
        · split at h
          · rename_i hleaf
            exact .inr (hleaf.1 ▸ hleaf.2.2)
          · cases h
      · exact .inr h
  exact (hfold _ _ h).resolve_left (by simp [lookup])

theorem ne_nil_of_lookup {messages : Json} {t key : Text}
    (h : (ofJson messages).lookup t = some key) : t ≠ [] := by
  rintro rfl
  cases visible_of_lookup h

end Localize.Dictionary

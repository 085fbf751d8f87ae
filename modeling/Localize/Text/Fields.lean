import Localize.Text

/-! Splitting a text at every occurrence of a character. Joining the fields gives the text back. -/

namespace Localize.Text

/-- There is always one field more than there are separators. -/
def fields (sep : Char) : Text → List Text
  | [] => [[]]
  | c :: cs =>
    if c = sep then [] :: fields sep cs
    else match fields sep cs with
      | [] => [[c]]
      | f :: fs => (c :: f) :: fs

theorem fields_ne_nil (sep : Char) (t : Text) : fields sep t ≠ [] := by
  cases t with
  | nil => simp [fields]
  | cons c cs => rw [fields]; split <;> (try split) <;> simp

theorem joined_nil (sep : Text) : joined sep [] = [] := rfl

theorem joined_singleton (sep f : Text) : joined sep [f] = f := by
  simp [joined, List.intercalate]

theorem joined_cons_cons (sep f g : Text) (fs : List Text) :
    joined sep (f :: g :: fs) = f ++ sep ++ joined sep (g :: fs) := by
  simp [joined, List.intercalate, List.intersperse]

theorem joined_fields (sep : Char) (t : Text) : joined [sep] (fields sep t) = t := by
  induction t with
  | nil => rfl
  | cons c cs ih =>
    obtain ⟨f, fs, h⟩ := List.exists_cons_of_ne_nil (fields_ne_nil sep cs)
    rw [h] at ih
    by_cases hc : c = sep
    · subst hc; rw [fields, if_pos rfl, h, joined_cons_cons, ih]; rfl
    · rw [fields, if_neg hc, h]
      cases fs with
      | nil => simpa [joined_singleton] using ih
      | cons g gs => simpa [joined_cons_cons] using ih

theorem length_joined_append_ge (sep : Text) (as bs : List Text) :
    (joined sep as).length + (joined sep bs).length ≤ (joined sep (as ++ bs)).length := by
  induction as with
  | nil => simp [joined_nil]
  | cons a as ih =>
    cases as with
    | nil => cases bs <;> simp [joined_singleton, joined_nil, joined_cons_cons]
    | cons b as =>
      rw [List.cons_append, List.cons_append, joined_cons_cons, joined_cons_cons]
      simp only [List.length_append] at ih ⊢
      rw [List.cons_append] at ih
      omega

end Localize.Text

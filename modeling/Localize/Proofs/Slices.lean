import Localize.Proofs.Text

/-! Slices of a text by the bytes of its encoding. A slice has to begin and to end at an edge, where
a character starts or the text ends; elsewhere it has no result. The edges are the sizes of what the
text starts with, and at an edge the slices are the two parts of the text. -/

namespace Localize.Text

/-- A character of the text starts at this byte, or the text ends there. -/
def isEdge (t : Text) (n : Nat) : Bool := (String.Pos.Raw.mk n).isValid (String.ofList t)

/-- The text up to a byte. -/
def sliceTo? (t : Text) (n : Nat) : Option Text :=
  if isEdge t n then decode? ((encode t).extract 0 n) else none

/-- The text from a byte on. -/
def sliceFrom? (t : Text) (n : Nat) : Option Text :=
  if isEdge t n then decode? ((encode t).extract n (encode t).size) else none

theorem byteSize_cons (c : Char) (t : Text) : byteSize (c :: t) = c.utf8Size + byteSize t := rfl

theorem byteSize_append (s t : Text) : byteSize (s ++ t) = byteSize s + byteSize t := by
  induction s with
  | nil => simp [byteSize]
  | cons c s ih =>
    rw [List.cons_append, byteSize_cons, byteSize_cons, ih]
    omega

theorem encode_append (s t : Text) : encode (s ++ t) = encode s ++ encode t := by
  unfold encode
  rw [String.ofList_append]
  exact String.toByteArray_append

theorem size_encode (t : Text) : (encode t).size = byteSize t := by
  induction t with
  | nil => rfl
  | cons c t ih =>
    have hfirst : (encode [c]).size = c.utf8Size := by
      unfold encode
      rw [← String.singleton_eq_ofList]
      exact String.utf8ByteSize_singleton
    rw [← List.singleton_append, encode_append, ByteArray.size_append, ih, hfirst]
    rfl

theorem isEdge_iff {t : Text} {n : Nat} :
    isEdge t n = true ↔ ∃ front back, t = front ++ back ∧ byteSize front = n := by
  unfold isEdge
  rw [String.Pos.Raw.isValid_eq_true_iff, String.Pos.Raw.isValid_iff_exists_append]
  constructor
  · rintro ⟨s, s', hsplit, hend⟩
    refine ⟨s.toList, s'.toList, ?_, ?_⟩
    · rw [← String.toList_append, ← hsplit, String.toList_ofList]
    · rw [← size_encode, encode, String.ofList_toList]
      exact (congrArg String.Pos.Raw.byteIdx hend).symm
  · rintro ⟨front, back, rfl, rfl⟩
    refine ⟨String.ofList front, String.ofList back, String.ofList_append, ?_⟩
    rw [← size_encode]
    rfl

/-- The slice up to a byte is what the text starts with and what has so many bytes. -/
theorem sliceTo?_eq_some_iff {t front : Text} {n : Nat} :
    sliceTo? t n = some front ↔ ∃ back, t = front ++ back ∧ byteSize front = n := by
  have hslice (front back : Text) : decode? ((encode (front ++ back)).extract 0 (byteSize front)) =
      some front := by
    rw [encode_append, ByteArray.extract_append_eq_left (size_encode front).symm, decode?_encode]
  unfold sliceTo?
  constructor
  · intro h
    split at h
    · rename_i hedge
      obtain ⟨front', back, rfl, rfl⟩ := isEdge_iff.1 hedge
      rw [hslice] at h
      cases h
      exact ⟨back, rfl, rfl⟩
    · cases h
  · rintro ⟨back, rfl, rfl⟩
    rw [if_pos (isEdge_iff.2 ⟨front, back, rfl, rfl⟩)]
    exact hslice front back

theorem sliceFrom?_eq_some_iff {t back : Text} {n : Nat} :
    sliceFrom? t n = some back ↔ ∃ front, t = front ++ back ∧ byteSize front = n := by
  have hslice (front back : Text) : decode? ((encode (front ++ back)).extract (byteSize front)
      (encode (front ++ back)).size) = some back := by
    rw [encode_append, ByteArray.extract_append_eq_right (size_encode front).symm
      ByteArray.size_append, decode?_encode]
  unfold sliceFrom?
  constructor
  · intro h
    split at h
    · rename_i hedge
      obtain ⟨front, back', rfl, rfl⟩ := isEdge_iff.1 hedge
      rw [hslice] at h
      cases h
      exact ⟨front, rfl, rfl⟩
    · cases h
  · rintro ⟨front, rfl, rfl⟩
    rw [if_pos (isEdge_iff.2 ⟨front, back, rfl, rfl⟩)]
    exact hslice front back

/-- Inside of a character there is no slice. -/
example : sliceTo? "aä".toList 2 = none ∧ sliceTo? "aä".toList 3 = some "aä".toList := by decide

end Localize.Text

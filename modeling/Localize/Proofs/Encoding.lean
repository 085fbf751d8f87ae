import Localize.Text.Encoding

/-! Lossy reading loses nothing of a text that is UTF-8: behind each lead byte stand the bytes that
it asks for, and together they are the code of the character. -/

namespace Localize.Text

/-- The bytes that may stand behind most lead bytes. -/
def tailSpan : UInt8 × UInt8 := (0x80, 0xBF)

/-- Behind a lead byte of three, no code that two bytes hold, and none that is no character. -/
def spanOfThree (n : Nat) : UInt8 × UInt8 :=
  if n = 0 then (0xA0, 0xBF) else if n = 13 then (0x80, 0x9F) else tailSpan

/-- Behind a lead byte of four, no code that three bytes hold, and none above the last. -/
def spanOfFour (n : Nat) : UInt8 × UInt8 :=
  if n = 0 then (0x90, 0xBF) else if n = 4 then (0x80, 0x8F) else tailSpan

theorem spanOfThree_holds {n k : Nat} (hk : k < 64) (hshort : n = 0 → 32 ≤ k)
    (hsurrogate : n = 13 → k < 32) :
    (spanOfThree n).1.toNat ≤ k + 128 ∧ k + 128 ≤ (spanOfThree n).2.toNat := by
  unfold spanOfThree tailSpan
  split
  · simp; omega
  · split <;> simp <;> omega

theorem spanOfFour_holds {n k : Nat} (hk : k < 64) (hshort : n = 0 → 16 ≤ k)
    (hlast : n = 4 → k < 16) :
    (spanOfFour n).1.toNat ≤ k + 128 ∧ k + 128 ≤ (spanOfFour n).2.toNat := by
  unfold spanOfFour tailSpan
  split
  · simp; omega
  · split <;> simp <;> omega

theorem leadByte?_one : ∀ n < 128, leadByte? (.ofNat n) = some (n, []) := by decide

theorem leadByte?_two :
    ∀ n < 30, leadByte? (.ofNat (n + 2 + 192)) = some (n + 2, [tailSpan]) := by decide

theorem leadByte?_three :
    ∀ n < 16, leadByte? (.ofNat (n + 224)) = some (n, [spanOfThree n, tailSpan]) := by decide

theorem leadByte?_four : ∀ n < 5,
    leadByte? (.ofNat (n + 240)) = some (n, [spanOfFour n, tailSpan, tailSpan]) := by decide

theorem followBytes_cons {span : UInt8 × UInt8} {spans : List (UInt8 × UInt8)} {n k : Nat}
    {bs : List UInt8} (hlow : span.1.toNat ≤ k + 128) (hhigh : k + 128 ≤ span.2.toNat) :
    followBytes (span :: spans) n (.ofNat (k + 128) :: bs) =
      followBytes spans (64 * n + k) bs := by
  have hbyte : (UInt8.ofNat (k + 128)).toNat = k + 128 :=
    UInt8.toNat_ofNat_of_lt' (Nat.lt_of_le_of_lt hhigh span.2.toNat_lt)
  have hin : (span.1 ≤ UInt8.ofNat (k + 128) && UInt8.ofNat (k + 128) ≤ span.2) = true := by
    rw [Bool.and_eq_true, decide_eq_true_eq, decide_eq_true_eq, UInt8.le_iff_toNat_le,
      UInt8.le_iff_toNat_le, hbyte]
    exact ⟨hlow, hhigh⟩
  rw [followBytes, if_pos hin, hbyte]
  simp

theorem followBytes_tailSpan {spans : List (UInt8 × UInt8)} {n k : Nat} {bs : List UInt8}
    (h : k < 64) : followBytes (tailSpan :: spans) n (.ofNat (k + 128) :: bs) =
      followBytes spans (64 * n + k) bs :=
  followBytes_cons (Nat.le_add_left _ _) (Nat.add_le_add_right (Nat.le_of_lt_succ h) 128)

theorem decodeBytes_cons {b : UInt8} {n code : Nat} {spans : List (UInt8 × UInt8)}
    {rest left : List UInt8} (hlead : leadByte? b = some (n, spans))
    (hfollow : followBytes spans n rest = (some code, left)) :
    decodeBytes (b :: rest) = Char.ofNat code :: decodeBytes left := by
  rw [decodeBytes, hlead]
  simp only
  split
  · rename_i h
    cases hfollow.symm.trans h
    rfl
  · rename_i h
    cases hfollow.symm.trans h

theorem decodeBytes_utf8EncodeChar (c : Char) (bs : List UInt8) :
    decodeBytes (String.utf8EncodeChar c ++ bs) = c :: decodeBytes bs := by
  have hcode {n : Nat} (h : n = c.val.toNat) : Char.ofNat n = c := h ▸ Char.ofNat_toNat c
  have hvalid : c.val.toNat < 0xD800 ∨ 0xDFFF < c.val.toNat ∧ c.val.toNat < 0x110000 := c.valid
  -- a case for each number of bytes; their bits below the marks make up the code
  unfold String.utf8EncodeChar
  generalize c.val.toNat = v at hcode hvalid ⊢
  dsimp only
  split
  · rename_i hone
    exact (decodeBytes_cons (leadByte?_one v (by omega)) rfl).trans (by rw [hcode rfl]; rfl)
  split
  · rename_i htwo
    obtain ⟨n, hn⟩ : ∃ n, v / 64 % 32 = n + 2 := ⟨v / 64 % 32 - 2, by omega⟩
    rw [hn]
    refine (decodeBytes_cons (leadByte?_two n (by omega))
      (followBytes_tailSpan (by omega))).trans ?_
    rw [hcode (by omega)]
    rfl
  split
  · rename_i hthree
    obtain ⟨hlow, hhigh⟩ := spanOfThree_holds (n := v / 4096 % 16) (k := v / 64 % 64)
      (by omega) (by omega) (by omega)
    refine (decodeBytes_cons (leadByte?_three _ (by omega))
      ((followBytes_cons hlow hhigh).trans (followBytes_tailSpan (by omega)))).trans ?_
    rw [hcode (by omega)]
    rfl
  · rename_i hfour
    obtain ⟨hlow, hhigh⟩ := spanOfFour_holds (n := v / 262144 % 8) (k := v / 4096 % 64)
      (by omega) (by omega) (by omega)
    refine (decodeBytes_cons (leadByte?_four _ (by omega))
      ((followBytes_cons hlow hhigh).trans
        ((followBytes_tailSpan (by omega)).trans (followBytes_tailSpan (by omega))))).trans ?_
    rw [hcode (by omega)]
    rfl

theorem toList_loop (bytes : ByteArray) (i : Nat) (read : List UInt8) :
    ByteArray.toList.loop bytes i read = read.reverse ++ bytes.data.toList.drop i := by
  fun_induction ByteArray.toList.loop bytes i read with
  | case1 i read h ih =>
    have hi : i < bytes.data.toList.length := h
    rw [ih, List.reverse_cons, List.append_assoc, List.drop_eq_getElem_cons hi]
    exact congrArg (read.reverse ++ · :: _) (getElem!_pos bytes.data i h)
  | case2 i read h =>
    have hi : bytes.data.toList.length ≤ i := Nat.le_of_not_lt h
    rw [List.drop_eq_nil_of_le hi, List.append_nil]

theorem toList_eq (bytes : ByteArray) : bytes.toList = bytes.data.toList := toList_loop bytes 0 []

theorem toList_encode (t : Text) : (encode t).toList = t.flatMap String.utf8EncodeChar := by
  rw [toList_eq, encode, String.toUTF8, String.toByteArray_ofList]
  simp [List.utf8Encode]

/-- A text that is UTF-8 is read as it is. -/
theorem decodeLossy_encode (t : Text) : decodeLossy (encode t) = t := by
  rw [decodeLossy, toList_encode]
  induction t with
  | nil => rw [List.flatMap_nil, decodeBytes]
  | cons c t ih => rw [List.flatMap_cons, decodeBytes_utf8EncodeChar, ih]

end Localize.Text

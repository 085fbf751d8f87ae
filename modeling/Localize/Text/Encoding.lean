import Localize.Text

/-! UTF-8: bytes of a text, strict reading, and reading with U+FFFD for what is not UTF-8. -/

namespace Localize.Text

def encode (t : Text) : ByteArray := (String.ofList t).toUTF8

/-- The text that the bytes encode, if they are UTF-8. -/
def decode? (bytes : ByteArray) : Option Text := (String.fromUTF8? bytes).map String.toList

/-- The payload of a lead byte and the spans its following bytes must lie in. -/
def leadByte? (b : UInt8) : Option (Nat × List (UInt8 × UInt8)) :=
  let tail : UInt8 × UInt8 := (0x80, 0xBF)
  if b < 0x80 then some (b.toNat, [])
  else if 0xC2 ≤ b && b ≤ 0xDF then some (b.toNat - 0xC0, [tail])
  else if b == 0xE0 then some (0x0, [(0xA0, 0xBF), tail])
  else if b == 0xED then some (0xD, [(0x80, 0x9F), tail])
  else if 0xE1 ≤ b && b ≤ 0xEF then some (b.toNat - 0xE0, [tail, tail])
  else if b == 0xF0 then some (0x0, [(0x90, 0xBF), tail, tail])
  else if 0xF1 ≤ b && b ≤ 0xF3 then some (b.toNat - 0xF0, [tail, tail, tail])
  else if b == 0xF4 then some (0x4, [(0x80, 0x8F), tail, tail])
  else none

def followBytes : List (UInt8 × UInt8) → Nat → List UInt8 → Option Nat × List UInt8
  | [], n, bs => (some n, bs)
  | _ :: _, _, [] => (none, [])
  | (low, high) :: spans, n, b :: bs =>
    if low ≤ b && b ≤ high then followBytes spans (64 * n + (b.toNat - 0x80)) bs
    else (none, b :: bs)

theorem length_followBytes_le (spans : List (UInt8 × UInt8)) (n : Nat) (bs : List UInt8) :
    (followBytes spans n bs).2.length ≤ bs.length := by
  fun_induction followBytes spans n bs with
  | case1 => simp
  | case2 => simp
  | case3 n low high spans b bs h ih => simp; omega
  | case4 => simp

def replacementChar : Char := Char.ofNat 0xFFFD

/-- Each longest run of bytes that begins a character but does not complete it becomes one
replacement character, and so does each byte that begins none. -/
def decodeBytes (bs : List UInt8) : Text :=
  match bs with
  | [] => []
  | b :: rest =>
    match leadByte? b with
    | none => replacementChar :: decodeBytes rest
    | some (n, spans) =>
      match _h : followBytes spans n rest with
      | (some code, left) => Char.ofNat code :: decodeBytes left
      | (none, left) => replacementChar :: decodeBytes left
termination_by bs.length
decreasing_by
  · simp
  · have := length_followBytes_le spans n rest; rw [_h] at this; simp at this ⊢; omega
  · have := length_followBytes_le spans n rest; rw [_h] at this; simp at this ⊢; omega

def decodeLossy (bytes : ByteArray) : Text := decodeBytes bytes.toList

end Localize.Text

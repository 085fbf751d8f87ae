import Localize.Text

/-! The escapes that printing replaces by characters. -/

namespace Localize.Shell.Escape

def isOctal (c : Char) : Bool := '0' ≤ c && c ≤ '7'

def byte (n : Nat) : Char := Char.ofNat (n % 256)

def octal (count : Nat) (t : Text) : Char × Text :=
  let ds := (t.take count).takeWhile isOctal
  (byte (ds.foldl (fun n c => 8 * n + Text.digitValue c) 0), t.drop ds.length)

def control? : Char → Option Char
  | 'a' => some '\x07'
  | 'b' => some '\x08'
  | 'e' => some '\x1b'
  | 'f' => some '\x0c'
  | 'n' => some '\n'
  | 'r' => some '\r'
  | 't' => some '\t'
  | 'v' => some '\x0b'
  | '\\' => some '\\'
  | _ => none

/-- The character behind a backslash, and what follows it. A backslash without an escape stands for
itself. -/
def character (t : Text) : Char × Text :=
  match t with
  | [] => ('\\', [])
  | c :: rest =>
    match control? c with
    | some x => (x, rest)
    | none => if isOctal c then octal 3 t else ('\\', t)

theorem length_character_le (t : Text) : (character t).2.length ≤ t.length := by
  unfold character
  split
  · simp
  · split
    · simp
    · split <;> simp [octal]

def dropZero : Text → Text
  | '0' :: d :: rest => if isOctal d then d :: rest else '0' :: d :: rest
  | t => t

theorem length_dropZero_le (t : Text) : (dropZero t).length ≤ t.length := by
  unfold dropZero
  split
  · split <;> simp
  · simp

/-- Replaces the escapes of an argument. An escaped `c` ends all output; whether it came is told as
well. -/
def expand (t : Text) : Text × Bool :=
  match t with
  | [] => ([], false)
  | '\\' :: 'c' :: _ => ([], true)
  | '\\' :: rest =>
    let (more, stops) := expand (character (dropZero rest)).2
    ((character (dropZero rest)).1 :: more, stops)
  | c :: rest =>
    let (more, stops) := expand rest
    (c :: more, stops)
termination_by t.length
decreasing_by
  · have := length_character_le (dropZero rest)
    have := length_dropZero_le rest
    simp; omega
  · simp

end Localize.Shell.Escape

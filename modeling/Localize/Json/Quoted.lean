import Localize.Json.Fault

/-! Strings of a JSON text. -/

namespace Localize.Json

abbrev Read (α : Type) := Except Fault (α × Text)

def hexDigit? (c : Char) : Option Nat :=
  if Text.isDigit c then some (Text.digitValue c)
  else if 'a' ≤ c && c ≤ 'f' then some (c.toNat - 'a'.toNat + 10)
  else if 'A' ≤ c && c ≤ 'F' then some (c.toNat - 'A'.toNat + 10)
  else none

def codeUnit? (t : Text) : Option (Nat × Text) :=
  match t with
  | a :: b :: c :: d :: rest => do
    let a ← hexDigit? a
    let b ← hexDigit? b
    let c ← hexDigit? c
    let d ← hexDigit? d
    some (((a * 16 + b) * 16 + c) * 16 + d, rest)
  | _ => none

/-- The number of four hexadecimal digits. Wrong digits count as read. -/
def codeUnit (t : Text) : Read Nat :=
  match codeUnit? t with
  | some read => .ok read
  | none =>
    .error (if Text.byteSize t < 4 then ⟨.endInString, 0⟩
      else ⟨.invalidEscape, Text.byteSize t - 4⟩)

def isHighSurrogate (n : Nat) : Bool := 0xD800 ≤ n && n ≤ 0xDBFF

def isLowSurrogate (n : Nat) : Bool := 0xDC00 ≤ n && n ≤ 0xDFFF

/-- The second half of a surrogate pair, after the first. -/
def lowSurrogate (high : Nat) (t : Text) : Read Char :=
  match t with
  | '\\' :: 'u' :: rest =>
    match codeUnit rest with
    | .error f => .error f
    | .ok (low, rest) =>
      if isLowSurrogate low then
        .ok (Char.ofNat ((high - 0xD800) * 0x400 + (low - 0xDC00) + 0x10000), rest)
      else .error (.before .loneSurrogate rest)
  | [] => .error ⟨.endInString, 0⟩
  | ['\\'] => .error ⟨.endInString, 0⟩
  | '\\' :: rest => .error (.onByte .halfSurrogatePair rest)
  | t => .error (.onByte .halfSurrogatePair t)

def shortEscape? : Char → Option Char
  | '"' => some '"'
  | '\\' => some '\\'
  | '/' => some '/'
  | 'b' => some '\x08'
  | 'f' => some '\x0c'
  | 'n' => some '\n'
  | 'r' => some '\r'
  | 't' => some '\t'
  | _ => none

/-- The character of an escape, after the backslash. -/
def escaped (t : Text) : Read Char :=
  match t with
  | [] => .error ⟨.endInString, 0⟩
  | 'u' :: rest =>
    match codeUnit rest with
    | .error f => .error f
    | .ok (n, rest) =>
      if isLowSurrogate n then .error (.before .loneSurrogate rest)
      else if isHighSurrogate n then lowSurrogate n rest
      else .ok (Char.ofNat n, rest)
  | c :: rest =>
    match shortEscape? c with
    | some e => .ok (e, rest)
    | none => .error (.onByte .invalidEscape t)

theorem length_lt_of_codeUnit {t rest : Text} {n : Nat} (h : codeUnit t = .ok (n, rest)) :
    rest.length < t.length := by
  unfold codeUnit at h
  split at h
  · rename_i read hr
    cases h
    unfold codeUnit? at hr
    split at hr
    · simp only [Option.bind_eq_bind, Option.bind_eq_some_iff, Option.some.injEq,
        Prod.mk.injEq] at hr
      obtain ⟨_, _, _, _, _, _, _, _, _, rfl⟩ := hr
      simp; omega
    · simp at hr
  · simp at h

theorem length_lt_of_lowSurrogate {high : Nat} {t rest : Text} {c : Char}
    (h : lowSurrogate high t = .ok (c, rest)) : rest.length < t.length := by
  unfold lowSurrogate at h
  split at h
  · split at h
    · simp at h
    · rename_i hu
      have := length_lt_of_codeUnit hu
      split at h
      · simp only [Except.ok.injEq, Prod.mk.injEq] at h
        simp [← h.2]; omega
      · simp at h
  all_goals simp at h

theorem length_lt_of_escaped {t rest : Text} {c : Char} (h : escaped t = .ok (c, rest)) :
    rest.length < t.length := by
  unfold escaped at h
  split at h
  · simp at h
  · split at h
    · simp at h
    · rename_i hu
      have := length_lt_of_codeUnit hu
      split at h
      · simp at h
      · split at h
        · have := length_lt_of_lowSurrogate h
          simp; omega
        · simp only [Except.ok.injEq, Prod.mk.injEq] at h
          simp [← h.2]; omega
  · split at h
    · simp only [Except.ok.injEq, Prod.mk.injEq] at h
      simp [← h.2]
    · simp at h

def isControl (c : Char) : Bool := c.toNat < 0x20

def stringBody (t : Text) : Read Text :=
  match t with
  | [] => .error ⟨.endInString, 0⟩
  | '"' :: rest => .ok ([], rest)
  | '\\' :: rest =>
    match _h : escaped rest with
    | .error f => .error f
    | .ok (c, rest') =>
      match stringBody rest' with
      | .error f => .error f
      | .ok (s, rest'') => .ok (c :: s, rest'')
  | c :: rest =>
    if isControl c then .error (.before .controlCharacter rest)
    else match stringBody rest with
      | .error f => .error f
      | .ok (s, rest') => .ok (c :: s, rest')
termination_by t.length
decreasing_by
  · have := length_lt_of_escaped _h; simp; omega
  · simp

/-- Passes over an escape whose character does not matter. -/
def skipEscape (t : Text) : Except Fault Text :=
  match t with
  | [] => .error ⟨.endInString, 0⟩
  | 'u' :: rest => (codeUnit rest).map (·.2)
  | c :: rest =>
    if (shortEscape? c).isSome then .ok rest else .error (.onByte .invalidEscape t)

theorem length_lt_of_skipEscape {t rest : Text} (h : skipEscape t = .ok rest) :
    rest.length < t.length := by
  unfold skipEscape at h
  split at h
  · simp at h
  · rename_i r
    cases hu : codeUnit r with
    | error f => rw [hu] at h; simp [Except.map] at h
    | ok p =>
      rw [hu] at h
      simp only [Except.map, Except.ok.injEq] at h
      have := @length_lt_of_codeUnit r rest p.1 (by rw [hu, ← h])
      simp; omega
  · split at h
    · simp only [Except.ok.injEq] at h
      simp [← h]
    · simp at h

/-- Passes over a string whose content does not matter. A control character does not count as
read. -/
def skipString (t : Text) : Except Fault Text :=
  match t with
  | [] => .error ⟨.endInString, 0⟩
  | '"' :: rest => .ok rest
  | '\\' :: rest =>
    match _h : skipEscape rest with
    | .error f => .error f
    | .ok rest' => skipString rest'
  | c :: rest =>
    if isControl c then .error (.before .controlCharacter (c :: rest)) else skipString rest
termination_by t.length
decreasing_by
  · have := length_lt_of_skipEscape _h; simp; omega
  · simp

end Localize.Json

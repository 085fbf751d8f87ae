import Localize.Json
import Localize.Json.Quoted

/-! Numerals of a JSON text. Digits go into a 64-bit significand as long as they fit; later ones
only count towards the exponent. The double is the significand scaled by a power of ten, in double
arithmetic. -/

namespace Localize.Json

def startsWithDigit (t : Text) : Bool := t.head?.any Text.isDigit

/-- Takes digits into `n` as long as the result stays below `limit`, and gives those left over. -/
def absorb (limit : Nat) (n : Nat) : Text → Nat × Text
  | [] => (n, [])
  | d :: ds =>
    let n' := 10 * n + Text.digitValue d
    if n' < limit then absorb limit n' ds else (n, d :: ds)

def splitDigits (t : Text) : Text × Text := t.span Text.isDigit

/-- The largest power of ten that is used as a factor has this exponent. -/
def factorLimit : Nat := 308

def powerOfTen (n : Nat) : Float := Float.ofScientific 1 false n

/-- `f · 10ᵉ`, unless that is too large. Below the smallest factor the division is done in steps, of
which the third starts from zero. -/
def scale : Nat → Float → Int → Option Float
  | steps, f, e =>
    if e.natAbs ≤ factorLimit then
      if 0 ≤ e then
        let g := f * powerOfTen e.natAbs
        if g.isInf then none else some g
      else some (f / powerOfTen e.natAbs)
    else if f == 0 then some f
    else if 0 ≤ e then none
    else match steps with
      | 0 => some 0
      | n + 1 => scale n (f / powerOfTen factorLimit) (e + factorLimit)

def signed (negative : Bool) (f : Float) : JsonNumber :=
  .double (if negative then -f else f).toBits

def scaled (negative : Bool) (significand : Nat) (e : Int) (rest : Text) : Read JsonNumber :=
  match scale 3 significand.toUInt64.toFloat e with
  | some f => .ok (signed negative f, rest)
  | none => .error (.before .numberOutOfRange rest)

def exponentLimit : Nat := 0x80000000

def exponent (negative : Bool) (significand : Nat) (start : Int) (t : Text) : Read JsonNumber :=
  let (up, t) := match t with
    | '+' :: t => (true, t)
    | '-' :: t => (false, t)
    | t => (true, t)
  let (digits, rest) := splitDigits t
  match digits with
  | [] => .error (if t.isEmpty then ⟨.endInValue, 0⟩ else .onByte .invalidNumber t)
  | _ :: _ =>
    match absorb exponentLimit 0 digits with
    | (e, []) => scaled negative significand (if up then start + e else start - e) rest
    | (_, _ :: beyond) =>
      if significand ≠ 0 && up then .error (.before .numberOutOfRange (beyond ++ rest))
      else .ok (signed negative 0, rest)

def isExponentMark (c : Char) : Bool := c == 'e' || c == 'E'

def afterDigits (negative : Bool) (significand : Nat) (e : Int) (t : Text) : Read JsonNumber :=
  match t with
  | c :: rest =>
    if isExponentMark c then exponent negative significand e rest
    else scaled negative significand e t
  | [] => scaled negative significand e t

def fraction (negative : Bool) (significand : Nat) (e : Int) (t : Text) : Read JsonNumber :=
  let (digits, rest) := splitDigits t
  match digits with
  | [] => .error (if t.isEmpty then ⟨.endInValue, 0⟩ else .onByte .invalidNumber t)
  | _ :: _ =>
    let (significand, beyond) := absorb Text.wordLimit significand digits
    afterDigits negative significand (e - (digits.length - beyond.length : Nat)) rest

/-- An integer that stays one. Zero has no negative, and −2⁶³ is the least integer. -/
def integer (negative : Bool) (significand : Nat) : JsonNumber :=
  if !negative then .natural significand
  else if 0 < significand && significand ≤ 0x8000000000000000 then .negative significand
  else signed true significand.toUInt64.toFloat

def numeral (negative : Bool) (t : Text) : Read JsonNumber :=
  match t with
  | [] => .error ⟨.endInValue, 0⟩
  | c :: cs =>
    if !Text.isDigit c then .error (.onByte .invalidNumber t)
    else if c == '0' && startsWithDigit cs then .error (.onByte .invalidNumber cs)
    else
      let (digits, rest) := if c == '0' then (['0'], cs) else splitDigits t
      let (significand, beyond) := absorb Text.wordLimit 0 digits
      match rest with
      | '.' :: rest => fraction negative significand beyond.length rest
      | _ =>
        if rest.head?.any isExponentMark || !beyond.isEmpty then
          afterDigits negative significand beyond.length rest
        else .ok (integer negative significand, rest)

def skipExponent (t : Text) : Except Fault Text :=
  let t := match t with
    | '+' :: t => t
    | '-' :: t => t
    | t => t
  if startsWithDigit t then .ok (t.dropWhile Text.isDigit) else .error (.onByte .invalidNumber t)

def skipAfterDigits (t : Text) : Except Fault Text :=
  match t with
  | c :: rest => if isExponentMark c then skipExponent rest else .ok t
  | [] => .ok t

/-- Passes over a numeral whose value does not matter, after its sign. -/
def skipNumeral (t : Text) : Except Fault Text :=
  match t with
  | [] => .error (.onByte .invalidNumber t)
  | c :: cs =>
    if !Text.isDigit c then .error (.onByte .invalidNumber t)
    else if c == '0' && startsWithDigit cs then .error (.onByte .invalidNumber cs)
    else match cs.dropWhile Text.isDigit with
      | '.' :: rest =>
        if startsWithDigit rest then skipAfterDigits (rest.dropWhile Text.isDigit)
        else .error (.onByte .invalidNumber rest)
      | rest => skipAfterDigits rest

end Localize.Json

import Localize.Decimal.Places
import Localize.Shell.Numeral

/-! Numbers and texts laid out as a directive asks. -/

namespace Localize.Shell

open Decimal (Binary Ratio)

structure Directive where
  left : Bool := false
  plus : Bool := false
  space : Bool := false
  alternate : Bool := false
  zeros : Bool := false
  width : Nat := 0
  precision : Option Nat := none

inductive Real where
  | finite (negative : Bool) (value : Option Binary)
  | infinite (negative : Bool)
  | undefined (negative : Bool)

namespace Directive

def pad (d : Directive) (t : Text) : Text :=
  let blanks := List.replicate (d.width - t.length) ' '
  if d.left then t ++ blanks else blanks ++ t

def padZeros (d : Directive) (front digits : Text) : Text :=
  if d.zeros && !d.left then
    front ++ List.replicate (d.width - front.length - digits.length) '0' ++ digits
  else d.pad (front ++ digits)

def text (d : Directive) (t : Text) : Text :=
  d.pad (match d.precision with
    | some n => t.take n
    | none => t)

def sign (d : Directive) (negative : Bool) : Text :=
  if negative then ['-'] else if d.plus then ['+'] else if d.space then [' '] else []

/-- At least as many digits as the precision asks for, which are none for zero if it is zero. -/
def digits (d : Directive) (base n : Nat) : Text :=
  let ds := if n = 0 && d.precision = some 0 then [] else Nat.toDigits base n
  List.replicate (d.precision.getD 0 - ds.length) '0' ++ ds

/-- A precision leaves no room for filling zeros. -/
def integer (d : Directive) (front digits : Text) : Text :=
  if d.precision.isSome then d.pad (front ++ digits) else d.padZeros front digits

def signed (d : Directive) (i : Int) : Text :=
  d.integer (d.sign (i < 0)) (d.digits 10 i.natAbs)

def upper (t : Text) : Text :=
  t.map fun c => if 'a' ≤ c && c ≤ 'z' then Char.ofNat (c.toNat - 32) else c

def octal (d : Directive) (n : Nat) : Text :=
  let ds := d.digits 8 n
  d.integer [] (if d.alternate && ds.head? ≠ some '0' then '0' :: ds else ds)

def hexadecimal (d : Directive) (n : Nat) : Text :=
  d.integer (if d.alternate && n ≠ 0 then ['0', 'x'] else []) (d.digits 16 n)

def point (d : Directive) (whole fraction : Text) : Text :=
  if fraction.isEmpty && !d.alternate then whole else whole ++ '.' :: fraction

def exponent (e : Int) : Text :=
  let ds := Text.ofNat e.natAbs
  'e' :: (if e < 0 then '-' else '+') :: (List.replicate (2 - ds.length) '0' ++ ds)

def fixed (d : Directive) (r : Ratio) (places : Nat) : Text :=
  let (whole, fraction) := r.fixed places
  d.point whole fraction

def scientific (d : Directive) (r : Ratio) (places : Nat) : Text :=
  let (ds, e) := r.scientific places
  d.point (ds.take 1) (ds.drop 1) ++ exponent e

def dropZeros (t : Text) : Text := (t.reverse.dropWhile (· == '0')).reverse

/-- Positional unless the exponent is small or reaches the precision, without zeros at the end. -/
def general (d : Directive) (r : Ratio) (significant : Nat) : Text :=
  let (ds, e) := r.scientific (significant - 1)
  if e < -4 || (significant : Int) ≤ e then
    let fraction := ds.drop 1
    d.point (ds.take 1) (if d.alternate then fraction else dropZeros fraction) ++ exponent e
  else
    let (whole, fraction) := r.fixed ((significant : Int) - 1 - e).toNat
    d.point whole (if d.alternate then fraction else dropZeros fraction)

/-- The thirteen hexadecimal digits behind the first bit, or as many as the precision asks for. -/
def binary (d : Directive) (b : Option Binary) : Text :=
  let (lead, fraction, e) := match b with
    | none => (0, 0, 0)
    | some b =>
      if b.mantissa < Decimal.hiddenBit then (0, b.mantissa, b.exponent + 52)
      else (1, b.mantissa - Decimal.hiddenBit, b.exponent + 52)
  let e := if lead = 0 && fraction ≠ 0 then -1022 else e
  let all := lead * Decimal.hiddenBit + fraction
  let ds := match d.precision with
    | none => (dropZeros (Text.hex 13 fraction))
    | some n =>
      let scaled := Ratio.rounded ⟨all * Nat.pow 16 n, Decimal.hiddenBit⟩
      if n = 0 then [] else Text.hex n (scaled % Nat.pow 16 n)
  let lead := match d.precision with
    | none => lead
    | some n => Ratio.rounded ⟨all * Nat.pow 16 n, Decimal.hiddenBit⟩ / Nat.pow 16 n
  let e := if b.isNone then 0 else e
  d.point (Text.ofNat lead) ds ++ 'p' :: (if e < 0 then '-' else '+') :: Text.ofNat e.natAbs

def real (d : Directive) (letter : Char) (x : Real) : Text :=
  let body := match x with
    | .infinite negative => d.pad (d.sign negative ++ "inf".toList)
    | .undefined negative => d.pad (d.sign negative ++ "nan".toList)
    | .finite negative b =>
      let r := Binary.ratio b
      let places := d.precision.getD 6
      match letter.toLower with
      | 'e' => d.padZeros (d.sign negative) (d.scientific r places)
      | 'f' => d.padZeros (d.sign negative) (d.fixed r places)
      | 'g' => d.padZeros (d.sign negative) (d.general r (max places 1))
      | _ => d.padZeros (d.sign negative ++ ['0', 'x']) (d.binary b)
  if letter.isUpper then upper body else body

end Directive

namespace Real

structure Scanned where
  value : Real
  fits : Bool
  rest : Text

def ofFloat (negative : Bool) (x : Float) : Real :=
  if x.isInf then .infinite negative else .finite negative (Binary.ofBits? x.toBits)

/-- Digits with a point among them: all digits, how many stand behind the point, and the rest. -/
def pointed (isDigit : Char → Bool) (t : Text) : Text × Nat × Text :=
  let whole := t.takeWhile isDigit
  match t.drop whole.length with
  | '.' :: rest =>
    let fraction := rest.takeWhile isDigit
    (whole ++ fraction, fraction.length, rest.drop fraction.length)
  | rest => (whole, 0, rest)

def exponent (letter : Char) (t : Text) : Int × Text :=
  match t with
  | c :: rest =>
    if c.toLower = letter then
      let (negative, ds) := match rest with
        | '-' :: ds => (true, ds)
        | '+' :: ds => (false, ds)
        | ds => (false, ds)
      let digits := ds.takeWhile Text.isDigit
      if digits.isEmpty then (0, t)
      else
        let e : Int := min (Text.natValue (digits.take 9)) 100000
        (if negative then -e else e, ds.drop digits.length)
    else (0, t)
  | [] => (0, [])

def decimal (n : Nat) (e : Int) : Float :=
  let size : Int := (Nat.toDigits 10 n).length + e
  if n = 0 || size < -330 then 0
  else if 310 < size then Float.ofScientific 1 false 400
  else Float.ofScientific n (e < 0) e.natAbs

/-- Whether a numeral with the value `r` is within the limits of the double `x` it was read as.
Below the least normal double the value has to be exact. -/
def isWithin (r : Ratio) (x : Float) : Bool :=
  let b := Binary.ofBits? x.toBits
  let isNormal := b.any fun b => Decimal.hiddenBit ≤ b.mantissa
  !x.isInf && (isNormal || (r.le (Binary.ratio b) && (Binary.ratio b).le r))

/-- Numerals are decimal or hexadecimal, with a point and an exponent; the names of infinity and of
what is no number are numerals as well. -/
def scan (t : Text) : Option Scanned :=
  let signed := t.dropWhile Numeral.isSpace
  let (negative, t) := match signed with
    | '-' :: rest => (true, rest)
    | '+' :: rest => (false, rest)
    | rest => (false, rest)
  let begins (s : String) : Bool := (t.take s.length).map Char.toLower == s.toList
  if begins "infinity" then some ⟨.infinite negative, true, t.drop 8⟩
  else if begins "inf" then some ⟨.infinite negative, true, t.drop 3⟩
  else if begins "nan" then some ⟨.undefined negative, true, t.drop 3⟩
  else
    let (hexDigits, hexPlaces, hexRest) := pointed (Numeral.isDigitIn 16) (t.drop 2)
    if begins "0x" && !hexDigits.isEmpty then
      let n := Numeral.valueIn 16 hexDigits
      let (e, rest) := exponent 'p' hexRest
      let e := e - 4 * hexPlaces
      let x := (Float.ofNat n).scaleB e
      some ⟨ofFloat negative x, isWithin (Ratio.scale ⟨n, 1⟩ 2 e) x, rest⟩
    else
      let (digits, places, rest) := pointed Text.isDigit t
      if digits.isEmpty then none
      else
        let n := Text.natValue digits
        let (e, rest) := exponent 'e' rest
        let e := e - places
        let x := decimal n e
        some ⟨ofFloat negative x, isWithin (Ratio.scale ⟨n, 1⟩ 10 e) x, rest⟩

end Real
end Localize.Shell

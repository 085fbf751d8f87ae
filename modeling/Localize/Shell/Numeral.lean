import Localize.Text

/-! Integers as scripts write them: decimal, octal, hexadecimal and binary numerals in 64 bits. -/

namespace Localize.Shell

structure Scanned where
  value : Int
  fits : Bool
  isNumber : Bool
  rest : Text

namespace Numeral

def isSpace (c : Char) : Bool := c == ' ' || ('\t' ≤ c && c ≤ '\r')

def digit? (c : Char) : Option Nat :=
  if Text.isDigit c then some (Text.digitValue c)
  else if 'a' ≤ c && c ≤ 'z' then some (c.toNat - 'a'.toNat + 10)
  else if 'A' ≤ c && c ≤ 'Z' then some (c.toNat - 'A'.toNat + 10)
  else none

def isDigitIn (base : Nat) (c : Char) : Bool := (digit? c).any (· < base)

def valueIn (base : Nat) (ds : Text) : Nat :=
  ds.foldl (fun n c => base * n + (digit? c).getD 0) 0

def largest : Int := 0x7FFFFFFFFFFFFFFF

def smallest : Int := -largest - 1

def announcedBase (t : Text) : Nat × Text :=
  match t with
  | '0' :: x :: c :: rest =>
    if (x == 'x' || x == 'X') && isDigitIn 16 c then (16, c :: rest)
    else if (x == 'b' || x == 'B') && isDigitIn 2 c then (2, c :: rest)
    else (8, t)
  | '0' :: _ => (8, t)
  | _ => (10, t)

/-- Reads a numeral after blanks and a sign. In base 0 the numeral announces its base. -/
def scan (base : Nat) (t : Text) : Scanned :=
  let signed := t.dropWhile isSpace
  let (isNegative, unsigned) := match signed with
    | '-' :: rest => (true, rest)
    | '+' :: rest => (false, rest)
    | rest => (false, rest)
  let (base, digits) := match base, unsigned with
    | 0, _ => announcedBase unsigned
    | 16, '0' :: x :: c :: rest =>
      if (x == 'x' || x == 'X') && isDigitIn 16 c then (16, c :: rest) else (16, unsigned)
    | base, _ => (base, unsigned)
  let ds := digits.takeWhile (isDigitIn base)
  if ds.isEmpty then ⟨0, true, false, t⟩
  else
    let n : Int := valueIn base ds
    let value := if isNegative then -n else n
    ⟨max smallest (min largest value), smallest ≤ value && value ≤ largest, true,
      digits.drop ds.length⟩

/-- The value of a numeral as a number without a sign, which wraps, and whether it fits. -/
def unsigned (t : Text) : Nat × Bool :=
  let signed := t.dropWhile isSpace
  let (isNegative, digits) := match signed with
    | '-' :: rest => (true, rest)
    | '+' :: rest => (false, rest)
    | rest => (false, rest)
  let (base, digits) := announcedBase digits
  let n := valueIn base (digits.takeWhile (isDigitIn base))
  if Text.wordLimit ≤ n then (Text.wordLimit - 1, false)
  else if isNegative then ((Text.wordLimit - n) % Text.wordLimit, true)
  else (n, true)

/-- The integer that a whole text is, blanks around it aside. Base 0 takes a blank text as zero. -/
def integer? (base : Nat) (t : Text) : Option Int :=
  let s := scan base t
  if !s.fits || (base ≠ 0 && !s.isNumber) then none
  else if (s.rest.dropWhile isSpace).isEmpty then some s.value
  else none

def count? (t : Text) : Option Nat := do
  let n ← integer? 10 t
  if 0 ≤ n && n ≤ 0x7FFFFFFF then some n.toNat else none

/-- Integers wrap around at 64 bits. -/
def wrap (i : Int) : Int := i.bmod 0x10000000000000000

def bits (i : Int) : Nat := (i % 0x10000000000000000).toNat

def ofInt (i : Int) : Text := (if i < 0 then ['-'] else []) ++ Text.ofNat i.natAbs

end Numeral
end Localize.Shell

/-! The fewest decimal digits that read back as a given double, and of those the nearest to it. -/

namespace Localize.Decimal

/-- A positive double is `mantissa · 2^exponent`. At a power of two the gap below is half the gap
above. -/
structure Binary where
  mantissa : Nat
  exponent : Int
  narrowBelow : Bool
  deriving DecidableEq, Repr

/-- `digits · 10^exponent`. -/
structure Scientific where
  digits : Nat
  exponent : Int
  deriving DecidableEq, Repr

/-- The bit above the fraction of a double, which is not written. -/
def hiddenBit : Nat := 0x10000000000000

/-- The absolute value of the double with these bits, if it is finite and not zero. -/
def Binary.ofBits? (bits : UInt64) : Option Binary :=
  let fraction : Nat := bits.toNat % hiddenBit
  let biased : Nat := bits.toNat / hiddenBit % 2048
  if biased = 2047 then none
  else if biased = 0 then
    if fraction = 0 then none else some ⟨fraction, -1074, false⟩
  else some ⟨hiddenBit + fraction, (biased : Int) - 1075, fraction = 0 && biased != 1⟩

structure Ratio where
  num : Nat
  den : Nat

def Ratio.scale (r : Ratio) (base : Nat) (e : Int) : Ratio :=
  if 0 ≤ e then ⟨r.num * base.pow e.natAbs, r.den⟩ else ⟨r.num, r.den * base.pow e.natAbs⟩

def Ratio.le (r s : Ratio) : Bool := r.num * s.den ≤ s.num * r.den

def Ratio.lt (r s : Ratio) : Bool := r.num * s.den < s.num * r.den

/-- The number of digits of the integral part, or minus the number of zeros behind the point. -/
def Ratio.magnitude (r : Ratio) : Int :=
  if r.den ≤ r.num then (Nat.toDigits 10 (r.num / r.den)).length
  else
    let zeros := (List.range 400).takeWhile fun j => r.num * Nat.pow 10 (j + 1) < r.den
    Int.negOfNat zeros.length

namespace Binary

/-- The value, and the ends of the interval that rounds to it, in quarters of the last place. -/
def quarters (b : Binary) (offset : Int) : Ratio :=
  Ratio.scale ⟨((4 * b.mantissa : Nat) + offset).toNat, 1⟩ 2 (b.exponent - 2)

/-- A number that rounds to the double. The ends do where the mantissa is even. -/
def holds (b : Binary) (r : Ratio) : Bool :=
  let low := b.quarters (if b.narrowBelow then -1 else -2)
  let high := b.quarters 2
  if b.mantissa % 2 = 0 then low.le r && r.le high else low.lt r && r.lt high

/-- The nearer of the value's two neighbours with `count` digits, of those that read back. -/
def withDigits? (b : Binary) (count : Nat) : Option Scientific :=
  let value := b.quarters 0
  let e := value.magnitude - count
  let onGrid := value.scale 10 (-e)
  let down := onGrid.num / onGrid.den
  let back (d : Nat) : Bool := b.holds (Ratio.scale ⟨d, 1⟩ 10 e)
  match back down, back (down + 1) with
  | true, false => some ⟨down, e⟩
  | false, true => some ⟨down + 1, e⟩
  | false, false => none
  | true, true =>
    let twice := 2 * (onGrid.num % onGrid.den)
    if twice < onGrid.den || (twice = onGrid.den && down % 2 = 0) then some ⟨down, e⟩
    else some ⟨down + 1, e⟩

/-- Seventeen digits are always enough. -/
def shortest (b : Binary) : Scientific :=
  ((List.range 17).findSome? fun n => b.withDigits? (n + 1)).getD ⟨b.mantissa, 0⟩

end Binary
end Localize.Decimal

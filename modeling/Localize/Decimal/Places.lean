import Localize.Decimal.Shortest

/-! Numbers in decimal with a given number of places. Of two neighbours that are as near, the even
one is taken. -/

namespace Localize.Decimal

def Ratio.rounded (r : Ratio) : Nat :=
  let down := r.num / r.den
  let twice := 2 * (r.num % r.den)
  if twice < r.den || (twice = r.den && down % 2 = 0) then down else down + 1

/-- The value of a double without its sign; zero has no binary form. -/
def Binary.ratio : Option Binary → Ratio
  | some b => Ratio.scale ⟨b.mantissa, 1⟩ 2 b.exponent
  | none => ⟨0, 1⟩

def Ratio.fixed (r : Ratio) (places : Nat) : List Char × List Char :=
  let ds := Nat.toDigits 10 (r.scale 10 places).rounded
  let ds := List.replicate (places + 1 - ds.length) '0' ++ ds
  (ds.take (ds.length - places), ds.drop (ds.length - places))

/-- The digits of a number with one digit before the point, and its exponent. -/
def Ratio.scientific (r : Ratio) (places : Nat) : List Char × Int :=
  if r.num = 0 then (List.replicate (places + 1) '0', 0)
  else
    let e := r.magnitude - 1
    let ds := Nat.toDigits 10 (r.scale 10 ((places : Int) - e)).rounded
    if places + 1 < ds.length then (ds.take (places + 1), e + 1) else (ds, e)

end Localize.Decimal

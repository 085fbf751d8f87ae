import Localize.Decimal.Shortest
import Localize.Text

/-! How a double is written: the fewest digits that read back, with a point where its place lies
within sixteen digits before or five zeros behind it, and with an exponent otherwise. -/

namespace Localize.Json

def leastPoint : Int := -4

def greatestPoint : Int := 16

def zeros (n : Nat) : Text := List.replicate n '0'

/-- The exponent always has a sign. -/
def exponentText (e : Int) : Text := 'e' :: (if e < 0 then '-' else '+') :: Text.ofNat e.natAbs

def dropZeros (ds : Text) : Text := (ds.reverse.dropWhile (· == '0')).reverse

def Scientific.text (s : Decimal.Scientific) : Text :=
  let all := Text.ofNat s.digits
  let ds := dropZeros all
  let point : Int := all.length + s.exponent
  if point < leastPoint || greatestPoint < point then
    match ds with
    | [d] => d :: exponentText (point - 1)
    | d :: ds => d :: '.' :: ds ++ exponentText (point - 1)
    | [] => []
  else if point ≤ 0 then '0' :: '.' :: zeros point.natAbs ++ ds
  else
    let n := point.natAbs
    let behind := ds.drop n
    ds.take n ++ zeros (n - ds.length) ++ '.' :: if behind = [] then ['0'] else behind

def doubleText (bits : UInt64) : Text :=
  let sign : Text := if bits.toNat < 0x8000000000000000 then [] else ['-']
  sign ++ match Decimal.Binary.ofBits? bits with
    | some b => Scientific.text b.shortest
    | none => ['0', '.', '0']

end Localize.Json

/-! Text is a list of characters: white space, trimming, decimal numerals, byte counts. -/

namespace Localize

abbrev Text := List Char

namespace Text

/-- The characters with the Unicode property `White_Space`. -/
def isBlank (c : Char) : Bool :=
  let n := c.toNat
  (9 ≤ n && n ≤ 13) || n == 0x20 || n == 0x85 || n == 0xA0 || n == 0x1680 ||
    (0x2000 ≤ n && n ≤ 0x200A) || n == 0x2028 || n == 0x2029 || n == 0x202F || n == 0x205F ||
    n == 0x3000

def trimStart (t : Text) : Text := t.dropWhile isBlank

def trimEnd (t : Text) : Text := (t.reverse.dropWhile isBlank).reverse

def trim (t : Text) : Text := trimEnd (trimStart t)

def isAllBlank (t : Text) : Bool := t.all isBlank

/-- The number of bytes of the text in UTF-8. -/
def byteSize (t : Text) : Nat := t.foldr (fun c n => c.utf8Size + n) 0

def isDigit (c : Char) : Bool := '0' ≤ c && c ≤ '9'

def isLetter (c : Char) : Bool := ('a' ≤ c && c ≤ 'z') || ('A' ≤ c && c ≤ 'Z')

def digitValue (c : Char) : Nat := c.toNat - '0'.toNat

def natValue (ds : Text) : Nat := ds.foldl (fun n d => 10 * n + digitValue d) 0

def ofNat (n : Nat) : Text := Nat.toDigits 10 n

/-- Numbers are held in 64 bits. -/
def wordLimit : Nat := 0x10000000000000000

/-- Reads a run of decimal digits, if it is one and stands for a number below `wordLimit`. -/
def natValue? (ds : Text) : Option Nat :=
  if ds ≠ [] && ds.all isDigit && natValue ds < wordLimit then some (natValue ds) else none

/-- `n` in lower-case hexadecimal, with at least `width` digits. -/
def hex (width n : Nat) : Text :=
  let ds := Nat.toDigits 16 n
  List.replicate (width - ds.length) '0' ++ ds

/-- `ts` with `sep` between neighbours. -/
def joined (sep : Text) (ts : List Text) : Text := sep.intercalate ts

end Text
end Localize

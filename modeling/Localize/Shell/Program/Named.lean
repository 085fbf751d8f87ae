import Localize.Text

/-! File names in complaints: as they are if a shell would read them as one plain word, and quoted
for a shell otherwise. -/

namespace Localize.Shell.Program

def controlLetter? (c : Char) : Option Char :=
  match c with
  | '\x07' => some 'a'
  | '\x08' => some 'b'
  | '\x0c' => some 'f'
  | '\n' => some 'n'
  | '\r' => some 'r'
  | '\t' => some 't'
  | '\x0b' => some 'v'
  | _ => none

def isPrintable (c : Char) : Bool := ' ' ≤ c && c ≤ '~'

def octalEscape (c : Char) : Text :=
  let n := c.toNat
  [n / 64 % 8, n / 8 % 8, n % 8].map fun d => Char.ofNat ('0'.toNat + d)

def isActive (isFirst isOnly : Bool) (c : Char) : Bool :=
  if c = '\x7b' || c = '\x7d' then isOnly
  else if c = '#' || c = '~' then isFirst
  else " !\"$&()*;<=>?[^`|\\':".toList.contains c

def isPlainInQuotes (isFirst isOnly : Bool) (c : Char) : Bool :=
  if c = '\x7b' || c = '\x7d' then isOnly
  else if c = '#' || c = '~' then isFirst
  else isPrintable c && !"!\"$&()*;<=>?[^`|\\".toList.contains c

def quotedRest (escaping : Bool) : Text → Text
  | [] => ['\'']
  | c :: cs =>
    if isPrintable c then
      let back : Text := if escaping then ['\'', '\''] else []
      if c = '\'' then back ++ "'\\''".toList ++ quotedRest false cs
      else back ++ c :: quotedRest false cs
    else
      let opening : Text := if escaping then [] else "'$'".toList
      let escape := match controlLetter? c with
        | some letter => [letter]
        | none => octalEscape c
      opening ++ '\\' :: escape ++ quotedRest true cs

def named (name : Text) : Text :=
  let isOnly := name.length = 1
  let indexed := name.zipIdx
  if name ≠ [] && indexed.all fun (c, i) => isPrintable c && !isActive (i = 0) isOnly c then name
  else if name.contains '\'' && indexed.all fun (c, i) => isPlainInQuotes (i = 0) isOnly c then
    '"' :: name ++ ['"']
  else '\'' :: quotedRest false name

end Localize.Shell.Program

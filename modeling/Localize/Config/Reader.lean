import Localize.Config.Field
import Localize.Json.Reader

/-! Reading a configuration file: an object with any of the fields, or a list of their values in
order. Absent fields take their defaults, and unknown keys are passed over. -/

namespace Localize.Config

open Json

/-- What stands at the start of `t`, where something else was wanted. A scalar counts as read, an
opening bracket does not. -/
def mismatch (wanted : Text) (t : Text) : Fault :=
  let found (r : Except Fault (Found × Text)) : Fault :=
    match r with
    | .error f => f
    | .ok (found, rest) => .before (.wrongType found wanted) rest
  let number (negative : Bool) (t : Text) : Fault :=
    found ((numeral negative t).map fun (n, rest) =>
      (match n with
        | .natural n => .natural n
        | .negative n => .negative n
        | .double bits => .double (doubleText bits), rest))
  match t with
  | [] => ⟨.endInValue, 0⟩
  | 'n' :: rest => found ((restOfWord ['u', 'l', 'l'] rest).map (Found.null, ·))
  | 't' :: rest => found ((restOfWord ['r', 'u', 'e'] rest).map (Found.bool true, ·))
  | 'f' :: rest => found ((restOfWord ['a', 'l', 's', 'e'] rest).map (Found.bool false, ·))
  | '-' :: rest => number true rest
  | '"' :: rest => found ((stringBody rest).map fun (s, rest) => (.string s, rest))
  | '[' :: _ => .before (.wrongType .sequence wanted) t
  | '{' :: _ => .before (.wrongType .map wanted) t
  | c :: _ => if Text.isDigit c then number false t else .onByte .expectedValue t

def readText (t : Text) : Except Fault (Text × Text) :=
  match skipBlanks t with
  | '"' :: rest => stringBody rest
  | t => .error (mismatch "a string".toList t)

def readTexts (t : Text) : Except Fault (List Text × Text) :=
  match skipBlanks t with
  | '[' :: rest => items readText (rest.length + 1) true rest
  | t => .error (mismatch "a sequence".toList t)

def naturalName : Text := "usize".toList

def readNatural (t : Text) : Except Fault (Nat × Text) :=
  let t := skipBlanks t
  let ofNumber (r : Except Fault (JsonNumber × Text)) : Except Fault (Nat × Text) := do
    match ← r with
    | (.natural n, rest) => return (n, rest)
    | (.negative n, rest) => throw (.before (.wrongValue (.negative n) naturalName) rest)
    | (.double bits, rest) =>
      throw (.before (.wrongType (.double (doubleText bits)) naturalName) rest)
  match t with
  | '-' :: rest => ofNumber (numeral true rest)
  | t => if startsWithDigit t then ofNumber (numeral false t) else .error (mismatch naturalName t)

def Field.read (f : Field) (c : Config) (t : Text) : Except Fault (Config × Text) :=
  match f with
  | .messagesRoot => (readText t).map fun (v, rest) => ({ c with messagesRoot := v }, rest)
  | .primaryLocale => (readText t).map fun (v, rest) => ({ c with primaryLocale := v }, rest)
  | .sourceRoot => (readText t).map fun (v, rest) => ({ c with sourceRoot := v }, rest)
  | .extensions => (readTexts t).map fun (v, rest) => ({ c with extensions := v }, rest)
  | .lintCommand => (readTexts t).map fun (v, rest) => ({ c with lintCommand := v }, rest)
  | .issueMarker => (readText t).map fun (v, rest) => ({ c with issueMarker := v }, rest)
  | .hookName => (readText t).map fun (v, rest) => ({ c with hookName := v }, rest)
  | .hookModule => (readText t).map fun (v, rest) => ({ c with hookModule := v }, rest)
  | .translateFn => (readText t).map fun (v, rest) => ({ c with translateFn := v }, rest)
  | .directives => (readTexts t).map fun (v, rest) => ({ c with directives := v }, rest)
  | .searchRadius => (readNatural t).map fun (v, rest) => ({ c with searchRadius := v }, rest)

/-- A field that is met again is a fault, noticed in front of its value, or behind the brace that
closes the object instead. -/
def duplicate (f : Field) (t : Text) : Fault :=
  let rest := match skipBlanks t with
    | '}' :: rest => rest
    | rest => rest
  .before (.duplicateField f.key) rest

/-- The entries of the object, with the fields that were met. -/
def readEntries : Nat → Bool → List Field → Config → Text → Except Fault (Config × Text)
  | 0, _, _, _, t => .error (.before .endInObject t)
  | n + 1, first, met, c, t => do
    let (more, t) ← nextKey first t
    if more then
      let (key, t) ← stringBody t
      match Field.ofKey? key with
      | none => readEntries n false met c (← skipValue (← colon t))
      | some f =>
        if f ∈ met then throw (duplicate f t)
        let (c, t) ← f.read c (← colon t)
        readEntries n false (f :: met) c t
    else return (c, t.drop 1)

/-- The end of a list whose values are all known. -/
def closeList (t : Text) : Except Fault Text :=
  match skipBlanks t with
  | [] => .error ⟨.endInList, 0⟩
  | ']' :: rest => .ok rest
  | ',' :: rest =>
    match skipBlanks rest with
    | ']' :: rest => .error (.onByte .trailingComma (']' :: rest))
    | rest => .error (.onByte .trailingCharacters rest)
  | t => .error (.onByte .trailingCharacters t)

def readList : List Field → Bool → Config → Text → Except Fault (Config × Text)
  | [], _, c, t => (closeList t).map (c, ·)
  | f :: fs, first, c, t => do
    let (more, t) ← nextItem first t
    if more then
      let (c, t) ← f.read c t
      readList fs false c t
    else return (c, t.drop 1)

def readConfig (t : Text) : Except Fault (Config × Text) :=
  match skipBlanks t with
  | '{' :: rest => readEntries (rest.length + 1) true [] {} rest
  | '[' :: rest => readList Field.all true {} rest
  | t => .error (mismatch "struct Config".toList t)

def parse (t : Text) : Except Json.Error Config := Json.whole readConfig t

end Localize.Config

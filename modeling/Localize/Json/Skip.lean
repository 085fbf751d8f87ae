import Localize.Json.Numeral

/-! Passing over a value that does not matter. Nesting is not limited. -/

namespace Localize.Json

def isJsonBlank (c : Char) : Bool := c == ' ' || c == '\n' || c == '\t' || c == '\r'

def skipBlanks (t : Text) : Text := t.dropWhile isJsonBlank

def restOfWord (word : Text) (t : Text) : Except Fault Text :=
  match word, t with
  | [], t => .ok t
  | _ :: _, [] => .error ⟨.endInValue, 0⟩
  | w :: ws, c :: cs => if w = c then restOfWord ws cs else .error (.onByte .expectedWord (c :: cs))

inductive Bracket where
  | list
  | object
  deriving DecidableEq, Repr

def Bracket.close : Bracket → Char
  | .list => ']'
  | .object => '}'

def Bracket.endCause : Bracket → Cause
  | .list => .endInList
  | .object => .endInObject

def Bracket.wrongCause : Bracket → Cause
  | .list => .expectedListEnd
  | .object => .expectedObjectEnd

def skipKey (b : Bracket) (t : Text) : Except Fault Text :=
  match b with
  | .list => .ok t
  | .object =>
    match skipBlanks t with
    | [] => .error ⟨.endInObject, 0⟩
    | '"' :: rest =>
      match skipString rest with
      | .error f => .error f
      | .ok rest =>
        match skipBlanks rest with
        | [] => .error ⟨.endInObject, 0⟩
        | ':' :: rest => .ok rest
        | t => .error (.onByte .expectedColon t)
    | t => .error (.onByte .keyNotString t)

mutual

/-- Passes over a value inside the brackets that are still open, and over their ends. -/
def skipNested : Nat → List Bracket → Text → Except Fault Text
  | 0, _, t => .error (.before .tooDeep t)
  | n + 1, opened, t =>
    let scalar (rest : Except Fault Text) : Except Fault Text :=
      match rest with
      | .error f => .error f
      | .ok rest => skipAfter n opened true rest
    match skipBlanks t with
    | [] => .error ⟨.endInValue, 0⟩
    | 'n' :: rest => scalar (restOfWord ['u', 'l', 'l'] rest)
    | 't' :: rest => scalar (restOfWord ['r', 'u', 'e'] rest)
    | 'f' :: rest => scalar (restOfWord ['a', 'l', 's', 'e'] rest)
    | '-' :: rest => scalar (skipNumeral rest)
    | '"' :: rest => scalar (skipString rest)
    | '[' :: rest => skipAfter n (.list :: opened) false rest
    | '{' :: rest => skipAfter n (.object :: opened) false rest
    | c :: rest =>
      if Text.isDigit c then scalar (skipNumeral (c :: rest))
      else .error (.onByte .expectedValue (c :: rest))

/-- After a value, or after an opening bracket, which no comma may follow. -/
def skipAfter : Nat → List Bracket → Bool → Text → Except Fault Text
  | 0, _, _, t => .error (.before .tooDeep t)
  | _ + 1, [], _, t => .ok t
  | n + 1, b :: opened, afterValue, t =>
    let next (t : Text) : Except Fault Text :=
      match skipKey b t with
      | .error f => .error f
      | .ok t => skipNested n (b :: opened) t
    match skipBlanks t with
    | [] => .error ⟨b.endCause, 0⟩
    | c :: rest =>
      if c = ',' && afterValue then next rest
      else if c = b.close then skipAfter n opened true rest
      else if afterValue then .error (.onByte b.wrongCause (c :: rest))
      else next (c :: rest)

end

/-- Each step reads a character, or follows one that did. -/
def skipValue (t : Text) : Except Fault Text := skipNested (2 * t.length + 2) [] t

end Localize.Json

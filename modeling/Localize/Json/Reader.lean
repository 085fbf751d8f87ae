import Localize.Json.Skip

/-! Reading a JSON text into a value. -/

namespace Localize.Json

/-- Whether another item of a list follows, and what is left before it or before the closing
bracket. -/
def nextItem (first : Bool) (t : Text) : Except Fault (Bool × Text) :=
  match skipBlanks t with
  | [] => .error ⟨.endInList, 0⟩
  | c :: rest =>
    if c = ']' then .ok (false, c :: rest)
    else if first then .ok (true, c :: rest)
    else if c = ',' then
      match skipBlanks rest with
      | [] => .error ⟨.endInValue, 0⟩
      | d :: rest =>
        if d = ']' then .error (.onByte .trailingComma (d :: rest)) else .ok (true, d :: rest)
    else .error (.onByte .expectedListEnd (c :: rest))

/-- Whether another key of an object follows, and what is left behind its opening quote or before
the closing brace. -/
def nextKey (first : Bool) (t : Text) : Except Fault (Bool × Text) :=
  match skipBlanks t with
  | [] => .error ⟨.endInObject, 0⟩
  | c :: rest =>
    if c = '}' then .ok (false, c :: rest)
    else if first then
      if c = '"' then .ok (true, rest) else .error (.onByte .keyNotString (c :: rest))
    else if c = ',' then
      match skipBlanks rest with
      | [] => .error ⟨.endInValue, 0⟩
      | d :: rest =>
        if d = '"' then .ok (true, rest)
        else if d = '}' then .error (.onByte .trailingComma (d :: rest))
        else .error (.onByte .keyNotString (d :: rest))
    else .error (.onByte .expectedObjectEnd (c :: rest))

def colon (t : Text) : Except Fault Text :=
  match skipBlanks t with
  | [] => .error ⟨.endInObject, 0⟩
  | c :: rest => if c = ':' then .ok rest else .error (.onByte .expectedColon (c :: rest))

/-- The items of a list after its opening bracket, and the rest after the closing one. -/
def items {α : Type} (item : Text → Read α) :
    Nat → Bool → Text → Except Fault (List α × Text)
  | 0, _, t => .error (.before .endInList t)
  | n + 1, first, t => do
    let (more, t) ← nextItem first t
    if more then
      let (a, t) ← item t
      let (as, t) ← items item n false t
      return (a :: as, t)
    else return ([], t.drop 1)

def entries {α : Type} (value : Text → Read α) :
    Nat → Bool → Text → Except Fault (List (Text × α) × Text)
  | 0, _, t => .error (.before .endInObject t)
  | n + 1, first, t => do
    let (more, t) ← nextKey first t
    if more then
      let (key, t) ← stringBody t
      let (a, t) ← value (← colon t)
      let (as, t) ← entries value n false t
      return ((key, a) :: as, t)
    else return ([], t.drop 1)

/-- Brackets may be open at most this many deep. -/
def depthLimit : Nat := 127

/-- A value, with at most `depth` brackets open around its parts. -/
def value : Nat → Text → Read Json
  | depth, t =>
    let t := skipBlanks t
    match t with
    | [] => .error ⟨.endInValue, 0⟩
    | 'n' :: rest => (restOfWord ['u', 'l', 'l'] rest).map (Json.null, ·)
    | 't' :: rest => (restOfWord ['r', 'u', 'e'] rest).map (Json.bool true, ·)
    | 'f' :: rest => (restOfWord ['a', 'l', 's', 'e'] rest).map (Json.bool false, ·)
    | '-' :: rest => (numeral true rest).map fun (n, rest) => (.number n, rest)
    | '"' :: rest => (stringBody rest).map fun (s, rest) => (.string s, rest)
    | '[' :: rest =>
      match depth with
      | 0 => .error (.onByte .tooDeep t)
      | d + 1 =>
        (items (value d) (rest.length + 1) true rest).map fun (as, rest) => (.array as, rest)
    | '{' :: rest =>
      match depth with
      | 0 => .error (.onByte .tooDeep t)
      | d + 1 =>
        (entries (value d) (rest.length + 1) true rest).map fun (as, rest) =>
          (.object (ofEntries as), rest)
    | c :: _ =>
      if Text.isDigit c then (numeral false t).map fun (n, rest) => (.number n, rest)
      else .error (.onByte .expectedValue t)

def whole {α : Type} (read : Text → Read α) (t : Text) : Except Error α :=
  let result : Except Fault α := do
    let (a, rest) ← read t
    match skipBlanks rest with
    | [] => return a
    | rest => throw (.onByte .trailingCharacters rest)
  result.mapError (Error.ofFault t)

def parse (t : Text) : Except Error Json := whole (value depthLimit) t

end Localize.Json

import Localize.Shell.Machine

/-! The value of an arithmetic expression. Parts whose value does not matter are read, but neither
computed nor assigned. -/

namespace Localize.Shell.Arithmetic

inductive Token where
  | number (n : Int)
  | name (t : Text)
  | sign (t : Text)
  deriving DecidableEq

/-- The signs, longer ones before those that they begin with. -/
def signs : List Text :=
  ["<<=", ">>=", "<<", ">>", "<=", ">=", "==", "!=", "&&", "||", "*=", "/=", "%=", "+=", "-=", "&=",
    "^=", "|=", "<", ">", "=", "!", "&", "|", "*", "/", "%", "+", "-", "~", "^", "?", ":", "(",
    ")"].map String.toList

/-- The tokens of an expression. A character that begins none is a sign that nothing expects. -/
def tokens (n : Nat) (t : Text) : List Token :=
  match n, t with
  | 0, _ => []
  | _, [] => []
  | n + 1, c :: cs =>
    if c = ' ' || c = '\t' || c = '\n' then tokens n cs
    else if Text.isDigit c then
      let s := Numeral.scan 0 t
      .number s.value :: tokens n s.rest
    else if isNameStart c then
      .name (t.takeWhile isNameChar) :: tokens n (t.dropWhile isNameChar)
    else match signs.find? (·.isPrefixOf t) with
      | some s => .sign s :: tokens n (t.drop s.length)
      | none => [.sign [c]]

def levels : List (List Text) :=
  [["*", "/", "%"], ["+", "-"], ["<<", ">>"], ["<", "<=", ">", ">="], ["==", "!="], ["&"], ["^"],
    ["|"]].map (·.map String.toList)

def loosest : Nat := levels.length

def operator? : List Token → Option (Text × Nat)
  | .sign s :: _ => (levels.findIdx? (·.contains s)).map (s, ·)
  | _ => none

def assigning? (s : Text) : Option (Option Text) :=
  if s = ['='] then some none
  else if s.getLast? = some '=' && (levels.take 3 ++ levels.drop 5).any (·.contains s.dropLast) then
    some (some s.dropLast)
  else none

inductive Cause where
  | primary
  | parenthesis
  | colon
  | ending
  | zero

def Cause.message : Cause → Text
  | .primary => "expecting primary".toList
  | .parenthesis => "expecting ')'".toList
  | .colon => "expecting ':'".toList
  | .ending => "expecting EOF".toList
  | .zero => "division by zero".toList

def fail {α : Type} (source : Text) (cause : Cause) : Act α :=
  Act.fail ("arithmetic expression: ".toList ++ cause.message ++ ": \"".toList ++ source ++ ['"'])

def ofBool (b : Bool) : Int := if b then 1 else 0

def bitwise (f : Nat → Nat → Nat) (a b : Int) : Int :=
  Numeral.wrap (f (Numeral.bits a) (Numeral.bits b))

/-- Shifts count modulo 64. -/
def shiftCount (b : Int) : Nat := (b % 64).toNat

def apply (source : Text) (op : Text) (a b : Int) : Act Int :=
  match String.ofList op with
  | "*" => pure (Numeral.wrap (a * b))
  | "/" => if b = 0 then fail source .zero else pure (Numeral.wrap (a.tdiv b))
  | "%" => if b = 0 then fail source .zero else pure (a.tmod b)
  | "+" => pure (Numeral.wrap (a + b))
  | "-" => pure (Numeral.wrap (a - b))
  | "<<" => pure (Numeral.wrap (a * Int.pow 2 (shiftCount b)))
  | ">>" => pure (a.fdiv (Int.pow 2 (shiftCount b)))
  | "<" => pure (ofBool (a < b))
  | "<=" => pure (ofBool (a ≤ b))
  | ">" => pure (ofBool (b < a))
  | ">=" => pure (ofBool (b ≤ a))
  | "==" => pure (ofBool (a = b))
  | "!=" => pure (ofBool (a ≠ b))
  | "&" => pure (bitwise (· &&& ·) a b)
  | "^" => pure (bitwise (· ^^^ ·) a b)
  | _ => pure (bitwise (· ||| ·) a b)

/-- The number that a variable holds; an unset one holds zero. -/
def valueOf (name : Text) : Act Int := do
  let t := ((← get).value? name).getD []
  match Numeral.integer? 0 t with
  | some n => pure n
  | none => Act.illegalNumber t

mutual

def assignment (n : Nat) (source : Text) (skipped : Bool) (ts : List Token) :
    Act (Int × List Token) :=
  match n with
  | 0 => fail source .primary
  | n + 1 =>
    match ts with
    | .name x :: .sign s :: rest =>
      match assigning? s with
      | some op => do
        let (b, rest) ← assignment n source skipped rest
        if skipped then return (b, rest)
        let value ← match op with
          | none => pure b
          | some op => do apply source op (← valueOf x) b
        Act.assign x (Numeral.ofInt value)
        return (value, rest)
      | none => conditional n source skipped ts
    | ts => conditional n source skipped ts

def conditional (n : Nat) (source : Text) (skipped : Bool) (ts : List Token) :
    Act (Int × List Token) :=
  match n with
  | 0 => fail source .primary
  | n + 1 => do
    let (a, ts) ← either n source skipped ts
    match ts with
    | .sign ['?'] :: ts =>
      let (b, ts) ← assignment n source (skipped || a == 0) ts
      match ts with
      | .sign [':'] :: ts =>
        let (c, ts) ← conditional n source (skipped || a != 0) ts
        return (if a = 0 then c else b, ts)
      | _ => fail source .colon
    | ts => return (a, ts)

def either (n : Nat) (source : Text) (skipped : Bool) (ts : List Token) :
    Act (Int × List Token) :=
  match n with
  | 0 => fail source .primary
  | n + 1 => do
    let (a, ts) ← both n source skipped ts
    match ts with
    | .sign ['|', '|'] :: ts =>
      let (b, ts) ← either n source (skipped || a != 0) ts
      return (ofBool (a != 0 || b != 0), ts)
    | ts => return (a, ts)

def both (n : Nat) (source : Text) (skipped : Bool) (ts : List Token) : Act (Int × List Token) :=
  match n with
  | 0 => fail source .primary
  | n + 1 => do
    let (a, ts) ← primary n source skipped ts
    let (a, ts) ← operations n source skipped a loosest ts
    match ts with
    | .sign ['&', '&'] :: ts =>
      let (b, ts) ← both n source (skipped || a == 0) ts
      return (ofBool (a != 0 && b != 0), ts)
    | ts => return (a, ts)

/-- Applies the operators that follow `a` and bind more than `limit`. -/
def operations (n : Nat) (source : Text) (skipped : Bool) (a : Int) (limit : Nat)
    (ts : List Token) : Act (Int × List Token) :=
  match n with
  | 0 => fail source .primary
  | n + 1 =>
    match operator? ts with
    | none => return (a, ts)
    | some (op, level) =>
      if limit ≤ level then return (a, ts)
      else do
        let (b, ts) ← primary n source skipped (ts.drop 1)
        let (b, ts) ← operations n source skipped b level ts
        let c ← if skipped then pure b else apply source op a b
        operations n source skipped c limit ts

def primary (n : Nat) (source : Text) (skipped : Bool) (ts : List Token) :
    Act (Int × List Token) :=
  match n with
  | 0 => fail source .primary
  | n + 1 =>
    match ts with
    | .number k :: ts => return (k, ts)
    | .name x :: ts => do
      let k ← if skipped then pure 0 else valueOf x
      return (k, ts)
    | .sign ['('] :: ts => do
      let (k, ts) ← assignment n source skipped ts
      match ts with
      | .sign [')'] :: ts => return (k, ts)
      | _ => fail source .parenthesis
    | .sign ['+'] :: ts => primary n source skipped ts
    | .sign ['-'] :: ts => do
      let (k, ts) ← primary n source skipped ts
      return (Numeral.wrap (-k), ts)
    | .sign ['!'] :: ts => do
      let (k, ts) ← primary n source skipped ts
      return (ofBool (k == 0), ts)
    | .sign ['~'] :: ts => do
      let (k, ts) ← primary n source skipped ts
      return (-k - 1, ts)
    | _ => fail source .primary

end

def value (source : Text) : Act Int := do
  let ts := tokens source.length source
  match ← assignment (8 * (ts.length + 2)) source false ts with
  | (k, []) => return k
  | _ => fail source .ending

end Localize.Shell.Arithmetic

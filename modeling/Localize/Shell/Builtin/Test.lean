import Localize.Shell.Machine

/-! Conditions on texts, numbers and files, written as arguments. -/

namespace Localize.Shell.Builtin.Test

open Act

def unary : List Text :=
  ["-r", "-w", "-x", "-e", "-f", "-d", "-c", "-b", "-p", "-u", "-g", "-k", "-s", "-t", "-z", "-n",
    "-h", "-O", "-G", "-L", "-S"].map String.toList

def binary : List Text :=
  ["=", "!=", "<", ">", "-eq", "-ne", "-ge", "-gt", "-le", "-lt", "-nt", "-ot", "-ef"].map
    String.toList

inductive Role where
  | nothing
  | operand
  | unary
  | binary
  | negation
  | conjunction
  | disjunction
  | opening
  | closing
  deriving DecidableEq

/-- A unary operator is an operand where nothing, or only one argument and no operator, could follow
it. -/
def isOperand : List Text → Bool
  | [_] => true
  | [_, _] => false
  | _ :: t :: _ => binary.contains t
  | [] => false

def role (args : List Text) : Role :=
  match args with
  | [] => .nothing
  | t :: rest =>
    if unary.contains t then if isOperand args then .operand else .unary
    else if binary.contains t then .binary
    else if t = ['!'] then .negation
    else if t = "-a".toList then .conjunction
    else if t = "-o".toList then .disjunction
    else if t = ['('] then if rest.isEmpty then .operand else .opening
    else if t = [')'] then .closing
    else .operand

def number (t : Text) : Act Int :=
  match Numeral.integer? 10 t with
  | some n => pure n
  | none => illegalNumber t

def isLink (m : Machine) (name : Text) : Bool :=
  let p := m.fileAt name
  match p.parent?, p.components.getLast? with
  | some parent, some (.name last) =>
    match m.world.tree.find parent with
    | .ok (.present l .directory) =>
      match m.world.tree.node? (l ++ [last]) with
      | some (.link _) => true
      | _ => false
    | _ => false
  | _, _ => false

/-- Whether a file is as the letter says. Files may be read and written, and directories entered. -/
def isSuchFile (m : Machine) (letter : Char) (name : Text) : Bool :=
  if letter = 'h' || letter = 'L' then !name.isEmpty && isLink m name
  else if name = "/dev/null".toList then "erwcOG".toList.contains letter
  else match m.find name with
    | .ok (.present _ (.file bytes)) =>
      if letter = 's' then 0 < bytes.size else "erwfOG".toList.contains letter
    | .ok (.present _ .directory) => "erwxdsOG".toList.contains letter
    | _ => false

def areSame (m : Machine) (a b : Text) : Bool :=
  match m.find a, m.find b with
  | .ok (.present l _), .ok (.present l' _) => l == l'
  | _, _ => false

def holdsUnary (op operand : Text) : Act Bool := do
  if op = "-z".toList then return operand.isEmpty
  else if op = "-n".toList then return !operand.isEmpty
  else if op = "-t".toList then
    let _ ← number operand
    return false
  else return isSuchFile (← get) ((op.drop 1).headD ' ') operand

def holdsBinary (a op b : Text) : Act Bool := do
  match String.ofList op with
  | "=" => return a == b
  | "!=" => return a != b
  | "<" => return decide (a < b)
  | ">" => return decide (b < a)
  | "-nt" => return false
  | "-ot" => return false
  | "-ef" => return areSame (← get) a b
  | op =>
    let x ← number a
    let y ← number b
    match op with
    | "-eq" => return x == y
    | "-ne" => return x != y
    | "-ge" => return decide (y ≤ x)
    | "-gt" => return decide (y < x)
    | "-le" => return decide (x ≤ y)
    | _ => return decide (x < y)

def refuse {α : Type} (about : Text) (s : String) : Act α :=
  fail (if about.isEmpty then s.toList else about ++ ": ".toList ++ s.toList)

mutual

/-- Conditions of which one must hold. What is left begins with the last argument that was used. -/
def disjunction (n : Nat) (r : Role) (args : List Text) : Act (Bool × List Text) :=
  match n with
  | 0 => refuse [] "unexpected operator"
  | n + 1 => do
    let (a, args) ← conjunction n r args
    if role (args.drop 1) = .disjunction then
      let rest := args.drop 2
      let (b, args) ← disjunction n (role rest) rest
      return (a || b, args)
    else return (a, args)

def conjunction (n : Nat) (r : Role) (args : List Text) : Act (Bool × List Text) :=
  match n with
  | 0 => refuse [] "unexpected operator"
  | n + 1 => do
    let (a, args) ← negation n r args
    if role (args.drop 1) = .conjunction then
      let rest := args.drop 2
      let (b, args) ← conjunction n (role rest) rest
      return (a && b, args)
    else return (a, args)

def negation (n : Nat) (r : Role) (args : List Text) : Act (Bool × List Text) :=
  match n with
  | 0 => refuse [] "unexpected operator"
  | n + 1 => do
    if r = .negation then
      let rest := args.drop 1
      let r := role rest
      let (a, args) ← negation n r (if r = .nothing then args else rest)
      return (!a, args)
    else primary n r args

def primary (n : Nat) (r : Role) (args : List Text) : Act (Bool × List Text) :=
  match n with
  | 0 => refuse [] "unexpected operator"
  | n + 1 => do
    let rest := args.drop 1
    match r with
    | .nothing => return (false, args)
    | .opening =>
      if role rest = .closing then return (false, rest)
      else
        let (a, args) ← disjunction n (role rest) rest
        let rest := args.drop 1
        if role rest ≠ .closing then refuse [] "closing paren expected"
        return (a, rest)
    | .unary =>
      match rest with
      | [] => refuse (args.headD []) "argument expected"
      | operand :: _ => return (← holdsUnary (args.headD []) operand, rest)
    | _ =>
      if role rest = .binary then
        match args with
        | a :: op :: b :: more => return (← holdsBinary a op b, b :: more)
        | _ => refuse (rest.headD []) "argument expected"
      else return (!(args.headD []).isEmpty, args)

end

/-- The rules for three and four arguments come before the grammar: an operator in the middle, or
parentheses or a negation around the others. -/
def few (limit : Nat) (negated : Bool) (args : List Text) : Act (Bool × List Text) := do
  let plainly (r : Role) (args : List Text) : Act (Bool × List Text) := do
    let (holds, left) ← disjunction limit r args
    return (holds != negated, left)
  match args with
  | [] => plainly .nothing []
  | first :: rest =>
    let isFew := args.length = 3 || args.length = 4
    if args.length = 3 && binary.contains (rest.headD []) then plainly .operand args
    else if isFew && first = ['('] && args.getLast? = some [')'] then
      plainly (role rest.dropLast) rest.dropLast
    else if isFew && first = ['!'] then few limit true rest
    else plainly (role args) args

def evaluate (args : List Text) : Act Bool := do
  if args.isEmpty then return false
  let (holds, left) ← few (8 * (args.length + 2)) false args
  match left with
  | t :: _ :: _ => refuse t "unexpected operator"
  | _ => return holds

def status (holds : Bool) : Nat := if holds then 0 else 1

def test (args : List Text) : Act Nat := do return status (← evaluate args)

def bracket (args : List Text) : Act Nat := do
  if args.getLast?.bind List.head? = some ']' then return status (← evaluate args.dropLast)
  else fail "missing ]".toList

end Localize.Shell.Builtin.Test

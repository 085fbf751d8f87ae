import Localize.Shell.Builtin.Options
import Localize.Shell.Escape
import Localize.Shell.Format

/-! Printing arguments: one after another, or as a format asks. -/

namespace Localize.Shell.Builtin

open Act

def echo (args : List Text) : Act Nat := do
  let (args, ending) := match args with
    | ['-', 'n'] :: args => (args, [])
    | args => (args, ['\n'])
  let (t, stops) := Escape.expand (Text.joined [' '] args)
  print (if stops then t else t ++ ending)
  return 0

namespace Format

/-- How printing by a format goes on: what is left of the arguments, whether one was taken, and the
status. -/
structure Progress where
  arguments : List Text
  taken : Bool := false
  status : Nat := 0
  stopped : Bool := false

abbrev Printing := StateT Progress Act

def argument? : Printing (Option Text) := do
  let p ← get
  match p.arguments with
  | [] => return none
  | a :: rest =>
    set { p with arguments := rest, taken := true }
    return some a

def warn (t : Text) (s : String) : Printing Unit := do
  complain (t ++ s.toList)
  modify fun p => { p with status := 1 }

def check (t rest : Text) (isNumber fits : Bool) : Printing Unit := do
  if !rest.isEmpty then
    warn t (if isNumber then ": not completely converted" else ": expected numeric value")
  else if !fits then warn t ": Numerical result out of range"

def quotedCode? : Text → Option Nat
  | [q] => if q = '\'' || q = '"' then some 0 else none
  | q :: c :: _ => if q = '\'' || q = '"' then some c.toNat else none
  | [] => none

/-- The next argument as an integer, with limits as the directive needs. -/
def integer (isSigned : Bool) : Printing Int := do
  match ← argument? with
  | none => return 0
  | some t =>
    match quotedCode? t with
    | some n => return n
    | none =>
      let s := Numeral.scan 0 t
      if isSigned then
        check t s.rest s.isNumber s.fits
        return s.value
      else
        let (value, fits) := Numeral.unsigned t
        check t s.rest s.isNumber fits
        return value

def real : Printing Real := do
  match ← argument? with
  | none => return .finite false none
  | some t =>
    match quotedCode? t with
    | some n => return Real.ofFloat false (Float.ofNat n)
    | none =>
      match Real.scan t with
      | some s =>
        check t s.rest true s.fits
        return s.value
      | none =>
        check t t false true
        return .finite false none

def isFlag (c : Char) : Bool := "#-+ 0".toList.contains c

def directive (t : Text) : Printing (Directive × Text) := do
  let flags := t.takeWhile isFlag
  let d : Directive := {
    left := flags.contains '-'
    plus := flags.contains '+'
    space := flags.contains ' '
    alternate := flags.contains '#'
    zeros := flags.contains '0' }
  let t := t.drop flags.length
  let (d, t) ← match t with
    | '*' :: t => do
      let n ← integer true
      pure ({ d with left := d.left || n < 0, width := n.natAbs }, t)
    | t =>
      let ds := t.takeWhile Text.isDigit
      pure ({ d with width := Text.natValue ds }, t.drop ds.length)
  match t with
  | '.' :: '*' :: t =>
    let n ← integer true
    return ({ d with precision := if n < 0 then none else some n.toNat }, t)
  | '.' :: t =>
    let ds := t.takeWhile Text.isDigit
    return ({ d with precision := some (Text.natValue ds) }, t.drop ds.length)
  | t => return (d, t)

def convert (d : Directive) (letter : Char) (spelled : Text) : Printing Unit := do
  if letter = 's' then print (d.text ((← argument?).getD []))
  else if letter = 'b' then
    let (t, stops) := Escape.expand ((← argument?).getD [])
    print (d.text t)
    if stops then modify fun p => { p with stopped := true }
  else if letter = 'c' then
    print (d.pad [((← argument?).bind List.head?).getD '\x00'])
  else if letter = 'd' || letter = 'i' then print (d.signed (← integer true))
  else if letter = 'u' then
    let n ← integer false
    print (d.integer [] (d.digits 10 (Numeral.bits n)))
  else if letter = 'o' then print (d.octal (Numeral.bits (← integer false)))
  else if letter = 'x' then print (d.hexadecimal (Numeral.bits (← integer false)))
  else if letter = 'X' then print (Directive.upper (d.hexadecimal (Numeral.bits (← integer false))))
  else if "aAeEfFgG".toList.contains letter then print (d.real letter (← real))
  else (fail (spelled ++ ": invalid directive".toList) : Act Unit)

def pass (n : Nat) (t : Text) : Printing Unit :=
  match n, t with
  | 0, _ => return ()
  | _, [] => return ()
  | n + 1, '\\' :: rest => do
    let (c, rest) := Escape.character rest
    print [c]
    pass n rest
  | n + 1, '%' :: '%' :: rest => do
    print ['%']
    pass n rest
  | n + 1, '%' :: rest => do
    let (d, after) ← directive rest
    match after with
    | [] => (fail "missing format character".toList : Act Unit)
    | letter :: after' =>
      convert d letter ('%' :: rest.take (rest.length - after'.length))
      if !(← get).stopped then pass n after'
  | n + 1, c :: rest => do
    print [c]
    pass n rest

def passes (n : Nat) (t : Text) : Printing Unit :=
  match n with
  | 0 => return ()
  | n + 1 => do
    modify fun p => { p with taken := false }
    pass (t.length + 1) t
    let p ← get
    if p.taken && !p.arguments.isEmpty && !p.stopped then passes n t

end Format

def printf (args : List Text) : Act Nat := do
  let (_, args) ← parse {} args
  match args with
  | [] => fail "usage: printf format [arg ...]".toList
  | format :: args =>
    let (_, p) ← (Format.passes (args.length + 1) format).run { arguments := args }
    return p.status

end Localize.Shell.Builtin

import Localize.Shell.Arithmetic
import Localize.Shell.Fields

/-! What words expand to. How the script in a word runs is left to `run`, which gives what it
prints. -/

namespace Localize.Shell

open Act

/-- How a word is expanded: whether arguments stay apart, whether its own text is split as well, and
whether a tilde stands for a home directory behind each colon. -/
structure Manner where
  apart : Bool := false
  splits : Bool := false
  assigns : Bool := false

namespace Expansion

def tildeName? (assigns : Bool) : Word → Option Text
  | [] => some []
  | .plain c :: ps =>
    if c = '/' || (assigns && c = ':') then some []
    else (tildeName? assigns ps).map (c :: ·)
  | _ :: _ => none

def home? (m : Machine) (name : Text) : Option Text :=
  if name = [] then m.value? "HOME".toList
  else if name = "root".toList then some "/root".toList
  else none

def pieces (inQuotes : Bool) (t : Text) : List Piece :=
  if inQuotes then [.whole (Glyph.ofText true t)] else [.split (Glyph.ofText false t)]

def optionLetters : Text := "ubaCEVvxsnmiIfe".toList

def argumentDivider (m : Machine) (inQuotes apart : Bool) : Text :=
  match m.value? "IFS".toList with
  | none => [' ']
  | some separators => if apart && !inQuotes then [divider] else separators.take 1

/-- The value of a parameter. Arguments that stay apart have a divider between them. -/
def parameter? (m : Machine) (name : Text) (inQuotes apart : Bool) : Option Text :=
  match name with
  | ['$'] => some (Text.ofNat m.mainProcess)
  | ['?'] => some (Text.ofNat m.status)
  | ['#'] => some (Text.ofNat m.arguments.length)
  | ['!'] => m.background.map Text.ofNat
  | ['-'] => some (optionLetters.filter m.hasOption)
  | ['@'] =>
    let between := if inQuotes && apart then [divider] else argumentDivider m inQuotes apart
    some (Text.joined between m.arguments)
  | ['*'] => some (Text.joined (argumentDivider m inQuotes apart) m.arguments)
  | name =>
    if name.all Text.isDigit then
      match Text.natValue name with
      | 0 => some m.name
      | n + 1 => m.arguments[n]?
    else m.value? name

def valuePieces (m : Machine) (name : Text) (inQuotes apart : Bool) (value : Text) : List Piece :=
  if name = ['@'] && inQuotes then
    if m.arguments.isEmpty then []
    else if apart then [.arguments (Glyph.ofText true value)]
    else pieces true value
  else pieces inQuotes value

def trimmed (t : Trim) (p : Glob) (value : Text) : Text :=
  let upTo := List.range (value.length + 1)
  let kept (length : Nat) : Nat := value.length - length
  let isTaken (length : Nat) : Bool :=
    Glob.isMatch p (if t.atEnd then value.drop (kept length) else value.take length)
  match (if t.longest then upTo.reverse else upTo).find? isTaken with
  | some length => if t.atEnd then value.take (kept length) else value.drop length
  | none => value

def unset {α : Type} (name : Text) : Act α := failWith name ": parameter not set"

def assignParameter (name value : Text) : Act Unit :=
  if isName name then assign name value else failWith name ": bad variable name"

mutual

/-- The pieces of a word, of which the first `passed` parts belong to a tilde before them. -/
def word (run : Command → Act Text) (manner : Manner) (atTilde : Bool) (passed : Nat) :
    List Part → Act (List Piece)
  | [] => return []
  | p :: ps => do
    match passed with
    | k + 1 => word run manner false k ps
    | 0 =>
      let m ← get
      let home? := match p with
        | .plain '~' =>
          if atTilde then
            (tildeName? manner.assigns ps).bind fun name => (home? m name).map (name.length, ·)
          else none
        | _ => none
      match home? with
      | some (length, home) =>
        let more ← word run manner false length ps
        return pieces true home ++ more
      | none =>
        let first ← part run manner p
        let isColon := match p with
          | .plain ':' => true
          | _ => false
        let more ← word run manner (manner.assigns && isColon) 0 ps
        match p, ps, first, more with
        | .plain _, .plain _ :: _, [.split gs], .split gs' :: more =>
          return .split (gs ++ gs') :: more
        | _, _, first, more => return first ++ more

def part (run : Command → Act Text) (manner : Manner) : Part → Act (List Piece)
  | .plain c =>
    return if manner.splits then [.split [.char c false]] else [.whole [.char c false]]
  | .quoted c => return [.whole [.char c true]]
  | .mark => return [.whole [.mark]]
  | .parameter name inQuotes u => use run manner name inQuotes u
  | .output inQuotes script => do return pieces inQuotes (← run script)
  | .sum inQuotes expression => do
    let ps ← word run {} false 0 expression
    return pieces inQuotes (Numeral.ofInt (← Arithmetic.value (Piece.toText ps)))

def use (run : Command → Act Text) (manner : Manner) (name : Text) (inQuotes : Bool) :
    Use → Act (List Piece)
  | .value => do
    let m ← get
    match parameter? m name inQuotes manner.apart with
    | some value => return valuePieces m name inQuotes manner.apart value
    | none => if m.hasOption 'u' then unset name else return []
  | .length => do
    let m ← get
    match parameter? m name inQuotes manner.apart with
    | some value => return pieces inQuotes (Text.ofNat value.length)
    | none => if m.hasOption 'u' then unset name else return pieces inQuotes ['0']
  | .choose choice orEmpty substitute => do
    let m ← get
    let value := (parameter? m name inQuotes manner.apart).filter fun t => !(orEmpty && t.isEmpty)
    let inner : Manner := { manner with splits := !inQuotes }
    match choice, value with
    | .whenSet, some _ => word run inner true 0 substitute
    | .whenSet, none => return []
    | _, some value => return valuePieces m name inQuotes manner.apart value
    | .whenUnset, none => word run inner true 0 substitute
    | .assign, none =>
      let ps ← word run {} true 0 substitute
      assignParameter name (Piece.toText ps)
      return pieces inQuotes (Piece.toText ps)
    | .demand, none =>
      let ps ← word run {} true 0 substitute
      if substitute.isEmpty then
        fail (name ++ ": parameter not set".toList ++ (if orEmpty then " or null".toList else []))
      else fail (name ++ ": ".toList ++ Piece.toText ps)
  | .trim t pattern => do
    let m ← get
    match parameter? m name inQuotes manner.apart with
    | none => if m.hasOption 'u' then unset name else return []
    | some value =>
      let ps ← word run {} true 0 pattern
      let p := Glob.ofGlyphs (ps.flatMap Piece.glyphs)
      return valuePieces m name inQuotes manner.apart (trimmed t p value)
  | .invalid => fail "Bad substitution".toList

end

def text (run : Command → Act Text) (w : Word) : Act Text := do
  return Piece.toText (← word run {} true 0 w)

def document (run : Command → Act Text) (w : Word) : Act Text := do
  return Piece.toText (← word run {} false 0 w)

def assigned (run : Command → Act Text) (w : Word) : Act Text := do
  return Piece.toText (← word run { assigns := true } true 0 w)

def pattern (run : Command → Act Text) (w : Word) : Act Glob := do
  let ps ← word run {} true 0 w
  return Glob.ofGlyphs (ps.flatMap Piece.glyphs)

def fields (run : Command → Act Text) (w : Word) : Act (List Text) := do
  let ps ← word run { apart := true } true 0 w
  let m ← get
  return (Shell.fields m.separators none ps).flatMap fun f =>
    match if m.hasOption 'f' then [] else Glob.paths m.world.tree m.directory f with
    | [] => [Glyph.toText f]
    | paths => paths

end Expansion
end Localize.Shell

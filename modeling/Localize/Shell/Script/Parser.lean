import Localize.Shell.Script.Reader

/-! The grammar of scripts. A script is read one line of commands at a time, since what a line does
may change how the next one is read. Every step takes one from a limit that the length of the script
sets. -/

namespace Localize.Shell

open Reading

structure Place where
  inBraces : Bool := false
  document : Option Announced := none
  isDelimiter : Bool := false

inductive Quoting where
  | none
  | double
  | sum
  deriving DecidableEq

inductive Ending where
  | quote
  | brace
  | document
  deriving DecidableEq

/-- Which tokens are special: new lines are passed, reserved words are known, or the word ends a
document. -/
structure Expecting where
  lines : Bool := false
  reserved : Bool := false
  delimiter : Bool := false

namespace Expecting

def commandStart : Expecting := { reserved := true }

def anyLine : Expecting := { lines := true, reserved := true }

end Expecting

def specialBuiltins : List Text :=
  [".", ":", "break", "continue", "eval", "exec", "exit", "export", "local", "readonly", "return",
    "set", "shift", "trap", "unset"].map String.toList

def isMeta (c : Char) : Bool := "\n \t;&|<>()".toList.contains c

def escapedInQuotes (place : Place) (c : Char) : Word :=
  if c == '\\' || c == '`' || c == '$' || (c == '"' && (place.document.isNone || place.inBraces)) ||
    (c == '\x7d' && place.inBraces)
  then [.quoted c] else [.quoted '\\', .quoted c]

def Place.ended (place : Place) : Reading Bool :=
  match place.document with
  | some a => endsDocument a
  | none => pure false

def Place.unclosedQuote (place : Place) : Cause :=
  if place.document.isSome then .unclosedBrace else .unclosedQuote

/-- The text up to the closing backquote. Backslashes inside it are for the inner script, except in
front of what ends it or is an expansion. -/
def backquoted (inQuotes : Bool) : Nat → Reading Text
  | 0 => fail .tooDeep
  | n + 1 => do
    match ← peek with
    | none => fail .unclosedBackquote
    | some '`' =>
      skip
      return []
    | some '\\' =>
      skip
      match ← rawPeek with
      | none => fail .unclosedBackquote
      | some c =>
        skip
        let rest ← backquoted inQuotes n
        if c == '\\' || c == '`' || c == '$' || (inQuotes && c == '"') then return c :: rest
        else return '\\' :: c :: rest
    | some c =>
      skip
      return c :: (← backquoted inQuotes n)

def literalDocument (a : Announced) : Nat → Reading Text
  | 0 => fail .tooDeep
  | n + 1 => do
    if ← endsDocument a then return []
    let r ← get
    let line := r.rest.takeWhile (· != '\n')
    match r.rest.drop line.length with
    | [] =>
      set { r with rest := [] }
      return line
    | c :: rest =>
      set { r with rest, line := r.line + 1 }
      return line ++ c :: (← literalDocument a n)

def arrow (sign : Char) : Reading Arrow := do
  if sign = '>' then
    if ← accept '>' then return .to .append
    if ← accept '|' then return .to .clobber
    if ← accept '&' then return .to .copy
    return .to .output
  else
    if ← accept '<' then return .document (← accept '-')
    if ← accept '&' then return .to .copy
    if ← accept '>' then return .to .both
    return .to .input

def streamBefore? (w : Word) (sign : Char) : Option Nat :=
  match w with
  | [] => some (if sign = '>' then 1 else 0)
  | [.plain c] => if Text.isDigit c then some (Text.digitValue c) else none
  | _ => none

def Word.unquoted (w : Word) : Text :=
  w.filterMap fun p => match p with
    | .plain c => some c
    | .quoted c => some c
    | _ => none

/-- A quoted word that is nothing but the arguments is no field without any. -/
def markQuoted : Word → Word
  | [.parameter ['@'] q .value] => [.parameter ['@'] q .value]
  | w => .mark :: w

def Command.append : Command → Command → Command
  | .nothing, c => c
  | c, d => .sequence c d

mutual

/-- The parts of a word outside quotes, up to a character that ends it, or past the closing
brace. -/
def bareParts (n : Nat) (place : Place) : Reading Word :=
  match n with
  | 0 => fail .tooDeep
  | n + 1 => do
    match ← peek with
    | none => if place.inBraces then fail .unclosedBrace else return []
    | some '\'' =>
      skip
      match ← takeUntil? '\'' with
      | none => fail place.unclosedQuote
      | some t => return .mark :: (Word.ofQuoted t ++ (← bareParts n place))
    | some '"' =>
      skip
      let w ← doubleParts n .quote false place
      return markQuoted w ++ (← bareParts n place)
    | some '\\' =>
      skip
      match ← rawPeek with
      | none => return .quoted '\\' :: (← bareParts n place)
      | some c =>
        skip
        return .quoted c :: (← bareParts n place)
    | some '$' =>
      skip
      let w ← dollar n .none place
      return w ++ (← bareParts n place)
    | some '`' =>
      skip
      let w ← backquotes n .none place
      return w ++ (← bareParts n place)
    | some '\x7d' =>
      skip
      if place.inBraces then return [] else return .plain '\x7d' :: (← bareParts n place)
    | some '\n' =>
      if place.inBraces then
        skip
        if ← place.ended then fail .unclosedBrace
        return .plain '\n' :: (← bareParts n place)
      else return []
    | some c =>
      if isMeta c && !place.inBraces then return []
      else
        skip
        return .plain c :: (← bareParts n place)

/-- The parts of a text in double quotes. Behind a parameter, further quotes only shield braces. -/
def doubleParts (n : Nat) (ending : Ending) (shielded : Bool) (place : Place) : Reading Word :=
  match n with
  | 0 => fail .tooDeep
  | n + 1 => do
    match ← peek with
    | none =>
      match ending with
      | .document => return []
      | _ => fail place.unclosedQuote
    | some '"' =>
      skip
      match ending with
      | .quote => return []
      | .brace => doubleParts n ending (!shielded) place
      | .document => return .quoted '"' :: (← doubleParts n ending shielded place)
    | some '\\' =>
      skip
      match ← rawPeek with
      | none => return .quoted '\\' :: (← doubleParts n ending shielded place)
      | some c =>
        skip
        return escapedInQuotes place c ++ (← doubleParts n ending shielded place)
    | some '$' =>
      skip
      let w ← dollar n .double place
      return w ++ (← doubleParts n ending shielded place)
    | some '`' =>
      skip
      let w ← backquotes n .double place
      return w ++ (← doubleParts n ending shielded place)
    | some '\x7d' =>
      skip
      if ending = .brace && !shielded then return []
      else return .quoted '\x7d' :: (← doubleParts n ending shielded place)
    | some '\n' =>
      skip
      if ← place.ended then
        match ending with
        | .document => return [.quoted '\n']
        | _ => fail .unclosedBrace
      else return .quoted '\n' :: (← doubleParts n ending shielded place)
    | some c =>
      skip
      return .quoted c :: (← doubleParts n ending shielded place)

def sumParts (n : Nat) (depth : Nat) (place : Place) : Reading Word :=
  match n with
  | 0 => fail .tooDeep
  | n + 1 => do
    match ← peek with
    | none => fail .unclosedSum
    | some '(' =>
      skip
      return .quoted '(' :: (← sumParts n (depth + 1) place)
    | some ')' =>
      skip
      match depth with
      | 0 =>
        if ← accept ')' then return []
        else return .quoted ')' :: (← sumParts n 0 place)
      | depth + 1 => return .quoted ')' :: (← sumParts n depth place)
    | some '\\' =>
      skip
      match ← rawPeek with
      | none => fail .unclosedSum
      | some c =>
        skip
        return escapedInQuotes place c ++ (← sumParts n depth place)
    | some '$' =>
      skip
      let w ← dollar n .sum place
      return w ++ (← sumParts n depth place)
    | some '`' =>
      skip
      let w ← backquotes n .sum place
      return w ++ (← sumParts n depth place)
    | some '\n' =>
      skip
      if ← place.ended then fail .unclosedSum
      return .quoted '\n' :: (← sumParts n depth place)
    | some c =>
      skip
      return .quoted c :: (← sumParts n depth place)

def dollar (n : Nat) (quoting : Quoting) (place : Place) : Reading Word :=
  match n with
  | 0 => fail .tooDeep
  | n + 1 => do
    let inQuotes := quoting != .none
    let itself : Part := if inQuotes then .quoted '$' else .plain '$'
    if place.isDelimiter then return [itself]
    match ← peek with
    | none => return [itself]
    | some '(' =>
      skip
      if ← accept '(' then
        return [.sum inQuotes (← sumParts n 0 { place with inBraces := false })]
      else return [.output inQuotes (← substitution n)]
    | some '\x7b' =>
      skip
      let (name, use) ← braced n quoting { place with inBraces := true }
      return [.parameter name inQuotes use]
    | some c =>
      if isNameStart c then
        return [.parameter (← takeClass isNameChar n) inQuotes .value]
      else if Text.isDigit c || isSpecialParameter c then
        skip
        return [.parameter [c] inQuotes .value]
      else return [itself]

def substitution (n : Nat) : Reading Command :=
  match n with
  | 0 => fail .tooDeep
  | n + 1 => do
    let announced := (← get).announced
    modify fun r => { r with announced := [] }
    let c ← list n false true .nothing
    let t ← next n {}
    if !t.isSign ")" then unexpected t (some (.ofString ")"))
    documents n
    modify fun r => { r with announced }
    return c

/-- The script between backquotes. What follows a closing sign in it is not read. -/
def backquotes (n : Nat) (quoting : Quoting) (place : Place) : Reading Word :=
  match n with
  | 0 => fail .tooDeep
  | n + 1 => do
    let inQuotes := quoting != .none
    if place.isDelimiter then return [if inQuotes then .quoted '`' else .plain '`']
    let t ← backquoted inQuotes n
    let r ← get
    set { r with rest := t, line := 1, announced := [] }
    let c ← list n false true .nothing
    documents n
    modify fun inner =>
      { r with documents := inner.documents, nextDocument := inner.nextDocument }
    return [.output inQuotes c]

def braced (n : Nat) (quoting : Quoting) (place : Place) : Reading (Text × Use) :=
  match n with
  | 0 => fail .tooDeep
  | n + 1 => do
    let isNumber := Text.isDigit
    match ← peek with
    | none =>
      let _ ← inBraces n quoting place
      return ([], .invalid)
    | some c =>
      if isNameStart c then
        let name ← takeClass isNameChar n
        return (name, ← use n quoting place)
      else if isNumber c then
        let name ← takeClass isNumber n
        return (name, ← use n quoting place)
      else if c = '#' then
        skip
        match ← peek with
        | none => return ([c], ← use n quoting place)
        | some d =>
          if isNameStart d then
            let name ← takeClass isNameChar n
            return (name, ← lengthUse n quoting place)
          else if isNumber d then
            let name ← takeClass isNumber n
            return (name, ← lengthUse n quoting place)
          else
            let before ← get
            skip
            if d ≠ '\x7d' && (← peek) = some '\x7d' then
              if isSpecialParameter d then return ([d], ← lengthUse n quoting place)
              else
                let _ ← inBraces n quoting place
                return ([], .invalid)
            else
              set before
              return ([c], ← use n quoting place)
      else
        if c ≠ '\x7d' then skipUncounted
        if isSpecialParameter c then return ([c], ← use n quoting place)
        else
          let _ ← inBraces n quoting place
          return ([], .invalid)

def lengthUse (n : Nat) (quoting : Quoting) (place : Place) : Reading Use :=
  match n with
  | 0 => fail .tooDeep
  | n + 1 => do
    let isWhole := (← peek) = some '\x7d'
    let _ ← inBraces n quoting place
    return if isWhole then .length else .invalid

def inBraces (n : Nat) (quoting : Quoting) (place : Place) : Reading Word :=
  match n with
  | 0 => fail .tooDeep
  | n + 1 => if quoting = .none then bareParts n place else doubleParts n .brace false place

def use (n : Nat) (quoting : Quoting) (place : Place) : Reading Use :=
  match n with
  | 0 => fail .tooDeep
  | n + 1 => do
    if ← accept '\x7d' then return .value
    if ← accept '%' then
      let longest ← accept '%'
      return .trim ⟨true, longest⟩ (← inBraces n .none place)
    if ← accept '#' then
      let longest ← accept '#'
      return .trim ⟨false, longest⟩ (← inBraces n .none place)
    let orEmpty ← accept ':'
    let choice : Option Choice := match ← peek with
      | some '-' => some .whenUnset
      | some '+' => some .whenSet
      | some '?' => some .demand
      | some '=' => some .assign
      | _ => none
    skipUncounted
    let w ← inBraces n quoting place
    return match choice with
      | some choice => .choose choice orEmpty w
      | none => .invalid

def next (n : Nat) (e : Expecting) : Reading Token :=
  match n with
  | 0 => fail .tooDeep
  | n + 1 => do
    let before ← get
    let t ← match before.returned with
      | some t => do
        set { before with returned := none }
        pure t
      | none => token n e.delimiter
    match t with
    | .newLine =>
      if e.lines then
        documents n
        next n e
      else return t
    | .word _ => return if e.reserved then t.reserved else t
    | t => return t

def token (n : Nat) (isDelimiter : Bool) : Reading Token :=
  match n with
  | 0 => fail .tooDeep
  | n + 1 => do
    match ← peek with
    | none => return .endOfScript
    | some '#' =>
      modify fun r => { r with rest := r.rest.dropWhile (· != '\n') }
      token n isDelimiter
    | some '\n' =>
      skip
      return .newLine
    | some c =>
      if c = ' ' || c = '\t' then
        skip
        token n isDelimiter
      else if c = '&' || c = '|' || c = ';' then
        skip
        return .sign (if ← accept c then [c, c] else [c])
      else if c = '(' || c = ')' then
        skip
        return .sign [c]
      else
        let w ← bareParts n { isDelimiter }
        match ← peek with
        | some sign =>
          match if sign = '<' || sign = '>' then streamBefore? w sign else none with
          | some stream =>
            skip
            return .redirect stream (← arrow sign)
          | none => return .word w
        | none => return .word w

def documents (n : Nat) : Reading Unit :=
  match n with
  | 0 => fail .tooDeep
  | n + 1 => do
    match (← get).announced with
    | [] => return ()
    | a :: rest =>
      modify fun r => { r with announced := rest }
      let w ←
        if a.literal then do pure (Word.ofQuoted (← literalDocument a n))
        else do
          let _ ← peek
          if ← endsDocument a then pure []
          else doubleParts n .document false { document := some a }
      modify fun r => { r with documents := (a.number, w) :: r.documents }
      documents n

def redirectTarget (n : Nat) (stream : Nat) (a : Arrow) : Reading Redirect :=
  match n with
  | 0 => fail .tooDeep
  | n + 1 => do
    match a with
    | .to channel =>
      match ← next n {} with
      | .word w => return .mk stream channel w
      | t => unexpected t none
    | .document stripsTabs =>
      match ← next n { delimiter := true } with
      | .word w =>
        let r ← get
        let number := r.nextDocument
        let a : Announced := ⟨number, w.unquoted, stripsTabs, w.plain?.isNone⟩
        set { r with nextDocument := number + 1, announced := r.announced ++ [a] }
        return .mk stream (.document number) []
      | t => unexpected t none

/-- Commands one after another: up to the end of the line, or up to a sign that closes them.
`mayClose` says whether that can come now. -/
def list (n : Nat) (byLine mayClose : Bool) (done : Command) : Reading Command :=
  match n with
  | 0 => fail .tooDeep
  | n + 1 => do
    let t ← next n { Expecting.anyLine with lines := !byLine }
    match t with
    | .newLine =>
      documents n
      return done
    | .endOfScript =>
      documents n
      giveBack t
      return done
    | t =>
      giveBack t
      if mayClose && !byLine && t.closes then return done
      let c ← andOr n
      let t ← next n {}
      let done := done.append (if t.isSign "&" then .background c else c)
      match t with
      | .endOfScript =>
        documents n
        giveBack t
        return done
      | .newLine =>
        giveBack t
        list n byLine true done
      | t =>
        if t.isSign "&" || t.isSign ";" then list n byLine true done
        else if byLine then unexpected t none
        else
          giveBack t
          return done

def andOr (n : Nat) : Reading Command :=
  match n with
  | 0 => fail .tooDeep
  | n + 1 => do
    let c ← pipeline n {}
    andOrRest n c

def andOrRest (n : Nat) (left : Command) : Reading Command :=
  match n with
  | 0 => fail .tooDeep
  | n + 1 => do
    let t ← next n {}
    if t.isSign "&&" then
      let right ← pipeline n .anyLine
      andOrRest n (.both left right)
    else if t.isSign "||" then
      let right ← pipeline n .anyLine
      andOrRest n (.either left right)
    else
      giveBack t
      return left

def pipeline (n : Nat) (e : Expecting) : Reading Command :=
  match n with
  | 0 => fail .tooDeep
  | n + 1 => do
    let t ← next n e
    if t.isSign "!" then
      let c ← command n .commandStart
      return .negation (← pipelineRest n [c])
    else
      giveBack t
      let c ← command n {}
      pipelineRest n [c]

def pipelineRest (n : Nat) (commands : List Command) : Reading Command :=
  match n with
  | 0 => fail .tooDeep
  | n + 1 => do
    let t ← next n {}
    if t.isSign "|" then
      let c ← command n .anyLine
      pipelineRest n (commands ++ [c])
    else
      giveBack t
      match commands with
      | [c] => return c
      | cs => return .pipeline cs

def require (n : Nat) (e : Expecting) (s : String) : Reading Unit :=
  match n with
  | 0 => fail .tooDeep
  | n + 1 => do
    let t ← next n e
    if !t.isSign s then unexpected t (some (.ofString s))

def command (n : Nat) (e : Expecting) : Reading Command :=
  match n with
  | 0 => fail .tooDeep
  | n + 1 => do
    let line := (← get).line
    match ← next n e with
    | .word w =>
      giveBack (.word w)
      simple n (← get).line [] [] [] true
    | .redirect stream a =>
      giveBack (.redirect stream a)
      simple n (← get).line [] [] [] true
    | t =>
      if t.isSign "if" then
        let c ← branches n
        redirected n line c
      else if t.isSign "while" || t.isSign "until" then
        let test ← list n false false .nothing
        require n {} "do"
        let body ← list n false false .nothing
        require n {} "done"
        redirected n line (.loop (t.isSign "while") test body)
      else if t.isSign "for" then
        let c ← each n line
        redirected n line c
      else if t.isSign "case" then
        let c ← select n line
        redirected n line c
      else if t.isSign "(" then
        let body ← list n false false .nothing
        require n {} ")"
        return .subshell line body (← redirects n .commandStart)
      else if t.isSign "\x7b" then
        let body ← list n false false .nothing
        require n {} "\x7d"
        redirected n line body
      else unexpected t none

def branches (n : Nat) : Reading Command :=
  match n with
  | 0 => fail .tooDeep
  | n + 1 => do
    let test ← list n false false .nothing
    require n {} "then"
    let yes ← list n false false .nothing
    let t ← next n {}
    if t.isSign "elif" then return .choice test yes (← branches n)
    let no ←
      if t.isSign "else" then list n false false .nothing
      else do
        giveBack t
        pure .nothing
    require n {} "fi"
    return .choice test yes no

def each (n : Nat) (line : Nat) : Reading Command :=
  match n with
  | 0 => fail .tooDeep
  | n + 1 => do
    let name ← match ← next n {} with
      | .word w =>
        match w.plain? with
        | some t => if isName t then pure t else fail .loopVariable
        | none => fail .loopVariable
      | _ => fail .loopVariable
    let t ← next n .anyLine
    let words ←
      if t.isSign "in" then eachWords n []
      else do
        if !t.isSign ";" then giveBack t
        pure [[.parameter ['@'] true .value]]
    require n .anyLine "do"
    let body ← list n false false .nothing
    require n {} "done"
    return .each line name words body

def eachWords (n : Nat) (words : List Word) : Reading (List Word) :=
  match n with
  | 0 => fail .tooDeep
  | n + 1 => do
    match ← next n {} with
    | .word w => eachWords n (words ++ [w])
    | .newLine => return words
    | t => if t.isSign ";" then return words else unexpected t none

def select (n : Nat) (line : Nat) : Reading Command :=
  match n with
  | 0 => fail .tooDeep
  | n + 1 => do
    match ← next n {} with
    | .word subject =>
      require n .anyLine "in"
      return .select line subject (← clauses n [])
    | t => unexpected t (some (.word []))

def clauses (n : Nat) (done : List Clause) : Reading (List Clause) :=
  match n with
  | 0 => fail .tooDeep
  | n + 1 => do
    let t ← next n { lines := true, reserved := true }
    if t.isSign "esac" then return done
    let first ← if t.isSign "(" then next n {} else pure t
    let patterns ← clausePatterns n [first.pattern]
    let body ← list n false true .nothing
    let done := done ++ [.mk patterns body]
    let t ← next n { lines := true, reserved := true }
    if t.isSign "esac" then return done
    if !t.isSign ";;" then unexpected t (some (.ofString ";;"))
    clauses n done

def clausePatterns (n : Nat) (done : List Word) : Reading (List Word) :=
  match n with
  | 0 => fail .tooDeep
  | n + 1 => do
    let t ← next n {}
    if t.isSign "|" then
      let t ← next n {}
      clausePatterns n (done ++ [t.pattern])
    else if t.isSign ")" then return done
    else unexpected t (some (.ofString ")"))

def redirects (n : Nat) (e : Expecting) : Reading (List Redirect) :=
  match n with
  | 0 => fail .tooDeep
  | n + 1 => do
    match ← next n e with
    | .redirect stream a =>
      let r ← redirectTarget n stream a
      return r :: (← redirects n {})
    | t =>
      giveBack t
      return []

/-- A compound command with what follows it. A group of nothing but a subshell is that subshell, and
redirections behind the group take the place of those inside. -/
def redirected (n : Nat) (line : Nat) (c : Command) : Reading Command :=
  match n with
  | 0 => fail .tooDeep
  | n + 1 => do
    match ← redirects n .commandStart, c with
    | [], c => return c
    | rs, .subshell line body _ => return .subshell line body rs
    | rs, c => return .redirected line c rs

/-- A simple command, or the definition of a function. Assignments come before the first word. -/
def simple (n : Nat) (line : Nat) (assignments : List Assignment) (words : List Word)
    (rs : List Redirect) (isStart : Bool) : Reading Command :=
  match n with
  | 0 => fail .tooDeep
  | n + 1 => do
    match ← next n {} with
    | .word w =>
      match if isStart then w.assignment? else none with
      | some a => simple n line (assignments ++ [a]) words rs isStart
      | none => simple n line assignments (words ++ [w]) rs false
    | .redirect stream a =>
      let r ← redirectTarget n stream a
      simple n line assignments words (rs ++ [r]) isStart
    | t =>
      match t.isSign "(", words, assignments, rs with
      | true, [w], [], [] =>
        require n {} ")"
        match w.plain? with
        | some name =>
          if isName name && !specialBuiltins.contains name then
            return .function name (← command n .anyLine)
          else fail .functionName
        | none => fail .functionName
      | _, _, _, _ =>
        giveBack t
        return .simple line assignments words rs

end

def Word.ofDocument (t : Text) : Word :=
  match doubleParts (16 * (t.length + 16)) .document false {} { rest := t } with
  | .ok (w, _) => w
  | .error _ => Word.ofQuoted t

/-- A line of commands, which may be the last one, or the end of the script. -/
inductive Line where
  | finished
  | commands (c : Command) (isLast : Bool)

def Reader.readLine (r : Reader) : Except Fault (Line × Reader) := do
  let limit := 16 * (r.rest.length + 16)
  let (c, after) ← list limit true true .nothing { r with returned := none, announced := [] }
  let isLast := match after.returned with
    | some .endOfScript => true
    | _ => false
  match c, isLast with
  | .nothing, true => return (.finished, after)
  | c, isLast => return (.commands c isLast, after)

end Localize.Shell

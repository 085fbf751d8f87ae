import Localize.Hook.Binding
import Localize.Hook.Import
import Localize.Hook.Signature
import Localize.Replacement
import Localize.Text.Expression

/-! Making an edited file able to call the message function: the import of the hook at the top, and
the binding at the start of the first function body. Each is added only where it is missing. -/

namespace Localize

structure Hook where
  hookName : Text
  hookModule : Text
  translateFn : Text
  directives : List Text
  deriving DecidableEq, Repr

structure Augmentation where
  importAdded : Bool := false
  bindingAdded : Bool := false
  deriving DecidableEq, Repr

namespace Hook

def ofConfig (c : Config) : Hook := ⟨c.hookName, c.hookModule, c.translateFn, c.directives⟩

def hasImport (h : Hook) (lines : Buffer) : Bool :=
  Pattern.anywhere (importPattern h.hookName h.hookModule) (Text.joined ['\n'] lines)

def hasBinding (h : Hook) (lines : Buffer) : Bool :=
  Pattern.anywhere (bindingPattern h.translateFn h.hookName) (Text.joined ['\n'] lines)

/-- One of the directives in quotes, alone on its line but for a semicolon. -/
def directivePattern (directives : List Text) : Pattern :=
  let inQuotes (q : Char) : Pattern := .seq [.char q, .alt (directives.map .lit), .char q]
  .seq [.blanks, .alt [inQuotes '"', inQuotes '\''], .blanks, .opt (.char ';'), .blanks, .eot]

def isDirective (h : Hook) (line : Text) : Bool :=
  Pattern.atStart (directivePattern h.directives) line

/-- The expressions of the hook in the order in which they are compiled. That of the directives is
left out where there are none. -/
def expressions (h : Hook) : List Text :=
  let directives := Expression.anyOf h.directives
  [importExpression h.hookName h.hookModule, bindingExpression h.translateFn h.hookName] ++
    (if h.directives = [] then [] else
      ["^\\s*(?:\"(?:".toList ++ directives ++ ")\"|'(?:".toList ++ directives ++
        ")')\\s*;?\\s*$".toList]) ++
    [declarationExpression, arrowExpression]

def compile (engine : Engine) (c : Config) : Except Text Hook :=
  ((ofConfig c).expressions.forM engine).map fun _ => ofConfig c

def insertAt (index : Nat) (new : List Text) (lines : Buffer) : Buffer :=
  lines.take index ++ new ++ lines.drop index

/-- The import goes below a directive on the first line. -/
def importIndex (h : Hook) (lines : Buffer) : Nat :=
  if lines.head?.any h.isDirective then 1 else 0

def addImport (h : Hook) (lines : Buffer) : Bool × Buffer :=
  if h.hasImport lines then (false, lines)
  else (true, insertAt (h.importIndex lines) [importLine h.hookName h.hookModule] lines)

/-- The index and the line of the first signature, and the index of the first line from there on
that opens its body. -/
def firstBody? (lines : Buffer) : Option (Nat × Text × Nat) := do
  let index ← lines.findIdx? fun line => (Signature.ofLine? line).isSome
  let line ← lines[index]?
  let signature ← Signature.ofLine? line
  let offset ← (lines.drop index).findIdx? (Text.includes · signature.blockOpen)
  some (index, line, index + offset)

/-- The statement is indented by two more than the signature, and an empty line follows it. -/
def bindingLines (h : Hook) (signature : Text) : List Text :=
  [signature.takeWhile Text.isBlank ++ [' ', ' '] ++ bindingStatement h.translateFn h.hookName, []]

def addBinding (h : Hook) (lines : Buffer) : Bool × Buffer :=
  if h.hasBinding lines then (false, lines)
  else match firstBody? lines with
    | none => (false, lines)
    | some (_, signature, opening) =>
      (true, insertAt (opening + 1) (h.bindingLines signature) lines)

def augment (h : Hook) (lines : Buffer) : Augmentation × Buffer :=
  let (importAdded, lines) := h.addImport lines
  let (bindingAdded, lines) := h.addBinding lines
  (⟨importAdded, bindingAdded⟩, lines)

end Hook
end Localize

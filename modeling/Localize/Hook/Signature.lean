import Localize.Config
import Localize.Text.Find
import Localize.Text.Pattern

/-! The first lines of function declarations and of constants that hold an arrow function. -/

namespace Localize.Hook

inductive Signature where
  | declaration
  | arrow
  deriving DecidableEq, Repr

def isIdentifierRest (c : Char) : Bool := Text.isWord c || c == '$'

def identifier : Pattern := .seq [.one Config.startsIdentifier, .many isIdentifierRest]

def keyword (w : String) : Pattern := .seq [.word w, .someBlanks]

/-- Up to the parenthesis that opens the parameters. -/
def declarationPattern : Pattern :=
  .seq [.blanks, .opt (keyword "export"), .opt (keyword "default"), .opt (keyword "async"),
    .word "function", .blanks, .opt (.char '*'), .blanks, identifier, .blanks,
    .opt (.seq [.char '<', .many (· != '>'), .char '>']), .blanks, .char '(']

/-- Up to the parenthesis that opens the value. -/
def arrowPattern : Pattern :=
  .seq [.blanks, .opt (keyword "export"), .alt [keyword "const", keyword "let"], identifier,
    .blanks, .opt (.seq [.char ':', .one (· != '='), .many (· != '=')]), .char '=', .blanks,
    .opt (.seq [.word "async", .blanks]), .char '(']

def declarationExpression : Text :=
  ("^\\s*(?:export\\s+)?(?:default\\s+)?(?:async\\s+)?function\\s*\\*?\\s*[A-Za-z_$][\\w$]*" ++
    "\\s*(?:<[^>]*>)?\\s*\\(").toList

def arrowExpression : Text :=
  ("^\\s*(?:export\\s+)?(?:const|let)\\s+[A-Za-z_$][\\w$]*\\s*(?::[^=]+)?=\\s*(?:async\\s*)?" ++
    "\\(").toList

namespace Signature

def ofLine? (line : Text) : Option Signature :=
  if Pattern.atStart declarationPattern line then some .declaration
  else if Pattern.atStart arrowPattern line then some .arrow
  else none

def blockOpen : Signature → Text
  | .declaration => ") \x7b".toList
  | .arrow => ") => \x7b".toList

end Signature
end Localize.Hook

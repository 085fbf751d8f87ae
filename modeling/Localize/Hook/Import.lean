import Localize.Text.Expression
import Localize.Text.Pattern

/-! The import of the hook from its module. -/

namespace Localize.Hook

/-- Exactly one of two neighbouring characters is a word character. -/
def isBoundary (before after : Option Char) : Bool :=
  before.any Text.isWord != after.any Text.isWord

/-- The rests after `name` where it stands between boundaries and no `}` comes before it. The
character `prev` comes before the text. -/
def mentions (name : Text) (prev : Char) (t : Text) : List Text :=
  let here :=
    match name.isPrefixOf? t with
    | some rest =>
      if isBoundary (some prev) t.head? &&
          isBoundary (some (name.getLast?.getD prev)) rest.head? then [rest] else []
    | none => []
  match t with
  | [] => here
  | c :: cs => here ++ if c = '}' then [] else mentions name c cs

def isQuote (c : Char) : Bool := c == '"' || c == '\''

/-- Braces with the name among what is imported, then the quoted module. -/
def importPattern (hookName hookModule : Text) : Pattern :=
  .seq [.word "import", .blanks, .char '{', mentions hookName '{', .many (· != '}'), .char '}',
    .blanks, .word "from", .blanks, .one isQuote, .lit hookModule, .one isQuote]

def importExpression (hookName hookModule : Text) : Text :=
  "import\\s*\\\x7b[^\x7d]*\\b".toList ++ Expression.escape hookName ++
    "\\b[^\x7d]*\\\x7d\\s*from\\s*['\"]".toList ++ Expression.escape hookModule ++ "['\"]".toList

def importLine (hookName hookModule : Text) : Text :=
  "import \x7b ".toList ++ hookName ++ " \x7d from \"".toList ++ hookModule ++ "\";".toList

end Localize.Hook

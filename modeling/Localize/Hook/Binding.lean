import Localize.Text.Expression
import Localize.Text.Pattern

/-! The statement that binds the message function from the hook. -/

namespace Localize.Hook

/-- Elements up to a comma, without `}`. -/
def elements : Pattern := .seq [.many (· != '}'), .char ',']

/-- A declaration that takes the function out of the hook's result, as an element of its own. -/
def bindingPattern (translateFn hookName : Text) : Pattern :=
  .seq [.alt [.word "const", .word "let", .word "var"], .blanks, .char '{', .opt elements, .blanks,
    .lit translateFn, .blanks, .opt (.seq [.char ',', .many (· != '}')]), .char '}', .blanks,
    .char '=', .blanks, .lit hookName, .blanks, .char '(']

def bindingExpression (translateFn hookName : Text) : Text :=
  "(?:const|let|var)\\s*\\\x7b(?:[^\x7d]*,)?\\s*".toList ++ Expression.escape translateFn ++
    "\\s*(?:,[^\x7d]*)?\\\x7d\\s*=\\s*".toList ++ Expression.escape hookName ++ "\\s*\\(".toList

def bindingStatement (translateFn hookName : Text) : Text :=
  "const \x7b ".toList ++ translateFn ++ " \x7d = ".toList ++ hookName ++ "();".toList

end Localize.Hook

import Localize.Shell.Script

/-! The tokens of a script, and why a script cannot be read. -/

namespace Localize.Shell

/-- What follows the sign of a redirection: the name of a file or stream, or the word that ends a
document, whose lines may lose their first tabs. -/
inductive Arrow where
  | to (channel : Channel)
  | document (stripsTabs : Bool)
  deriving DecidableEq, Repr

inductive Token where
  | sign (t : Text)
  | newLine
  | endOfScript
  | word (w : Word)
  | redirect (stream : Nat) (arrow : Arrow)

namespace Token

def ofString (s : String) : Token := .sign s.toList

def isSign (s : String) : Token → Bool
  | .sign t => t == s.toList
  | _ => false

def describe : Token → Text
  | .sign t => '"' :: t ++ ['"']
  | .newLine => "newline".toList
  | .endOfScript => "end of file".toList
  | .word _ => "word".toList
  | .redirect _ _ => "redirection".toList

def pattern : Token → Word
  | .word w => w
  | .sign t => Word.ofPlain t
  | _ => []

def reservedWords : List Text :=
  ["!", "case", "do", "done", "elif", "else", "esac", "fi", "for", "if", "in", "then", "until",
    "while", "\x7b", "\x7d"].map String.toList

def closings : List Text :=
  [")", ";;", "do", "done", "elif", "else", "esac", "fi", "then", "\x7d"].map String.toList

def closes : Token → Bool
  | .endOfScript => true
  | .sign t => closings.contains t
  | _ => false

def reserved : Token → Token
  | .word w =>
    match w.plain? with
    | some t => if reservedWords.contains t then .sign t else .word w
    | none => .word w
  | t => t

end Token

inductive Cause where
  | unexpected (found : Token) (expected : Option Token)
  | unclosedQuote
  | unclosedBrace
  | unclosedSum
  | unclosedBackquote
  | loopVariable
  | functionName
  | tooDeep

def Cause.message : Cause → Text
  | .unexpected found none => found.describe ++ " unexpected".toList
  | .unexpected found (some expected) =>
    found.describe ++ " unexpected (expecting ".toList ++ expected.describe ++ [')']
  | .unclosedQuote => "Unterminated quoted string".toList
  | .unclosedBrace => "Missing '\x7d'".toList
  | .unclosedSum => "Missing '))'".toList
  | .unclosedBackquote => "EOF in backquote substitution".toList
  | .loopVariable => "Bad for loop variable".toList
  | .functionName => "Bad function name".toList
  | .tooDeep => "out of memory".toList

structure Fault where
  line : Nat
  cause : Cause

def Fault.message (f : Fault) : Text := "Syntax error: ".toList ++ f.cause.message

end Localize.Shell

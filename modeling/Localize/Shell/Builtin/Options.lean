import Localize.Shell.Machine

/-! The options in front of the arguments of a task. -/

namespace Localize.Shell.Builtin

open Act

/-- The options of a task. Those in `valued` take a value. -/
structure Known where
  plain : Text := []
  valued : Text := []

def Known.ofString (s : String) : Known := { plain := s.toList }

/-- Reads the letters of one argument, of which the last may take the next argument as its value. -/
def letters (known : Known) (args : List Text) : Text → Act (List (Char × Text) × List Text)
  | [] => return ([], args)
  | c :: cs => do
    if known.valued.contains c then
      match cs, args with
      | [], [] => fail ("No arg for -".toList ++ c :: " option".toList)
      | [], value :: args => return ([(c, value)], args)
      | cs, args => return ([(c, cs)], args)
    else if known.plain.contains c then
      let (more, args) ← letters known args cs
      return ((c, []) :: more, args)
    else fail ("Illegal option -".toList ++ [c])

def options (known : Known) (n : Nat) (args : List Text) :
    Act (List (Char × Text) × List Text) :=
  match n, args with
  | 0, args => return ([], args)
  | _, [] => return ([], [])
  | n + 1, arg :: rest =>
    match arg with
    | ['-', '-'] => return ([], rest)
    | '-' :: c :: cs => do
      let (found, rest) ← letters known rest (c :: cs)
      let (more, rest) ← options known n rest
      return (found ++ more, rest)
    | _ => return ([], arg :: rest)

def parse (known : Known) (args : List Text) : Act (List (Char × Text) × List Text) :=
  options known (args.length + 1) args

def hasLetter (c : Char) (found : List (Char × Text)) : Bool := found.any (·.1 == c)

end Localize.Shell.Builtin

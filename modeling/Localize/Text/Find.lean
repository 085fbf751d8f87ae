import Localize.Text

/-! The leftmost occurrence of a text inside another one. -/

namespace Localize.Text

/-- What stands before and after the leftmost occurrence of `needle`. -/
def cut? (needle : Text) (t : Text) : Option (Text × Text) :=
  match needle.isPrefixOf? t with
  | some rest => some ([], rest)
  | none =>
    match t with
    | [] => none
    | c :: cs => (cut? needle cs).map fun (before, after) => (c :: before, after)

def includes (t needle : Text) : Bool := (cut? needle t).isSome

/-- Every occurrence of `needle` replaced by `new`, from the left and without overlap. -/
def replaceAll (needle new : Text) (t : Text) : Text :=
  match needle with
  | [] => t
  | _ :: _ => go t.length t
where
  go : Nat → Text → Text
    | 0, t => t
    | n + 1, t =>
      match cut? needle t with
      | some (before, after) => before ++ new ++ go n after
      | none => t

end Localize.Text

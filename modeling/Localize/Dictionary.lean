import Localize.Json

/-! Looking a text up in a dictionary of messages. A key is the path to the text, joined by dots. -/

namespace Localize

/-- Each text with the key it is found under. -/
structure Dictionary where
  entries : List (Text × Text)
  deriving DecidableEq, Repr

namespace Dictionary

def extend (path key : Text) : Text := if path = [] then key else path ++ '.' :: key

mutual

/-- The texts below `value` in the order in which they are declared, each with its path. Lists hold
none. -/
def leaves (path : Text) : Json → List (Text × Text)
  | .string t => [(path, t)]
  | .object entries => entryLeaves path entries
  | _ => []

def entryLeaves (path : Text) : List (Text × Json) → List (Text × Text)
  | [] => []
  | (key, value) :: rest => leaves (extend path key) value ++ entryLeaves path rest

end

/-- The first key of a text stays. A text without a path or without a visible character has none. -/
def add (d : Dictionary) (leaf : Text × Text) : Dictionary :=
  let (path, t) := leaf
  if path = [] || Text.isAllBlank t || (d.entries.lookup t).isSome then d
  else ⟨d.entries ++ [(t, path)]⟩

def ofJson (value : Json) : Dictionary := (leaves [] value).foldl add ⟨[]⟩

def lookup (d : Dictionary) (t : Text) : Option Text := d.entries.lookup t

def size (d : Dictionary) : Nat := d.entries.length

def isEmpty (d : Dictionary) : Bool := d.entries.isEmpty

end Dictionary
end Localize

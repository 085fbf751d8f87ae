import Localize.Text

/-! JSON values. The entries of an object keep the order in which their keys were first met. -/

namespace Localize

/-- A number is a natural below 2⁶⁴, a negative integer from −2⁶³ on, or a double by its bits. -/
inductive JsonNumber where
  | natural (n : Nat)
  | negative (n : Nat)
  | double (bits : UInt64)
  deriving DecidableEq, Repr

inductive Json where
  | null
  | bool (b : Bool)
  | number (n : JsonNumber)
  | string (t : Text)
  | array (items : List Json)
  | object (entries : List (Text × Json))

namespace Json

/-- A key that is met again keeps its place and takes the new value. -/
def putEntry {α : Type} (key : Text) (value : α) : List (Text × α) → List (Text × α)
  | [] => [(key, value)]
  | (k, old) :: rest =>
    if k = key then (k, value) :: rest else (k, old) :: putEntry key value rest

def ofEntries {α : Type} (entries : List (Text × α)) : List (Text × α) :=
  entries.foldl (fun kept (key, value) => putEntry key value kept) []

end Json
end Localize

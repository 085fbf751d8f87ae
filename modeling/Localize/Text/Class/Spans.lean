import Localize.Text

/-! Sets of characters as ascending spans of code points. -/

namespace Localize.Text

abbrev Span := Nat × Nat

def inSpans (spans : List Span) (c : Char) : Bool :=
  spans.any fun (first, last) => first ≤ c.toNat && c.toNat ≤ last

end Localize.Text

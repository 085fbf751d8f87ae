import Localize.Proofs.GivingUp
import Localize.Proofs.Slices

/-! What a call takes the place of. The leftmost occurrence of the string decides: where an attribute
value opens directly before it the quotes around the string are taken out with it, and elsewhere the
string alone. What stands before and behind stays as it is. The line may be cut by the bytes of its
encoding: every slice begins and ends between characters, and the result is the same. -/

namespace Localize

/-- The byte of the text at which the leftmost occurrence of the needle begins. -/
def Text.find? (needle t : Text) : Option Nat :=
  (cut? needle t).map fun (before, _) => byteSize before

namespace Replacement

/-- The substitution on the bytes of the line. It has a result if every slice has one. -/
def substituteInBytes? (line needle call : Text) : Option (Option Text) :=
  match Text.find? needle line with
  | none => some none
  | some start => do
    let stop := start + Text.byteSize needle
    let before ← Text.sliceTo? line start
    let after ← Text.sliceFrom? line stop
    if opensAttribute before then
      if after.head? = some '"' then
        let before ← (difference? start 1).bind (Text.sliceTo? line)
        let after ← Text.sliceFrom? line (stop + 1)
        return some (before ++ braced call ++ after)
      else return none
    else return some (before ++ braced call ++ after)

/-- The leftmost occurrence of the needle in the line stands between `before` and `after`. -/
structure Leftmost (line needle before after : Text) : Prop where
  shape : line = before ++ needle ++ after
  first : ∀ before' after', line = before' ++ needle ++ after' → before.length ≤ before'.length

/-- The call takes the place of the text between `front` and `back`. It is the leftmost occurrence of
the needle, together with the double quotes around it if a name and `=` stand before the first. -/
inductive TakesOut (line needle : Text) : Text → Text → Text → Prop
  | bare {front back : Text} (leftmost : Leftmost line needle front back)
      (unopened : ∀ before name, IsAttributeName name → front ≠ before ++ (name ++ ['=', '"'])) :
      TakesOut line needle front needle back
  | value {before name back : Text} (named : IsAttributeName name)
      (leftmost : Leftmost line needle (before ++ (name ++ ['=', '"'])) ('"' :: back)) :
      TakesOut line needle (before ++ (name ++ ['='])) ('"' :: (needle ++ ['"'])) back

variable {line needle call result before after front span back : Text}

theorem leftmost_iff :
    Leftmost line needle before after ↔ Text.cut? needle line = some (before, after) := by
  rw [Text.cut?_eq_some_iff]
  exact ⟨fun h => ⟨h.shape, h.first⟩, fun h => ⟨h.1, h.2⟩⟩

theorem Leftmost.unique {before' after' : Text} (h : Leftmost line needle before after)
    (h' : Leftmost line needle before' after') : before' = before ∧ after' = after := by
  have hcut := (leftmost_iff.1 h').symm.trans (leftmost_iff.1 h)
  exact Prod.mk.inj (Option.some.inj hcut)

theorem not_opensAttribute_iff : opensAttribute before = false ↔
    ∀ front name, IsAttributeName name → before ≠ front ++ (name ++ ['=', '"']) := by
  rw [Bool.eq_false_iff, ne_eq, opensAttribute_iff]
  push Not
  rfl

theorem opening_eq (front name : Text) :
    front ++ (name ++ ['=', '"']) = front ++ (name ++ ['=']) ++ ['"'] := by
  simp

theorem TakesOut.line_eq (h : TakesOut line needle front span back) :
    line = front ++ span ++ back := by
  cases h with
  | bare leftmost unopened => exact leftmost.shape
  | value named leftmost =>
    rw [leftmost.shape]
    simp

theorem TakesOut.unique {front' span' back' : Text} (h : TakesOut line needle front span back)
    (h' : TakesOut line needle front' span' back') :
    front' = front ∧ span' = span ∧ back' = back := by
  cases h with
  | bare leftmost unopened =>
    cases h' with
    | bare leftmost' unopened' =>
      obtain ⟨hfront, hback⟩ := leftmost.unique leftmost'
      exact ⟨hfront, rfl, hback⟩
    | value named' leftmost' =>
      exact absurd (leftmost.unique leftmost').1.symm (unopened _ _ named')
  | value named leftmost =>
    cases h' with
    | bare leftmost' unopened' =>
      exact absurd (leftmost.unique leftmost').1 (unopened' _ _ named)
    | value named' leftmost' =>
      obtain ⟨hfront, hback⟩ := leftmost.unique leftmost'
      rw [opening_eq, opening_eq] at hfront
      exact ⟨List.append_cancel_right hfront, rfl, (List.cons.inj hback).2⟩

/-- There is a result exactly if there is something to take out, and the result has the call there. -/
theorem substitute?_eq_some_iff : substitute? line needle call = some result ↔
    ∃ front span back, TakesOut line needle front span back ∧
      result = front ++ braced call ++ back := by
  constructor
  · intro h
    obtain ⟨before, after, hcut, ⟨hbare, rfl⟩ | ⟨hopens, rest, rfl, rfl⟩⟩ := cut?_of_substitute? h
    · exact ⟨before, needle, after,
        .bare (leftmost_iff.2 hcut) (not_opensAttribute_iff.1 hbare), rfl⟩
    · obtain ⟨front, name, hname, rfl⟩ := opensAttribute_iff.1 hopens
      refine ⟨_, _, rest, .value hname (leftmost_iff.2 hcut), ?_⟩
      have hlast : (front ++ (name ++ ['=', '"'])).dropLast = front ++ (name ++ ['=']) := by
        rw [opening_eq, List.dropLast_concat]
      rw [hlast]
  · rintro ⟨front, span, back, h, rfl⟩
    cases h with
    | bare leftmost unopened =>
      rw [substitute?, leftmost_iff.1 leftmost]
      simp [not_opensAttribute_iff.2 unopened]
    | value named leftmost =>
      rw [substitute?, leftmost_iff.1 leftmost]
      simp [opensAttribute_name named]

theorem difference?_byteSize_quote (front : Text) :
    difference? (Text.byteSize (front ++ ['"'])) 1 = some (Text.byteSize front) := by
  have hsize : Text.byteSize (front ++ ['"']) = Text.byteSize front + 1 := by
    rw [Text.byteSize_append]
    rfl
  rw [hsize, difference?, if_pos (Nat.le_add_left 1 _), Nat.add_sub_cancel]

/-- No slice of the line tears a character. -/
theorem substituteInBytes?_eq (line needle call : Text) :
    substituteInBytes? line needle call = some (substitute? line needle call) := by
  unfold substituteInBytes? substitute? Text.find?
  cases hcut : Text.cut? needle line with
  | none => rfl
  | some sides =>
    obtain ⟨before, after⟩ := sides
    obtain rfl := Text.eq_of_cut? hcut
    have hbefore : Text.sliceTo? (before ++ needle ++ after) (Text.byteSize before) =
        some before := Text.sliceTo?_eq_some_iff.2 ⟨_, List.append_assoc _ _ _, rfl⟩
    have hafter : Text.sliceFrom? (before ++ needle ++ after)
        (Text.byteSize before + Text.byteSize needle) = some after :=
      Text.sliceFrom?_eq_some_iff.2 ⟨_, rfl, Text.byteSize_append _ _⟩
    simp only [Option.map_some, Option.bind_eq_bind, hbefore, hafter, Option.bind_some]
    by_cases hopens : opensAttribute before = true
    · obtain ⟨front, rfl⟩ := exists_of_opensAttribute hopens
      rw [if_pos hopens, if_pos hopens]
      cases after with
      | nil => rfl
      | cons c rest =>
        by_cases hquote : c = '"'
        · subst hquote
          -- The slices are one byte wider on both sides, and their ends are edges too.
          have hfront : Text.sliceTo? (front ++ ['"'] ++ needle ++ '"' :: rest)
              (Text.byteSize front) = some front :=
            Text.sliceTo?_eq_some_iff.2 ⟨'"' :: (needle ++ '"' :: rest), by simp, rfl⟩
          have hrest : Text.sliceFrom? (front ++ ['"'] ++ needle ++ '"' :: rest)
              (Text.byteSize (front ++ ['"']) + Text.byteSize needle + 1) = some rest := by
            refine Text.sliceFrom?_eq_some_iff.2 ⟨front ++ ['"'] ++ needle ++ ['"'], by simp, ?_⟩
            rw [Text.byteSize_append, Text.byteSize_append]
            rfl
          simp only [difference?_byteSize_quote, List.head?_cons, Option.bind_some, hfront, hrest,
            List.dropLast_concat, if_true]
          rfl
        · simp [hquote]
    · rw [if_neg hopens, if_neg hopens]
      rfl

/-- A result has the call in the place of one text of the line, and all else of the line as it was:
in the place of the leftmost occurrence of the string where no attribute value opens directly before
it, and of the string with its quotes where it is a whole value. There is no result exactly if the
string does not occur, or its leftmost occurrence is at the start of an attribute value that goes on
behind it. On the bytes of the line the same is done, and no character is torn. -/
theorem one_span_replaced (line needle call : Text) :
    (∀ result, substitute? line needle call = some result ↔
      ∃ front span back, TakesOut line needle front span back ∧
        result = front ++ braced call ++ back) ∧
    (∀ front span back, TakesOut line needle front span back → line = front ++ span ++ back ∧
      ∀ front' span' back', TakesOut line needle front' span' back' →
        front' = front ∧ span' = span ∧ back' = back) ∧
    (substitute? line needle call = none ↔ ¬ needle <:+: line ∨ FirstKept line needle) ∧
    substituteInBytes? line needle call = some (substitute? line needle call) := by
  refine ⟨fun result => substitute?_eq_some_iff,
    fun front span back h => ⟨h.line_eq, fun _ _ _ h' => h.unique h'⟩, ?_,
    substituteInBytes?_eq line needle call⟩
  by_cases hin : needle <:+: line
  · rw [substitute?_eq_none_iff hin]
    simp [hin]
  · have hcut : Text.cut? needle line = none := by
      rw [← Option.not_isSome_iff_eq_none]
      exact mt Text.includes_iff.1 hin
    simp [substitute?, hcut, hin]

/-- Characters of two bytes stand on both sides of the opening quote. -/
example : substituteInBytes? "<a näme=\"Grüße\" />".toList "Grüße".toList "t('a')".toList =
    some (some "<a näme=\x7bt('a')\x7d />".toList) := by decide +kernel

end Replacement
end Localize

import Localize.Proofs.Config
import Localize.Proofs.Dictionary
import Localize.Proofs.Replacement

/-! A call holds its key as a double-quoted literal. Read back, the literal gives the key, as long as
no line break is in it; a line break in the key stands in the call as it is, and there it ends the
line before the literal ends. -/

namespace Localize

namespace Text

variable {c : Char} {new : Text}

theorem cut?_singleton_of_not_mem {t : Text} (h : c ∉ t) : cut? [c] t = none := by
  rw [← Option.not_isSome_iff_eq_none]
  intro hcut
  exact h (List.singleton_sublist.1 (includes_iff.1 hcut).sublist)

theorem cut?_singleton_append {before : Text} (h : c ∉ before) (after : Text) :
    cut? [c] (before ++ c :: after) = some (before, after) := by
  refine cut?_eq_some_iff.2 ⟨by simp, fun before' after' heq => ?_⟩
  rw [List.append_assoc, List.singleton_append] at heq
  by_contra hlt
  have hfront : before' ++ [c] <+: before := by
    refine List.prefix_of_prefix_length_le ⟨after', ?_⟩ (List.prefix_append before (c :: after)) ?_
    · rw [heq, List.append_assoc, List.singleton_append]
    · rw [List.length_append, List.length_singleton]
      omega
  exact h (hfront.subset (List.mem_append_right _ List.mem_cons_self))

theorem flatMap_replace_of_not_mem {t : Text} (h : c ∉ t) :
    (t.flatMap fun d => if d = c then new else [d]) = t := by
  induction t with
  | nil => rfl
  | cons d t ih =>
    rw [List.mem_cons, not_or] at h
    rw [List.flatMap_cons, if_neg (Ne.symm h.1), ih h.2, List.singleton_append]

theorem replaceAll_singleton (c : Char) (new t : Text) :
    replaceAll [c] new t = t.flatMap fun d => if d = c then new else [d] := by
  suffices hgo : ∀ n, t.length ≤ n →
      replaceAll.go [c] new n t = t.flatMap fun d => if d = c then new else [d] from
    hgo t.length (Nat.le_refl _)
  induction t using fieldInduction c with
  | last t hc =>
    intro n _
    rw [flatMap_replace_of_not_mem hc]
    cases n with
    | zero => rfl
    | succ n => rw [replaceAll.go, cut?_singleton_of_not_mem hc]
  | field f t hc ih =>
    intro n hn
    rw [List.length_append, List.length_cons] at hn
    cases n with
    | zero => omega
    | succ n =>
      rw [replaceAll.go, cut?_singleton_append hc]
      simp only [ih n (by omega), List.flatMap_append, List.flatMap_cons, if_true,
        flatMap_replace_of_not_mem hc, List.append_assoc]

end Text

namespace Replacement

/-- The key as a literal: backslashes are doubled first, then each quote gets one in front. -/
def literal (key : Text) : Text :=
  '"' :: (Text.replaceAll ['"'] ['\\', '"'] (Text.replaceAll ['\\'] ['\\', '\\'] key) ++ ['"'])

def isLineBreak (c : Char) : Bool := c == '\n' || c == '\r'

/-- A literal after its opening quote: what it says, and what stands behind its closing quote. A
backslash takes the next character, and no line break may stand inside. -/
def readLiteral : Text → Option (Text × Text)
  | [] => none
  | '"' :: rest => some ([], rest)
  | '\\' :: c :: rest =>
    if isLineBreak c then none else (readLiteral rest).map fun (s, rest) => (c :: s, rest)
  | c :: rest =>
    if isLineBreak c then none else (readLiteral rest).map fun (s, rest) => (c :: s, rest)

def literalValue? : Text → Option Text
  | '"' :: body => (readLiteral body).bind fun (s, rest) => if rest = [] then some s else none
  | _ => none

variable {key translateFn : Text}

/-- Both passes together put a backslash in front of each character that needs one. -/
theorem literal_eq (key : Text) : literal key = '"' :: (escapeKey key ++ ['"']) := by
  rw [literal, Text.replaceAll_singleton, Text.replaceAll_singleton, escapeKey, List.flatMap_assoc]
  congr 3
  funext c
  by_cases hslash : c = '\\'
  · simp [hslash]
  · by_cases hquote : c = '"' <;> simp [hslash, hquote]

theorem call_eq (translateFn key : Text) :
    call translateFn key = translateFn ++ '(' :: (literal key ++ [')']) := by
  rw [literal_eq, call]
  simp

theorem readLiteral_escapeKey (key rest : Text) :
    readLiteral (escapeKey key ++ '"' :: rest) =
      if key.any isLineBreak then none else some (key, rest) := by
  induction key with
  | nil => rfl
  | cons c key ih =>
    rw [escapeKey_cons, List.append_assoc, List.any_cons]
    by_cases hescaped : c = '\\' ∨ c = '"'
    · have hbreak : isLineBreak c = false := by rcases hescaped with rfl | rfl <;> rfl
      rw [if_pos hescaped, hbreak, List.cons_append, List.cons_append, List.nil_append, readLiteral,
        hbreak, if_neg Bool.false_ne_true, ih, Bool.false_or]
      split <;> rfl
    · rw [if_neg hescaped, List.singleton_append, readLiteral, ih]
      · cases isLineBreak c
        · rw [if_neg Bool.false_ne_true, Bool.false_or]
          split <;> rfl
        · rfl
      · exact fun hquote => hescaped (.inr hquote)
      · exact fun d rest hslash _ => hescaped (.inl hslash)

theorem literalValue?_literal (key : Text) :
    literalValue? (literal key) = if key.any isLineBreak then none else some key := by
  rw [literal_eq, literalValue?, readLiteral_escapeKey]
  split <;> rfl

theorem any_isLineBreak_escapeKey (key : Text) :
    (escapeKey key).any isLineBreak = key.any isLineBreak := by
  induction key with
  | nil => rfl
  | cons c key ih =>
    rw [escapeKey_cons, List.any_append, ih, List.any_cons]
    split <;> simp [isLineBreak]

theorem any_isLineBreak_identifier (h : Config.isIdentifier translateFn = true) :
    translateFn.any isLineBreak = false := by
  rw [List.any_eq_false]
  intro c hc hbreak
  have hblank := Config.isBlank_of_mem_identifier h hc
  simp only [isLineBreak, Bool.or_eq_true, beq_iff_eq] at hbreak
  rcases hbreak with rfl | rfl <;> cases hblank

theorem any_isLineBreak_call (h : Config.isIdentifier translateFn = true) (key : Text) :
    (call translateFn key).any isLineBreak = key.any isLineBreak := by
  rw [call_eq, literal_eq]
  simp [any_isLineBreak_identifier h, any_isLineBreak_escapeKey, isLineBreak]

/-- A call is the function applied to a literal that says the key, unless a line break is in the
key. Then the literal says nothing and the call has the line break too. Different keys have different
calls in any case. -/
theorem call_carries_key (h : Config.isIdentifier translateFn = true) (key : Text) :
    call translateFn key = translateFn ++ '(' :: (literal key ++ [')']) ∧
      literalValue? (literal key) = (if key.any isLineBreak then none else some key) ∧
      (call translateFn key).any isLineBreak = key.any isLineBreak ∧
      ∀ key', call translateFn key' = call translateFn key → key' = key :=
  ⟨call_eq translateFn key, literalValue?_literal key, any_isLineBreak_call h key,
    fun _ => call_injective⟩

theorem call_carries_quoted_path :
    Config.isIdentifier "$t".toList = true ∧
      call "$t".toList "say \"\\\"".toList = "$t(\"say \\\"\\\\\\\"\")".toList ∧
      literalValue? "\"say \\\"\\\\\\\"\"".toList = some "say \"\\\"".toList := by
  have hname : Config.isIdentifier "$t".toList = true := by decide
  obtain ⟨hcall, hvalue, -, -⟩ := call_carries_key hname "say \"\\\"".toList
  have hliteral : literal "say \"\\\"".toList = "\"say \\\"\\\\\\\"\"".toList := by decide +kernel
  rw [hliteral] at hcall hvalue
  exact ⟨hname, hcall, hvalue⟩

def brokenKey : Json := .object [("page\ntitle".toList, .string "Save".toList)]

/-- The literal of a key with a line feed says nothing, and the call takes up two lines. -/
theorem key_breaks_line :
    (Dictionary.ofJson brokenKey).lookup "Save".toList = some "page\ntitle".toList ∧
      literalValue? (literal "page\ntitle".toList) = none ∧
      '\n' ∈ call "t".toList "page\ntitle".toList := by
  decide +kernel

end Replacement
end Localize

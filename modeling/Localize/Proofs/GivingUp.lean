import Localize.Proofs.AttributeValue
import Localize.Proofs.NearestLine

/-! When a replacement gives up. An occurrence of the string is kept where it is at the start of an
attribute value without being the whole of it. The search stops at one line, and only the first
occurrence on this line is looked at: where it is kept nothing is replaced, whatever else the buffer
holds. So that nothing can be replaced is a reason to give up, but not the only one. -/

namespace Localize.Replacement

/-- An attribute value opens directly before the occurrence and does not close directly behind it. -/
structure Kept (before after : Text) : Prop where
  opened : ∃ front name, IsAttributeName name ∧ before = front ++ (name ++ ['=', '"'])
  unclosed : after.head? ≠ some '"'

/-- Every occurrence of the needle in the line is kept. -/
def OnlyKept (line needle : Text) : Prop :=
  ∀ before after, line = before ++ needle ++ after → Kept before after

def FirstKept (line needle : Text) : Prop :=
  ∃ before after, line = before ++ needle ++ after ∧
    (∀ before' after', line = before' ++ needle ++ after' → before.length ≤ before'.length) ∧
    Kept before after

/-- The replacement gives up only if every occurrence in the buffer is kept. -/
def GivesUpDuly (r : Replacer) (lines : Buffer) (claimed : Nat) (needle key : Text) : Prop :=
  r.replace? lines claimed needle key = none → ∀ line ∈ lines, OnlyKept line needle

variable {lines : Buffer} {line needle call before after : Text}

theorem kept_iff : Kept before after ↔ opensAttribute before = true ∧ after.head? ≠ some '"' := by
  rw [opensAttribute_iff]
  exact ⟨fun h => ⟨h.opened, h.unclosed⟩, fun h => ⟨h.1, h.2⟩⟩

theorem firstKept_iff :
    FirstKept line needle ↔
      ∃ before after, Text.cut? needle line = some (before, after) ∧ Kept before after := by
  simp only [FirstKept, Text.cut?_eq_some_iff, and_assoc]

theorem FirstKept.isInfix (h : FirstKept line needle) : needle <:+: line := by
  obtain ⟨before, after, rfl, -⟩ := h
  exact ⟨before, after, rfl⟩

theorem substitute?_eq_none_iff_of_cut? (hcut : Text.cut? needle line = some (before, after)) :
    substitute? line needle call = none ↔ Kept before after := by
  rw [substitute?, hcut, kept_iff]
  by_cases hopens : opensAttribute before = true
  · cases after with
    | nil => simp [hopens]
    | cons c after => by_cases hc : c = '"' <;> simp [hopens, hc]
  · simp [hopens]

theorem substitute?_eq_none_iff (hin : needle <:+: line) :
    substitute? line needle call = none ↔ FirstKept line needle := by
  obtain ⟨⟨before, after⟩, hcut⟩ := Option.isSome_iff_exists.1 (Text.includes_iff.2 hin)
  rw [substitute?_eq_none_iff_of_cut? hcut, firstKept_iff]
  constructor
  · intro hkept
    exact ⟨before, after, hcut, hkept⟩
  · rintro ⟨before', after', hcut', hkept⟩
    rw [hcut] at hcut'
    cases hcut'
    exact hkept

theorem onlyKept_of_forall_not_holds (h : ∀ i, ¬ Holds lines needle i) :
    ∀ line ∈ lines, OnlyKept line needle := by
  rintro line hmem before after rfl
  obtain ⟨i, hi⟩ := List.mem_iff_getElem?.1 hmem
  exact absurd ⟨_, hi, before, after, rfl⟩ (h i)

variable {r : Replacer} {claimed : Nat} {key : Text}

/-- The replacement gives up where the first occurrence on the line that is found is kept. -/
theorem replace?_eq_none_iff (hne : needle ≠ []) :
    r.replace? lines claimed needle key = none ↔ (∀ i, ¬ Holds lines needle i) ∨
      ∃ i line, Chosen lines claimed needle r.searchRadius i ∧ lines[i]? = some line ∧
        FirstKept line needle := by
  constructor
  · intro hnone
    cases hlocated : locate? lines claimed needle r.searchRadius with
    | none => exact .inl ((locate?_eq_none_iff.1 hlocated).resolve_left hne)
    | some i =>
      obtain ⟨-, line, hline, hin⟩ := holds_of_locate? hlocated
      rw [Replacer.replace?_of_locate? key hlocated hline, Option.map_eq_none_iff,
        substitute?_eq_none_iff hin] at hnone
      exact .inr ⟨i, line, (locate?_eq_some_iff.1 hlocated).2, hline, hnone⟩
  · rintro (hnowhere | ⟨i, line, hchosen, hline, hkept⟩)
    · have hlocated : locate? lines claimed needle r.searchRadius = none :=
        locate?_eq_none_iff.2 (.inr hnowhere)
      rw [Replacer.replace?, hlocated]
      rfl
    · have hlocated := locate?_eq_some_iff.2 ⟨hne, hchosen⟩
      rw [Replacer.replace?_of_locate? key hlocated hline, Option.map_eq_none_iff,
        substitute?_eq_none_iff hkept.isInfix]
      exact hkept

/-- Every line that holds the needle is the one that is found if it is claimed. -/
theorem exists_replace?_eq_none (r : Replacer) (key : Text) (hne : needle ≠ [])
    (hmem : line ∈ lines) (hkept : FirstKept line needle) :
    ∃ claimed, r.replace? lines claimed needle key = none := by
  obtain ⟨i, hi⟩ := List.mem_iff_getElem?.1 hmem
  refine ⟨i + 1, ?_⟩
  have hlocated : locate? lines (i + 1) needle r.searchRadius = some i :=
    locate?_of_claimed hne (Nat.succ_ne_zero i) hi hkept.isInfix
  rw [Replacer.replace?_of_locate? key hlocated hi, Option.map_eq_none_iff,
    substitute?_eq_none_iff hkept.isInfix]
  exact hkept

/-- A replacement gives up exactly if no line holds the string, or if on the line that is found its
first occurrence is kept. Otherwise this one line is rewritten and no other. It gives up only when
nothing can be replaced, whichever line is claimed, exactly if all occurrences are kept or on no line
the first one is. -/
theorem gives_up_exactly (r : Replacer) (lines : Buffer) (key : Text) (hne : needle ≠ []) :
    (∀ claimed, r.replace? lines claimed needle key = none ↔ (∀ i, ¬ Holds lines needle i) ∨
      ∃ i line, Chosen lines claimed needle r.searchRadius i ∧ lines[i]? = some line ∧
        FirstKept line needle) ∧
    (∀ claimed done final, r.replace? lines claimed needle key = some (done, final) →
      Chosen lines claimed needle r.searchRadius done.lineIndex ∧
      lines[done.lineIndex]? = some done.before ∧ final[done.lineIndex]? = some done.after ∧
      final.length = lines.length ∧ ∀ n, n ≠ done.lineIndex → final[n]? = lines[n]?) ∧
    ((∀ claimed, GivesUpDuly r lines claimed needle key) ↔
      (∀ line ∈ lines, OnlyKept line needle) ∨ ∀ line ∈ lines, ¬ FirstKept line needle) := by
  refine ⟨fun claimed => replace?_eq_none_iff hne, fun claimed done final hdone => ?_,
    fun hduly => ?_, fun hcases claimed hnone => ?_⟩
  · obtain ⟨hlocated, hbefore, -, rfl⟩ := Replacer.replace?_eq_some.1 hdone
    obtain ⟨hlength, -⟩ := List.getElem?_eq_some_iff.1 hbefore
    exact ⟨(locate?_eq_some_iff.1 hlocated).2, hbefore, List.getElem?_set_self hlength,
      List.length_set, fun n hn => List.getElem?_set_ne hn.symm⟩
  · refine or_iff_not_imp_right.2 fun hfirst => ?_
    push Not at hfirst
    obtain ⟨line, hmem, hkept⟩ := hfirst
    -- A line whose first occurrence is kept is given up if it is claimed.
    obtain ⟨claimed, hnone⟩ := exists_replace?_eq_none r key hne hmem hkept
    exact hduly claimed hnone
  · rcases (replace?_eq_none_iff hne).1 hnone with hnowhere | ⟨i, line, -, hline, hkept⟩
    · exact onlyKept_of_forall_not_holds hnowhere
    · exact hcases.resolve_right fun hno => hno line (List.mem_of_getElem? hline) hkept

def translator : Replacer := ⟨"t".toList, 10⟩

/-- The text comes first on its line, and the part of a value behind it. -/
def textThenPart : Buffer := ["<p>Click me</p><b title=\"Click me now\" />".toList, button "Click me"]

theorem gives_up_exactly_textThenPart :
    "Click me".toList ≠ [] ∧
      ∀ claimed, GivesUpDuly translator textThenPart claimed "Click me".toList "a".toList := by
  have hne : "Click me".toList ≠ [] := by decide
  refine ⟨hne, (gives_up_exactly translator textThenPart "a".toList hne).2.2.2 (.inr ?_)⟩
  intro line hmem hkept
  have hgiven : substitute? line "Click me".toList [] = none :=
    (substitute?_eq_none_iff hkept.isInfix).2 hkept
  rw [textThenPart, List.mem_pair] at hmem
  rcases hmem with rfl | rfl
  · exact absurd hgiven (by decide)
  · exact absurd hgiven (by decide)

/-- The part of a value comes first, on an earlier line and on the same one. -/
def partThenText : Buffer := [button "Click me now", "<p>Click me</p>".toList]

def partBeforeText : Text := "<Button label=\"Click me now\">Click me</Button>".toList

/-- A text that could be replaced is given up. -/
theorem replaceable_text_given_up :
    translator.replace? partThenText 1 "Click me".toList "a".toList = none ∧
      translator.replace? partThenText 2 "Click me".toList "a".toList =
        some (⟨1, "<p>Click me</p>".toList, "<p>\x7bt(\"a\")\x7d</p>".toList⟩,
          [button "Click me now", "<p>\x7bt(\"a\")\x7d</p>".toList]) ∧
      ¬ GivesUpDuly translator partThenText 1 "Click me".toList "a".toList ∧
      translator.replace? [partBeforeText] 1 "Click me".toList "a".toList = none ∧
      ¬ GivesUpDuly translator [partBeforeText] 1 "Click me".toList "a".toList := by
  have hlines : translator.replace? partThenText 1 "Click me".toList "a".toList = none := by
    decide +kernel
  have hline : translator.replace? [partBeforeText] 1 "Click me".toList "a".toList = none := by
    decide +kernel
  refine ⟨hlines, by decide +kernel, fun hduly => ?_, hline, fun hduly => ?_⟩
  · have hkept := hduly hlines "<p>Click me</p>".toList (by decide) "<p>".toList "</p>".toList
      (by decide)
    exact absurd (kept_iff.1 hkept).1 (by decide)
  · have hkept := hduly hline partBeforeText (by decide)
      "<Button label=\"Click me now\">".toList "</Button>".toList (by decide)
    exact absurd (kept_iff.1 hkept).1 (by decide)

end Localize.Replacement

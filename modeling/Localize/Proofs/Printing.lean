import Localize.Console.Printer
import Localize.Proofs.Text

/-! How far printing gets. It breaks off at the first write that there is nothing for, which is a
line with a field of a width above the limit. In the report of a run only the lines of a replacement
have such fields: the gutter, and the indent of the caret. -/

namespace Localize

theorem Text.width_of_printable {t : Text} (h : ∀ c ∈ t, ' ' ≤ c ∧ c ≤ '~') :
    width t = t.length := by
  have hcount : t.foldr countColumns (0, {}) = ((t.length : Int), {}) := by
    induction t with
    | nil => rfl
    | cons c t ih =>
      obtain ⟨⟨hlow, hhigh⟩, ht⟩ := List.forall_mem_cons.1 h
      have hcolumns : Behind.columns {} c = (1, {}) := by
        have hsmall : c.toNat ≤ 0xA0 := Nat.le_trans (Char.le_def.1 hhigh) (by decide)
        have hlf : c ≠ '\n' := fun heq => absurd hlow (by rw [heq]; decide)
        simp [Behind.columns, Behind.plainColumns, hsmall, hlf]
      rw [List.foldr_cons, ih ht, countColumns, hcolumns]
      simp
  rw [width, hcount, Int.toNat_natCast]

namespace Console

variable {ws ws' : List Write} {ps : List Piece} {width gutter : Nat}

theorem breaksOff_iff : breaksOff ws = true ↔ none ∈ ws := by
  simp [breaksOff, List.any_eq_true]

theorem written_singleton (ps : List Piece) : written [some ps] = ps := List.append_nil ps

theorem exists_of_mem_written {p : Piece} (h : p ∈ written ws) : ∃ ps, some ps ∈ ws ∧ p ∈ ps := by
  induction ws with
  | nil => cases h
  | cons w ws ih =>
    cases w with
    | none => cases h
    | some ps =>
      rcases List.mem_append.1 h with hhere | hrest
      · exact ⟨ps, List.mem_cons_self, hhere⟩
      · obtain ⟨ps', hps', hp⟩ := ih hrest
        exact ⟨ps', List.mem_cons_of_mem _ hps', hp⟩

theorem padLeft?_of_le (h : width ≤ widthLimit) (t : Text) :
    padLeft? width t = some (List.replicate (width - t.length) ' ' ++ t) := if_pos h

theorem padLeft?_eq_none_iff {t : Text} : padLeft? width t = none ↔ widthLimit < width := by
  unfold padLeft?
  split
  · rename_i h
    exact iff_of_false nofun (Nat.not_lt.2 h)
  · rename_i h
    exact iff_of_true rfl (Nat.lt_of_not_le h)

theorem markedLine_eq_none_iff {colour : Colour} {mark : Char} {line : Text} :
    markedLine gutter colour mark line = none ↔ widthLimit < gutter := by
  rw [← padLeft?_eq_none_iff (t := [mark]), markedLine]
  cases padLeft? gutter [mark] <;> simp

theorem caretLine_eq_none_iff {x : Applied} :
    caretLine gutter x = none ↔ widthLimit < gutter ∨ widthLimit < caretColumn x.replacement := by
  rw [← padLeft?_eq_none_iff (t := []), ← padLeft?_eq_none_iff (t := []), caretLine]
  cases padLeft? gutter [] <;> cases padLeft? (caretColumn x.replacement) [] <;> simp

theorem none_mem_replacementLines {path : Text} {x : Applied} :
    none ∈ replacementLines path gutter x ↔
      widthLimit < gutter ∨ widthLimit < caretColumn x.replacement := by
  simp only [replacementLines, List.mem_cons, List.not_mem_nil, or_false, reduceCtorEq, false_or,
    @eq_comm _ none, Option.map_eq_none_iff, padLeft?_eq_none_iff, markedLine_eq_none_iff,
    caretLine_eq_none_iff]
  tauto

theorem none_mem_changeLines {projectRoot : Path} {c : FileChange} :
    none ∈ changeLines projectRoot c ↔ ∃ x ∈ c.replacements,
      widthLimit < Console.gutter c ∨ widthLimit < caretColumn x.replacement := by
  simp [changeLines, none_mem_replacementLines]

/-- The report of a run breaks off exactly if its changes are shown and a replacement among them
needs a field that is too wide. -/
theorem breaksOff_accountLines_iff {r : Account} {projectRoot : Path} {verbose : Bool} :
    breaksOff (accountLines r projectRoot verbose) = true ↔
      (r.dryRun = true ∨ verbose = true) ∧ ∃ c ∈ r.changes, ∃ x ∈ c.replacements,
        widthLimit < Console.gutter c ∨ widthLimit < caretColumn x.replacement := by
  have hskipped : none ∉ if verbose then
      r.skipped.map fun s => (some (skippedLines projectRoot s) : Write) else [] := by
    split <;> simp
  rw [breaksOff_iff, accountLines, List.mem_append, List.mem_append]
  simp only [hskipped, List.mem_singleton, reduceCtorEq, or_false]
  split <;> simp_all [none_mem_changeLines]

/-- The numbers of lines fill no more columns than a 64-bit number has digits. -/
theorem gutter_le_widthLimit {c : FileChange}
    (h : ∀ x ∈ c.replacements, x.replacement.lineIndex < Text.wordLimit) :
    Console.gutter c ≤ widthLimit := by
  unfold Console.gutter
  cases hmax : (c.replacements.map fun a =>
      (Text.ofNat (a.replacement.lineIndex + 1)).length).max? with
  | none => decide
  | some n =>
    obtain ⟨x, hx, rfl⟩ := List.mem_map.1 (List.max?_mem hmax)
    have hdigits : (Text.ofNat (x.replacement.lineIndex + 1)).length ≤ 20 := by
      rw [Text.ofNat, Nat.length_toDigits_le_iff (by decide) (by decide)]
      have hindex := h x hx
      rw [Text.wordLimit] at hindex
      omega
    exact hdigits.trans (by decide)

end Console
end Localize

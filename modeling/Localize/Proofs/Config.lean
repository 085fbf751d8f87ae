import Mathlib.Tactic.SplitIfs
import Localize.Config
import Localize.Proofs.Text

/-! What a usable configuration is made of, and which characters its identifiers hold. -/

namespace Localize.Config

theorem isValid_iff {c : Config} :
    c.IsValid ↔ c.lintCommand.head?.all Text.isAllBlank = false ∧ c.extensions ≠ [] ∧
      Text.isAllBlank c.sourceRoot = false ∧ Text.isAllBlank c.issueMarker = false ∧
      isIdentifier c.hookName = true ∧ isIdentifier c.translateFn = true := by
  unfold IsValid flaw?
  split_ifs <;> simp_all

theorem IsValid.lintCommand_ne_nil {c : Config} (h : c.IsValid) : c.lintCommand ≠ [] := by
  intro hnil
  have hprogram := (isValid_iff.1 h).1
  rw [hnil] at hprogram
  cases hprogram

theorem ne_nil_of_isIdentifier {t : Text} (h : isIdentifier t = true) : t ≠ [] := by
  rintro rfl
  cases h

theorem forall_mem_of_isIdentifier {t : Text} (h : isIdentifier t = true) :
    ∀ c ∈ t, startsIdentifier c = true ∨ Text.isDigit c = true := by
  cases t with
  | nil => cases h
  | cons d ds =>
    rw [isIdentifier, Bool.and_eq_true, List.all_eq_true] at h
    intro c hc
    rcases List.mem_cons.1 hc with rfl | hc
    · exact .inl h.1
    · exact Bool.or_eq_true _ _ ▸ h.2 c hc

/-- Letters, digits and the underscore are word characters; the dollar sign is none. -/
theorem isWord_of_mem_identifier {t : Text} (h : isIdentifier t = true) {c : Char} (hc : c ∈ t)
    (hdollar : c ≠ '$') : Text.isWord c = true := by
  have hclass := forall_mem_of_isIdentifier h c hc
  simp only [startsIdentifier, Bool.or_eq_true, beq_iff_eq, hdollar, or_false] at hclass
  have hascii : c.toNat < 0x80 := by
    rcases hclass with (hletter | rfl) | hdigit
    · simp only [Text.isLetter, Bool.or_eq_true, Bool.and_eq_true, decide_eq_true_eq, Char.le_def,
        UInt32.le_iff_toNat_le] at hletter
      rcases hletter with ⟨-, h⟩ | ⟨-, h⟩
      · exact Nat.lt_of_le_of_lt h (by decide)
      · exact Nat.lt_of_le_of_lt h (by decide)
    · decide
    · simp only [Text.isDigit, Bool.and_eq_true, decide_eq_true_eq, Char.le_def,
        UInt32.le_iff_toNat_le] at hdigit
      exact Nat.lt_of_le_of_lt hdigit.2 (by decide)
  rw [Text.isWord, if_pos hascii]
  rcases hclass with (hletter | rfl) | hdigit
  · simp [hletter]
  · rfl
  · simp [hdigit]

theorem isBlank_of_mem_identifier {t : Text} (h : isIdentifier t = true) {c : Char} (hc : c ∈ t) :
    Text.isBlank c = false := by
  by_cases hdollar : c = '$'
  · rw [hdollar]
    rfl
  · rw [Bool.eq_false_iff]
    intro hblank
    have hword := isWord_of_mem_identifier h hc hdollar
    rw [Text.isWord_of_isBlank hblank] at hword
    cases hword

theorem not_mem_identifier {t : Text} (h : isIdentifier t = true) {c : Char}
    (hstart : startsIdentifier c = false) (hdigit : Text.isDigit c = false) : c ∉ t := by
  intro hc
  rcases forall_mem_of_isIdentifier h c hc with hs | hd
  · rw [hstart] at hs
    cases hs
  · rw [hdigit] at hd
    cases hd

end Localize.Config

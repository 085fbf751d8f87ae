import Mathlib.Data.List.Infix
import Localize.Text.Pattern

/-! What the patterns match. A pattern is known by the rests it leaves: each lemma says which rests
these are, so that the search for a pattern becomes a way to cut the text. What is left is always
the end of the text. -/

namespace Localize.Pattern

variable {t rest : Text}

theorem mem_lit {word : Text} : rest ∈ lit word t ↔ t = word ++ rest := by
  rw [lit, Option.mem_toList, List.isPrefixOf?_eq_some_iff_append_eq]
  exact eq_comm

theorem mem_one {p : Char → Bool} : rest ∈ one p t ↔ ∃ c, p c = true ∧ t = c :: rest := by
  cases t with
  | nil => simp [one]
  | cons c cs =>
    by_cases hc : p c = true
    · rw [one, if_pos hc, List.mem_singleton]
      constructor
      · rintro rfl
        exact ⟨c, hc, rfl⟩
      · rintro ⟨d, -, h⟩
        exact (List.cons.inj h).2.symm
    · rw [one, if_neg hc]
      constructor
      · intro h
        cases h
      · rintro ⟨d, hd, h⟩
        exact absurd ((List.cons.inj h).1 ▸ hd) hc

theorem mem_many {p : Char → Bool} :
    rest ∈ many p t ↔ ∃ w : Text, (∀ c ∈ w, p c = true) ∧ t = w ++ rest := by
  induction t with
  | nil =>
    rw [many, List.mem_singleton]
    constructor
    · rintro rfl
      exact ⟨[], nofun, rfl⟩
    · rintro ⟨w, -, h⟩
      exact (List.nil_eq_append_iff.1 h).2
  | cons c cs ih =>
    by_cases hc : p c = true
    · rw [many, if_pos hc, List.mem_append, ih, List.mem_singleton]
      constructor
      · rintro (⟨w, hw, rfl⟩ | rfl)
        · exact ⟨c :: w, List.forall_mem_cons.2 ⟨hc, hw⟩, rfl⟩
        · exact ⟨[], nofun, rfl⟩
      · rintro ⟨w, hw, h⟩
        cases w with
        | nil => exact .inr h.symm
        | cons d w =>
          obtain ⟨-, h⟩ := List.cons.inj h
          exact .inl ⟨w, fun e he => hw e (List.mem_cons_of_mem _ he), h⟩
    · rw [many, if_neg hc, List.mem_singleton]
      constructor
      · rintro rfl
        exact ⟨[], nofun, rfl⟩
      · rintro ⟨w, hw, h⟩
        cases w with
        | nil => exact h.symm
        | cons d w =>
          obtain ⟨rfl, -⟩ := List.cons.inj h
          exact absurd (hw c List.mem_cons_self) hc

theorem mem_many_ne {c : Char} :
    rest ∈ many (· != c) t ↔ ∃ w : Text, c ∉ w ∧ t = w ++ rest := by
  have hclass (w : Text) : (∀ d ∈ w, (d != c) = true) ↔ c ∉ w := by
    simp only [bne_iff_ne, ne_eq]
    exact ⟨fun h hc => h c hc rfl, fun h d hd he => h (he ▸ hd)⟩
  simp only [mem_many, hclass]

theorem mem_seq_nil : rest ∈ seq [] t ↔ t = rest := by
  rw [seq, List.mem_singleton]
  exact eq_comm

theorem mem_seq_cons {p : Pattern} {ps : List Pattern} :
    rest ∈ seq (p :: ps) t ↔ ∃ mid ∈ p t, rest ∈ seq ps mid := by
  rw [seq, List.mem_flatMap]

theorem mem_char {c : Char} : rest ∈ char c t ↔ t = c :: rest := by
  rw [char, mem_one]
  simp

theorem mem_blanks :
    rest ∈ blanks t ↔ ∃ w : Text, (∀ c ∈ w, Text.isBlank c = true) ∧ t = w ++ rest := mem_many

theorem mem_word {w : String} : rest ∈ word w t ↔ t = w.toList ++ rest := mem_lit

theorem mem_alt {ps : List Pattern} : rest ∈ alt ps t ↔ ∃ p ∈ ps, rest ∈ p t := by
  rw [alt, List.mem_flatMap]

theorem mem_opt {p : Pattern} : rest ∈ opt p t ↔ rest ∈ p t ∨ rest = t := by
  rw [opt, List.mem_append, List.mem_singleton]

theorem mem_eot : rest ∈ eot t ↔ t = [] ∧ rest = [] := by
  cases t <;> simp [eot]

/-- What the pattern leaves is the end of the text. -/
def LeavesEnd (p : Pattern) : Prop := ∀ t, ∀ rest ∈ p t, rest <:+ t

namespace LeavesEnd

@[simp] theorem lit (word : Text) : LeavesEnd (lit word) := by
  intro t rest h
  rw [mem_lit.1 h]
  exact List.suffix_append _ _

@[simp] theorem word (w : String) : LeavesEnd (word w) := lit w.toList

@[simp] theorem one (p : Char → Bool) : LeavesEnd (one p) := by
  intro t rest h
  obtain ⟨c, -, rfl⟩ := mem_one.1 h
  exact List.suffix_cons _ _

@[simp] theorem char (c : Char) : LeavesEnd (char c) := one _

@[simp] theorem many (p : Char → Bool) : LeavesEnd (many p) := by
  intro t rest h
  obtain ⟨w, -, rfl⟩ := mem_many.1 h
  exact List.suffix_append _ _

@[simp] theorem blanks : LeavesEnd blanks := many _

@[simp] theorem opt {p : Pattern} (h : LeavesEnd p) : LeavesEnd (opt p) := by
  intro t rest hrest
  rcases mem_opt.1 hrest with hrest | rfl
  · exact h t rest hrest
  · exact List.suffix_refl _

@[simp] theorem alt {ps : List Pattern} (h : ∀ p ∈ ps, LeavesEnd p) : LeavesEnd (alt ps) := by
  intro t rest hrest
  obtain ⟨p, hp, hrest⟩ := mem_alt.1 hrest
  exact h p hp t rest hrest

@[simp] theorem seq {ps : List Pattern} (h : ∀ p ∈ ps, LeavesEnd p) : LeavesEnd (seq ps) := by
  intro t rest hrest
  induction ps generalizing t with
  | nil =>
    rw [mem_seq_nil.1 hrest]
  | cons p ps ih =>
    obtain ⟨hp, hps⟩ := List.forall_mem_cons.1 h
    obtain ⟨mid, hmid, hrest⟩ := mem_seq_cons.1 hrest
    exact (ih hps mid hrest).trans (hp t mid hmid)

@[simp] theorem someBlanks : LeavesEnd someBlanks := seq (by simp)

end LeavesEnd

/-- Where the pattern matches, the text starts with one of these characters. -/
def BeginsWith (cs : List Char) (p : Pattern) : Prop := ∀ t, ∀ rest ∈ p t, ∃ c ∈ t.head?, c ∈ cs

namespace BeginsWith

variable {cs : List Char} {p : Pattern} {ps : List Pattern}

theorem word {w : String} {c : Char} (hw : w.toList.head? = some c) (hc : c ∈ cs) :
    BeginsWith cs (word w) := by
  intro t rest h
  rw [mem_word.1 h, List.head?_append, hw]
  exact ⟨c, rfl, hc⟩

theorem seq (h : BeginsWith cs p) : BeginsWith cs (seq (p :: ps)) := by
  intro t rest hrest
  obtain ⟨mid, hmid, -⟩ := mem_seq_cons.1 hrest
  exact h t mid hmid

theorem seq_opt (h : BeginsWith cs p) (hps : BeginsWith cs (Pattern.seq ps)) :
    BeginsWith cs (Pattern.seq (opt p :: ps)) := by
  intro t rest hrest
  obtain ⟨mid, hmid, hbehind⟩ := mem_seq_cons.1 hrest
  rcases mem_opt.1 hmid with hmid | rfl
  · exact h t mid hmid
  · exact hps mid rest hbehind

theorem alt (h : ∀ p ∈ ps, BeginsWith cs p) : BeginsWith cs (alt ps) := by
  intro t rest hrest
  obtain ⟨p, hp, hrest⟩ := mem_alt.1 hrest
  exact h p hp t rest hrest

end BeginsWith

theorem atStart_iff {p : Pattern} : atStart p t = true ↔ ∃ rest, rest ∈ p t := by
  rw [atStart, Bool.not_eq_true', List.isEmpty_eq_false_iff_exists_mem]

theorem anywhere_iff {p : Pattern} :
    anywhere p t = true ↔ ∃ before after rest, t = before ++ after ∧ rest ∈ p after := by
  induction t with
  | nil =>
    rw [anywhere, Bool.or_false, atStart_iff]
    constructor
    · rintro ⟨rest, h⟩
      exact ⟨[], [], rest, rfl, h⟩
    · rintro ⟨before, after, rest, heq, h⟩
      obtain ⟨rfl, rfl⟩ := List.nil_eq_append_iff.1 heq
      exact ⟨rest, h⟩
  | cons c cs ih =>
    rw [anywhere, Bool.or_eq_true, atStart_iff, ih]
    constructor
    · rintro (⟨rest, h⟩ | ⟨before, after, rest, rfl, h⟩)
      · exact ⟨[], c :: cs, rest, rfl, h⟩
      · exact ⟨c :: before, after, rest, rfl, h⟩
    · rintro ⟨before, after, rest, heq, h⟩
      cases before with
      | nil =>
        subst heq
        exact .inl ⟨rest, h⟩
      | cons d before => exact .inr ⟨before, after, rest, (List.cons.inj heq).2, h⟩

end Localize.Pattern

import Mathlib.Data.List.Infix
import Mathlib.Data.List.TakeWhile
import Localize.Text.Class.Word
import Localize.Text.Encoding
import Localize.Text.Find
import Localize.Text.Lines

/-! Facts about texts. The two sides of a cut and the needle make up the text, there is a cut
exactly where the needle is a stretch of the text, and it is at the leftmost one. Fields that hold no
separator come back out of their join, and lines out of a text that ends each of them. Trimming takes
away the blanks around a text and nothing else. A numeral is read as its number, and bytes that
encode a text are read as it. -/

namespace Localize.Text

theorem eq_of_cut? {needle t before after : Text} (h : cut? needle t = some (before, after)) :
    t = before ++ needle ++ after := by
  induction t generalizing before with
  | nil =>
    unfold cut? at h
    split at h
    · rename_i rest hrest
      cases h
      simpa using (List.isPrefixOf?_eq_some_iff_append_eq.1 hrest).symm
    · cases h
  | cons c cs ih =>
    unfold cut? at h
    split at h
    · rename_i rest hrest
      cases h
      simpa using (List.isPrefixOf?_eq_some_iff_append_eq.1 hrest).symm
    · obtain ⟨⟨before', after'⟩, hcut, heq⟩ := Option.map_eq_some_iff.1 h
      cases heq
      rw [ih hcut]
      rfl

theorem cut?_cons_of_not_prefix {needle cs : Text} {c : Char} (h : ¬ needle <+: c :: cs) :
    cut? needle (c :: cs) = (cut? needle cs).map fun (before, after) => (c :: before, after) := by
  rw [cut?]
  split
  · rename_i rest hrest
    exact absurd ⟨rest, List.isPrefixOf?_eq_some_iff_append_eq.1 hrest⟩ h
  · rfl

theorem cut?_of_prefix {needle t : Text} (h : needle <+: t) :
    ∃ after, cut? needle t = some ([], after) := by
  obtain ⟨rest, hrest⟩ := h
  have hp : needle.isPrefixOf? t = some rest := List.isPrefixOf?_eq_some_iff_append_eq.2 hrest
  exact ⟨rest, by cases t <;> rw [cut?, hp]⟩

theorem includes_iff {t needle : Text} : includes t needle = true ↔ needle <:+: t := by
  constructor
  · intro h
    obtain ⟨⟨before, after⟩, hcut⟩ := Option.isSome_iff_exists.1 h
    exact ⟨before, after, (eq_of_cut? hcut).symm⟩
  · intro h
    induction t with
    | nil =>
      have hp : needle <+: [] := by rw [List.infix_nil.1 h]
      obtain ⟨after, hcut⟩ := cut?_of_prefix hp
      simp [includes, hcut]
    | cons c cs ih =>
      by_cases hp : needle <+: c :: cs
      · obtain ⟨after, hcut⟩ := cut?_of_prefix hp
        simp [includes, hcut]
      · have htail := ih ((List.infix_cons_iff.1 h).resolve_left hp)
        rw [includes, cut?_cons_of_not_prefix hp, Option.isSome_map]
        exact htail

theorem length_le_of_cut? {needle t before after before' after' : Text}
    (h : cut? needle t = some (before, after)) (heq : t = before' ++ needle ++ after') :
    before.length ≤ before'.length := by
  induction t generalizing before before' with
  | nil =>
    obtain ⟨hfront, -⟩ := List.append_eq_nil_iff.1 (eq_of_cut? h).symm
    rw [(List.append_eq_nil_iff.1 hfront).1]
    exact Nat.zero_le _
  | cons c cs ih =>
    by_cases hp : needle <+: c :: cs
    · obtain ⟨rest, hcut⟩ := cut?_of_prefix hp
      rw [hcut] at h
      cases h
      exact Nat.zero_le _
    · rw [ cut?_cons_of_not_prefix hp] at h
      obtain ⟨⟨before, after⟩, hcut, hcons⟩ := Option.map_eq_some_iff.1 h
      cases hcons
      cases before' with
      | nil => exact absurd ⟨after', heq.symm⟩ hp
      | cons d before' => exact Nat.succ_le_succ (ih hcut (List.cons.inj heq).2)

theorem cut?_eq_some_iff {needle t before after : Text} :
    cut? needle t = some (before, after) ↔ t = before ++ needle ++ after ∧
      ∀ before' after', t = before' ++ needle ++ after' → before.length ≤ before'.length := by
  constructor
  · intro h
    exact ⟨eq_of_cut? h, fun _ _ => length_le_of_cut? h⟩
  · rintro ⟨heq, hfirst⟩
    obtain ⟨⟨before', after'⟩, hcut⟩ :=
      Option.isSome_iff_exists.1 (includes_iff.2 ⟨before, after, heq.symm⟩)
    have hcuts := eq_of_cut? hcut
    have hlength : before'.length = before.length :=
      Nat.le_antisymm (length_le_of_cut? hcut heq) (hfirst before' after' hcuts)
    rw [heq, List.append_assoc, List.append_assoc] at hcuts
    obtain ⟨rfl, hrest⟩ := List.append_inj hcuts.symm hlength
    rw [hcut, List.append_cancel_left hrest]

theorem getElem?_middle {before mid after : Text} {n : Nat} (hle : before.length ≤ n)
    (hlt : n < before.length + mid.length) :
    (before ++ mid ++ after)[n]? = mid[n - before.length]? := by
  rw [List.append_assoc, List.getElem?_append_right hle, List.getElem?_append_left (by omega)]

theorem eq_of_append_cons_eq {c : Char} {as bs as' bs' : Text} (has : c ∉ as) (has' : c ∉ as')
    (h : as ++ c :: bs = as' ++ c :: bs') : as = as' ∧ bs = bs' := by
  induction as generalizing as' with
  | nil =>
    cases as' with
    | nil => exact ⟨rfl, (List.cons.inj h).2⟩
    | cons a' as' => exact absurd ((List.cons.inj h).1 ▸ List.mem_cons_self) has'
  | cons a as ih =>
    cases as' with
    | nil => exact absurd ((List.cons.inj h).1 ▸ List.mem_cons_self) has
    | cons a' as' =>
      rw [List.cons_append, List.cons_append, List.cons.injEq] at h
      obtain ⟨rfl, h⟩ := h
      obtain ⟨rfl, rfl⟩ := ih (fun hc => has (List.mem_cons_of_mem _ hc))
        (fun hc => has' (List.mem_cons_of_mem _ hc)) h
      exact ⟨rfl, rfl⟩

theorem eq_of_append_cons_eq_of_not_mem {c : Char} {as bs as' bs' : Text} (has' : c ∉ as')
    (hbs' : c ∉ bs') (h : as ++ c :: bs = as' ++ c :: bs') : as = as' ∧ bs = bs' := by
  have has : c ∉ as := by
    intro hc
    obtain ⟨front, back, rfl, hfront⟩ := List.eq_append_cons_of_mem hc
    rw [List.append_assoc, List.cons_append] at h
    obtain ⟨-, rfl⟩ := eq_of_append_cons_eq hfront has' h
    exact hbs' (List.mem_append_right _ List.mem_cons_self)
  exact eq_of_append_cons_eq has has' h

theorem fields_of_not_mem {sep : Char} {f : Text} (h : sep ∉ f) : fields sep f = [f] := by
  induction f with
  | nil => rfl
  | cons c f ih =>
    rw [List.mem_cons, not_or] at h
    rw [fields, if_neg (Ne.symm h.1), ih h.2]

theorem fields_append (sep : Char) (f t : Text) :
    fields sep (f ++ sep :: t) = fields sep f ++ fields sep t := by
  induction f with
  | nil => exact if_pos rfl
  | cons c f ih =>
    rw [List.cons_append, fields, ih, fields]
    by_cases hc : c = sep
    · rw [if_pos hc, if_pos hc, List.cons_append]
    · obtain ⟨g, gs, hgs⟩ := List.exists_cons_of_ne_nil (fields_ne_nil sep f)
      rw [if_neg hc, if_neg hc, hgs]
      rfl

theorem fields_append_cons {sep : Char} {f : Text} (h : sep ∉ f) (t : Text) :
    fields sep (f ++ sep :: t) = f :: fields sep t := by
  rw [fields_append, fields_of_not_mem h, List.singleton_append]

theorem fields_joined {sep : Char} {fs : List Text} (hne : fs ≠ []) (h : ∀ f ∈ fs, sep ∉ f) :
    fields sep (joined [sep] fs) = fs := by
  induction fs with
  | nil => exact absurd rfl hne
  | cons f fs ih =>
    obtain ⟨hf, hfs⟩ := List.forall_mem_cons.1 h
    cases fs with
    | nil => rw [joined_singleton, fields_of_not_mem hf]
    | cons g fs =>
      rw [joined_cons_cons, List.append_assoc, List.singleton_append, fields_append_cons hf,
        ih (List.cons_ne_nil g fs) hfs]

theorem mem_iff_mem_fields {c sep : Char} (hc : c ≠ sep) (t : Text) :
    c ∈ t ↔ ∃ f ∈ fields sep t, c ∈ f := by
  induction t with
  | nil => simp [fields]
  | cons d t ih =>
    rw [List.mem_cons, ih, fields]
    by_cases hd : d = sep
    · simp [hd, hc]
    · obtain ⟨f, fs, hfs⟩ := List.exists_cons_of_ne_nil (fields_ne_nil sep t)
      simp [hd, hfs, or_assoc]

/-- A text is one field, or a field and a further text with a separator between them. -/
@[elab_as_elim]
theorem fieldInduction (sep : Char) {motive : Text → Prop} (last : ∀ f, sep ∉ f → motive f)
    (field : ∀ f t, sep ∉ f → motive t → motive (f ++ sep :: t)) (t : Text) : motive t := by
  induction hlen : t.length using Nat.strong_induction_on generalizing t with
  | h n ih =>
    by_cases hsep : sep ∈ t
    · obtain ⟨f, rest, rfl, hf⟩ := List.eq_append_cons_of_mem hsep
      refine field f rest hf (ih rest.length ?_ rest rfl)
      rw [← hlen, List.length_append, List.length_cons]
      omega
    · exact last t hsep

/-- The fields are the stretches without a separator that reach from one separator, or an end of the
text, to the next. -/
theorem mem_fields_iff {sep : Char} {f t : Text} :
    f ∈ fields sep t ↔ sep ∉ f ∧ ∃ before after, t = before ++ (f ++ after) ∧
      (∀ c ∈ before.getLast?, c = sep) ∧ ∀ c ∈ after.head?, c = sep := by
  constructor
  · induction t using fieldInduction sep with
    | last t hsep =>
      rw [fields_of_not_mem hsep, List.mem_singleton]
      rintro rfl
      exact ⟨hsep, [], [], by simp, nofun, nofun⟩
    | field g t hg ih =>
      rw [fields_append_cons hg, List.mem_cons]
      rintro (rfl | hmem)
      · exact ⟨hg, [], sep :: t, rfl, nofun, by simp⟩
      · obtain ⟨hf, before, after, rfl, hbefore, hafter⟩ := ih hmem
        refine ⟨hf, g ++ sep :: before, after, by simp, fun c hc => ?_, hafter⟩
        rw [List.getLast?_append_of_ne_nil _ (List.cons_ne_nil _ _), List.getLast?_cons] at hc
        cases hlast : before.getLast? with
        | none => simpa [hlast, eq_comm] using hc
        | some d =>
          rw [hlast] at hc
          exact hbefore c (hlast.trans hc)
  · rintro ⟨hf, before, after, rfl, hbefore, hafter⟩
    have hfront : f ∈ fields sep (f ++ after) := by
      cases after with
      | nil => rw [List.append_nil, fields_of_not_mem hf]; exact List.mem_cons_self
      | cons c after =>
        obtain rfl := hafter c rfl
        rw [fields_append_cons hf]
        exact List.mem_cons_self
    rcases List.eq_nil_or_concat before with rfl | ⟨front, c, rfl⟩
    · exact hfront
    · -- The last character before the stretch is a separator, so the text behind it is split alone.
      obtain rfl := hbefore c (by simp)
      rw [List.concat_eq_append, List.append_assoc, List.singleton_append, fields_append]
      exact List.mem_append_right _ hfront

theorem exists_first_field (sep : Char) (t : Text) :
    ∃ f after, t = f ++ after ∧ sep ∉ f ∧ ∀ c ∈ after.head?, c = sep := by
  by_cases hsep : sep ∈ t
  · obtain ⟨f, rest, rfl, hf⟩ := List.eq_append_cons_of_mem hsep
    exact ⟨f, sep :: rest, rfl, hf, by simp⟩
  · exact ⟨t, [], (List.append_nil t).symm, hsep, nofun⟩

theorem exists_last_field (sep : Char) (t : Text) :
    ∃ before f, t = before ++ f ∧ sep ∉ f ∧ ∀ c ∈ before.getLast?, c = sep := by
  obtain ⟨f, after, heq, hf, hafter⟩ := exists_first_field sep t.reverse
  refine ⟨after.reverse, f.reverse, ?_, by simpa using hf, by simpa using hafter⟩
  rw [← List.reverse_append, ← heq, List.reverse_reverse]

theorem exists_field_around {sep : Char} {w : Text} (hw : sep ∉ w) (left right : Text) :
    ∃ before left' right' after, left = before ++ left' ∧ right = right' ++ after ∧
      left' ++ (w ++ right') ∈ fields sep (left ++ (w ++ right)) ∧
      (∀ c ∈ before.getLast?, c = sep) ∧ ∀ c ∈ after.head?, c = sep := by
  obtain ⟨before, left', rfl, hleft, hbefore⟩ := exists_last_field sep left
  obtain ⟨right', after, rfl, hright, hafter⟩ := exists_first_field sep right
  refine ⟨before, left', right', after, rfl, rfl, ?_, hbefore, hafter⟩
  exact mem_fields_iff.2 ⟨by simp [hleft, hw, hright], before, after, by simp, hbefore, hafter⟩

theorem infix_joined_of_mem {sep line : Text} {lines : List Text} (h : line ∈ lines) :
    line <:+: joined sep lines := by
  induction lines with
  | nil => cases h
  | cons l lines ih =>
    cases lines with
    | nil =>
      obtain rfl := List.mem_singleton.1 h
      rw [joined_singleton]
    | cons l' lines =>
      rw [joined_cons_cons]
      rcases List.mem_cons.1 h with rfl | h
      · rw [List.append_assoc]
        exact (List.prefix_append _ _).isInfix
      · exact (ih h).trans (List.suffix_append _ _).isInfix

theorem not_mem_joined {c : Char} {sep : Text} {ts : List Text} (hsep : c ∉ sep)
    (h : ∀ t ∈ ts, c ∉ t) : c ∉ joined sep ts := by
  induction ts with
  | nil => exact List.not_mem_nil
  | cons t ts ih =>
    obtain ⟨ht, hts⟩ := List.forall_mem_cons.1 h
    cases ts with
    | nil => rwa [joined_singleton]
    | cons t' ts =>
      rw [joined_cons_cons, List.mem_append, List.mem_append]
      exact not_or.2 ⟨not_or.2 ⟨ht, hsep⟩, ih hts⟩

theorem fields_flatMap_append {sep : Char} {fs : List Text} (h : ∀ f ∈ fs, sep ∉ f) :
    fields sep (fs.flatMap (· ++ [sep])) = fs ++ [[]] := by
  induction fs with
  | nil => rfl
  | cons f fs ih =>
    obtain ⟨hf, hfs⟩ := List.forall_mem_cons.1 h
    rw [List.flatMap_cons, List.append_assoc, List.singleton_append, fields_append_cons hf, ih hfs,
      List.cons_append]

/-- Lines that a line feed ends each are read back, unless one ends in a carriage return. -/
theorem lines_flatMap_append {ls : List Text} (hlf : ∀ l ∈ ls, '\n' ∉ l)
    (hcr : ∀ l ∈ ls, l.getLast? ≠ some '\r') : lines (ls.flatMap (· ++ ['\n'])) = ls := by
  rw [lines, fields_flatMap_append hlf, List.dropLast_concat, List.getLast?_concat]
  have hkept : ls.map dropReturn = ls :=
    (List.map_congr_left fun l hl => if_neg (hcr l hl)).trans (List.map_id ls)
  rw [hkept]
  exact List.append_nil ls

theorem lines_append_cons {l : Text} (h : '\n' ∉ l) (t : Text) :
    lines (l ++ '\n' :: t) = dropReturn l :: lines t := by
  have hne := fields_ne_nil '\n' t
  rw [lines, fields_append_cons h, List.dropLast_cons_of_ne_nil hne, List.map_cons,
    List.getLast?_cons_of_ne_nil hne]
  rfl

theorem lines_of_not_mem {l : Text} (h : '\n' ∉ l) (hne : l ≠ []) : lines l = [l] := by
  simp [lines, fields_of_not_mem h, hne]

/-- A text is a line without an end, or an ended line and a further text. -/
@[elab_as_elim]
theorem lineInduction {motive : Text → Prop} (last : ∀ l, '\n' ∉ l → motive l)
    (line : ∀ l t, '\n' ∉ l → motive t → motive (l ++ '\n' :: t)) (t : Text) : motive t :=
  fieldInduction '\n' last line t

theorem dropWhile_isBlank_of_head? {t : Text} (h : ∀ c ∈ t.head?, isBlank c = false) :
    t.dropWhile isBlank = t := by
  cases t with
  | nil => rfl
  | cons c t => exact List.dropWhile_cons_of_neg (Bool.eq_false_iff.1 (h c rfl))

theorem dropWhile_isBlank_append {before t : Text} (hbefore : ∀ c ∈ before, isBlank c = true)
    (h : ∀ c ∈ t.head?, isBlank c = false) : (before ++ t).dropWhile isBlank = t := by
  rw [List.dropWhile_append_of_pos hbefore, dropWhile_isBlank_of_head? h]

theorem trimEnd_append {t after : Text} (hafter : ∀ c ∈ after, isBlank c = true)
    (hlast : ∀ c ∈ t.getLast?, isBlank c = false) : trimEnd (t ++ after) = t := by
  rw [trimEnd, List.reverse_append,
    dropWhile_isBlank_append (by simpa using hafter) (by simpa using hlast), List.reverse_reverse]

theorem trim_append_append {before t after : Text} (hbefore : ∀ c ∈ before, isBlank c = true)
    (hafter : ∀ c ∈ after, isBlank c = true) (hhead : ∀ c ∈ t.head?, isBlank c = false)
    (hlast : ∀ c ∈ t.getLast?, isBlank c = false) : trim (before ++ (t ++ after)) = t := by
  have hstart : trimStart (before ++ (t ++ after)) = trimStart (t ++ after) :=
    List.dropWhile_append_of_pos hbefore
  rw [trim, hstart]
  cases t with
  | nil =>
    have hnil : trimStart after = [] := List.dropWhile_eq_nil_iff.2 hafter
    rw [List.nil_append, hnil]
    rfl
  | cons c t =>
    have hkept : trimStart (c :: t ++ after) = c :: t ++ after :=
      dropWhile_isBlank_of_head? hhead
    rw [hkept, trimEnd_append hafter hlast]

theorem trim_of_forall_mem {t : Text} (h : ∀ c ∈ t, isBlank c = false) : trim t = t := by
  have htrim : trim ([] ++ (t ++ [])) = t := trim_append_append nofun nofun
    (fun c hc => h c (List.mem_of_head? hc)) (fun c hc => h c (List.mem_of_getLast? hc))
  rwa [List.nil_append, List.append_nil] at htrim

theorem trimStart_eq (t : Text) :
    trimStart t = trim t ++ ((trimStart t).reverse.takeWhile isBlank).reverse := by
  rw [trim, trimEnd, ← List.reverse_append, List.takeWhile_append_dropWhile, List.reverse_reverse]

theorem exists_trim (t : Text) : ∃ before after : Text, (∀ c ∈ before, isBlank c = true) ∧
    (∀ c ∈ after, isBlank c = true) ∧ t = before ++ (trim t ++ after) := by
  refine ⟨t.takeWhile isBlank, ((trimStart t).reverse.takeWhile isBlank).reverse,
    fun c => List.mem_takeWhile_imp,
    fun c hc => List.mem_takeWhile_imp (List.mem_reverse.1 hc), ?_⟩
  rw [← trimStart_eq, trimStart, List.takeWhile_append_dropWhile]

theorem isBlank_of_head?_trim {t : Text} {c : Char} (h : c ∈ (trim t).head?) :
    isBlank c = false := by
  have hstart : (t.dropWhile isBlank).head? = some c := by
    obtain ⟨rest, hrest⟩ := List.head?_eq_some_iff.1 h
    rw [← trimStart, trimStart_eq, hrest]
    rfl
  have hstop := List.head?_dropWhile_not isBlank t
  rwa [hstart] at hstop

theorem isBlank_of_getLast?_trim {t : Text} {c : Char} (h : c ∈ (trim t).getLast?) :
    isBlank c = false := by
  rw [trim, trimEnd, List.getLast?_reverse] at h
  have hstop := List.head?_dropWhile_not isBlank (trimStart t).reverse
  rwa [h] at hstop

theorem trim_blanks_append {before : Text} (h : ∀ c ∈ before, isBlank c = true) (t : Text) :
    trim (before ++ t) = trim t :=
  congrArg trimEnd (List.dropWhile_append_of_pos h)

theorem trim_append_blanks {after : Text} (h : ∀ c ∈ after, isBlank c = true) (t : Text) :
    trim (t ++ after) = trim t := by
  obtain ⟨front, back, hfront, hback, hsplit⟩ := exists_trim t
  have hend : ∀ c ∈ back ++ after, isBlank c = true :=
    fun c hc => (List.mem_append.1 hc).elim (hback c) (h c)
  have htrim : trim (front ++ (trim t ++ (back ++ after))) = trim t :=
    trim_append_append hfront hend (fun _ => isBlank_of_head?_trim)
      (fun _ => isBlank_of_getLast?_trim)
  have hjoin : t ++ after = front ++ (trim t ++ (back ++ after)) :=
    calc t ++ after = front ++ (trim t ++ back) ++ after := congrArg (· ++ after) hsplit
      _ = front ++ (trim t ++ (back ++ after)) := by simp only [List.append_assoc]
  rw [hjoin, htrim]

theorem isWord_of_isBlank {c : Char} (h : isBlank c = true) : isWord c = false := by
  have hpoints : ∀ n ∈ [0x20, 0x85, 0xA0, 0x1680, 0x2028, 0x2029, 0x202F, 0x205F, 0x3000] ++
      List.range' 9 5 ++ List.range' 0x2000 11, isWord (Char.ofNat n) = false := by decide +kernel
  rw [← Char.ofNat_toNat c]
  apply hpoints
  simp only [isBlank, Bool.or_eq_true, Bool.and_eq_true, decide_eq_true_eq, beq_iff_eq] at h
  simp only [List.mem_append, List.mem_cons, List.not_mem_nil, or_false, List.mem_range'_1]
  omega

theorem isDigit_of_mem_ofNat {n : Nat} {c : Char} (h : c ∈ ofNat n) : isDigit c = true := by
  have hdigit := Nat.isDigit_of_mem_toDigits (by decide) (by decide) h
  simp only [Char.isDigit, Bool.and_eq_true, decide_eq_true_eq] at hdigit
  rw [isDigit, Bool.and_eq_true, decide_eq_true_eq, decide_eq_true_eq]
  exact ⟨hdigit.1, hdigit.2⟩

theorem isBlank_of_isDigit {c : Char} (h : isDigit c = true) : isBlank c = false := by
  simp only [isDigit, Bool.and_eq_true, decide_eq_true_eq, Char.le_def, UInt32.le_iff_toNat_le] at h
  have hlow : 48 ≤ c.toNat := h.1
  have hhigh : c.toNat ≤ 57 := h.2
  simp only [isBlank, Bool.or_eq_false_iff, Bool.and_eq_false_iff, beq_eq_false_iff_ne,
    decide_eq_false_iff_not]
  omega

theorem ofNat_ne_nil (n : Nat) : ofNat n ≠ [] := Nat.toDigits_ne_nil

theorem natValue?_eq_some_iff {ds : Text} {n : Nat} :
    natValue? ds = some n ↔
      ds ≠ [] ∧ (∀ c ∈ ds, isDigit c = true) ∧ natValue ds = n ∧ n < wordLimit := by
  have hiff : (decide (ds ≠ []) && ds.all isDigit && decide (natValue ds < wordLimit)) = true ↔
      ds ≠ [] ∧ (∀ c ∈ ds, isDigit c = true) ∧ natValue ds < wordLimit := by
    simp [and_assoc]
  unfold natValue?
  split
  · rename_i h
    obtain ⟨hne, hdigits, hlt⟩ := hiff.1 h
    rw [Option.some.injEq]
    constructor
    · rintro rfl
      exact ⟨hne, hdigits, rfl, hlt⟩
    · rintro ⟨-, -, hvalue, -⟩
      exact hvalue
  · rename_i h
    constructor
    · nofun
    · rintro ⟨hne, hdigits, rfl, hlt⟩
      exact absurd (hiff.2 ⟨hne, hdigits, hlt⟩) h

theorem natValue_ofNat (n : Nat) : natValue (ofNat n) = n := Nat.ofDigitChars_ten_toDigits

theorem decode?_encode (t : Text) : decode? (encode t) = some t := by
  have hvalid : (String.ofList t).toUTF8.IsValidUTF8 := (String.ofList t).isValidUTF8
  rw [decode?, encode, String.fromUTF8?, dif_pos hvalid]
  exact congrArg some String.toList_ofList

end Localize.Text

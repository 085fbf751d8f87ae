import Localize.Json.Printer
import Localize.Json.Reader
import Localize.Proofs.Text

/-! How JSON can be written: a character of a string as itself or by an escape, the items of a list
or an object with blanks between the tokens, an integer by its digits. Each is read as what it was
written for, whatever comes behind it, and the printer writes in this way. -/

namespace Localize.Json

/-- The ways to write a character of a string. -/
inductive WrittenChar (c : Char) : Text → Prop
  | plain (visible : isControl c = false) (unquoted : c ≠ '"') (unescaped : c ≠ '\\') :
      WrittenChar c [c]
  | short {e : Char} (escape : shortEscape? e = some c) : WrittenChar c ['\\', e]
  | unit {ds : Text} (digits : codeUnit? ds = some (c.toNat, [])) : WrittenChar c ('\\' :: 'u' :: ds)
  | pair {ds ds' : Text} {n n' : Nat} (digits : codeUnit? ds = some (n, []))
      (digits' : codeUnit? ds' = some (n', [])) (high : isHighSurrogate n = true)
      (low : isLowSurrogate n' = true)
      (value : c.toNat = (n - 0xD800) * 0x400 + (n' - 0xDC00) + 0x10000) :
      WrittenChar c ('\\' :: 'u' :: (ds ++ '\\' :: 'u' :: ds'))

/-- The inside of a string is written character by character. -/
inductive WrittenBody : Text → Text → Prop
  | nil : WrittenBody [] []
  | cons {c : Char} {s w body : Text} (first : WrittenChar c w) (rest : WrittenBody s body) :
      WrittenBody (c :: s) (w ++ body)

def WrittenString (s t : Text) : Prop := ∃ body, WrittenBody s body ∧ t = '"' :: (body ++ ['"'])

/-- Blanks between tokens. -/
def IsBlankText (b : Text) : Prop := ∀ c ∈ b, isJsonBlank c = true

section Lists

variable {α : Type}

/-- The items behind the first one, and the closing bracket. -/
inductive WrittenTail (written : α → Text → Prop) (closing : Char) : List α → Text → Prop
  | close {b : Text} (blank : IsBlankText b) : WrittenTail written closing [] (b ++ [closing])
  | item {a : α} {as : List α} {b b' t rest : Text} (blank : IsBlankText b)
      (blank' : IsBlankText b') (first : written a t)
      (tail : WrittenTail written closing as rest) :
      WrittenTail written closing (a :: as) (b ++ ',' :: (b' ++ (t ++ rest)))

/-- Items between brackets, with a comma between two of them. -/
inductive WrittenList (written : α → Text → Prop) (opening closing : Char) : List α → Text → Prop
  | empty {b : Text} (blank : IsBlankText b) :
      WrittenList written opening closing [] (opening :: (b ++ [closing]))
  | items {a : α} {as : List α} {b t rest : Text} (blank : IsBlankText b) (first : written a t)
      (tail : WrittenTail written closing as rest) :
      WrittenList written opening closing (a :: as) (opening :: (b ++ (t ++ rest)))

end Lists

section Strings

variable {c : Char} {s t w body rest : Text}

theorem codeUnit_append {ds : Text} {n : Nat} (h : codeUnit? ds = some (n, [])) (rest : Text) :
    codeUnit (ds ++ rest) = .ok (n, rest) := by
  have hread : codeUnit? (ds ++ rest) = some (n, rest) := by
    unfold codeUnit? at h
    split at h
    · rename_i a b c d rest'
      simp only [Option.bind_eq_bind, Option.bind_eq_some_iff, Option.some.injEq,
        Prod.mk.injEq] at h
      obtain ⟨x, hx, y, hy, z, hz, u, hu, rfl, rfl⟩ := h
      simp [codeUnit?, hx, hy, hz, hu]
    · cases h
  rw [codeUnit, hread]

theorem not_surrogate (c : Char) :
    isHighSurrogate c.toNat = false ∧ isLowSurrogate c.toNat = false := by
  have hvalid := c.valid
  simp only [isHighSurrogate, isLowSurrogate, Bool.and_eq_false_iff, decide_eq_false_iff_not]
  rcases hvalid with h | ⟨h, -⟩
  all_goals
    change _ at h
    simp only [Char.toNat]
    omega

theorem escaped_short {e : Char} (h : shortEscape? e = some c) (rest : Text) :
    escaped (e :: rest) = .ok (c, rest) := by
  unfold escaped
  split
  · rename_i heq
    cases heq
  · rename_i heq
    cases heq
    cases h
  · rename_i heq
    cases heq
    rw [h]

theorem escaped_unit {ds : Text} (h : codeUnit? ds = some (c.toNat, [])) (rest : Text) :
    escaped ('u' :: (ds ++ rest)) = .ok (c, rest) := by
  obtain ⟨hhigh, hlow⟩ := not_surrogate c
  simp [escaped, codeUnit_append h, hhigh, hlow, Char.ofNat_toNat]

theorem escaped_pair {ds ds' : Text} {n n' : Nat} (h : codeUnit? ds = some (n, []))
    (h' : codeUnit? ds' = some (n', [])) (high : isHighSurrogate n = true)
    (low : isLowSurrogate n' = true)
    (value : c.toNat = (n - 0xD800) * 0x400 + (n' - 0xDC00) + 0x10000) (rest : Text) :
    escaped ('u' :: (ds ++ '\\' :: 'u' :: (ds' ++ rest))) = .ok (c, rest) := by
  have hnotLow : isLowSurrogate n = false := by
    simp only [isHighSurrogate, isLowSurrogate, Bool.and_eq_true, Bool.and_eq_false_iff,
      decide_eq_true_eq, decide_eq_false_iff_not] at high ⊢
    omega
  have hsecond : lowSurrogate n ('\\' :: 'u' :: (ds' ++ rest)) = .ok (c, rest) := by
    simp [lowSurrogate, codeUnit_append h', low, ← value, Char.ofNat_toNat]
  simp [escaped, codeUnit_append h, hnotLow, high, hsecond]

theorem stringBody_escape (h : escaped t = .ok (c, rest)) (hrest : stringBody rest = .ok (s, w)) :
    stringBody ('\\' :: t) = .ok (c :: s, w) := by
  rw [stringBody]
  split <;> simp_all

theorem stringBody_char (h : WrittenChar c w) (hrest : stringBody rest = .ok (s, t)) :
    stringBody (w ++ rest) = .ok (c :: s, t) := by
  cases h with
  | plain visible unquoted unescaped =>
    rw [List.singleton_append, stringBody, visible, if_neg Bool.false_ne_true, hrest]
    · exact unquoted
    · exact unescaped
  | short escape => exact stringBody_escape (escaped_short escape rest) hrest
  | unit digits => exact stringBody_escape (escaped_unit digits rest) hrest
  | pair digits digits' high low value =>
    rw [List.cons_append, List.cons_append, List.append_assoc]
    exact stringBody_escape (escaped_pair digits digits' high low value rest) hrest

/-- A written string is read as what it was written for. -/
theorem stringBody_written (h : WrittenBody s body) (rest : Text) :
    stringBody (body ++ '"' :: rest) = .ok (s, rest) := by
  induction h with
  | nil => rw [List.nil_append, stringBody]
  | cons first _ ih =>
    rw [List.append_assoc]
    exact stringBody_char first ih

theorem skipString_escape (h : skipEscape t = .ok rest) (hrest : skipString rest = .ok w) :
    skipString ('\\' :: t) = .ok w := by
  rw [skipString]
  split <;> simp_all

theorem skipEscape_unit {ds : Text} {n : Nat} (h : codeUnit? ds = some (n, [])) (rest : Text) :
    skipEscape ('u' :: (ds ++ rest)) = .ok rest := by
  rw [skipEscape, codeUnit_append h]
  rfl

theorem skipString_char (h : WrittenChar c w) (hrest : skipString rest = .ok t) :
    skipString (w ++ rest) = .ok t := by
  cases h with
  | plain visible unquoted unescaped =>
    rw [List.singleton_append, skipString, visible, if_neg Bool.false_ne_true, hrest]
    · exact unquoted
    · exact unescaped
  | short escape =>
    refine skipString_escape ?_ hrest
    unfold skipEscape
    split
    · rename_i heq
      cases heq
    · rename_i heq
      cases heq
      cases escape
    · rename_i heq
      cases heq
      rw [escape]
      rfl
  | unit digits => exact skipString_escape (skipEscape_unit digits rest) hrest
  | pair digits digits' =>
    rw [List.cons_append, List.cons_append, List.append_assoc]
    exact skipString_escape (skipEscape_unit digits _)
      (skipString_escape (skipEscape_unit digits' rest) hrest)

theorem skipString_written (h : WrittenBody s body) (rest : Text) :
    skipString (body ++ '"' :: rest) = .ok rest := by
  induction h with
  | nil => rw [List.nil_append, skipString]
  | cons first _ ih =>
    rw [List.append_assoc]
    exact skipString_char first ih

theorem writtenChar_escapeChar (c : Char) : WrittenChar c (escapeChar c) := by
  unfold escapeChar
  split
  case h_8 hquote hslash _ _ _ _ _ =>
    split
    · rename_i hcontrol
      have hunit : ∀ n < 0x20, codeUnit? (Text.hex 4 n) = some (n, []) := by decide +kernel
      exact .unit (hunit c.toNat hcontrol)
    · rename_i hvisible
      exact .plain (decide_eq_false hvisible) (fun h => hquote h) (fun h => hslash h)
  all_goals exact .short rfl

theorem writtenString_stringText (s : Text) : WrittenString s (stringText s) := by
  refine ⟨s.flatMap escapeChar, ?_, rfl⟩
  induction s with
  | nil => exact .nil
  | cons c s ih => exact .cons (writtenChar_escapeChar c) ih

end Strings

section Blanks

variable {b t : Text}

theorem isBlankText_nil : IsBlankText [] := nofun

theorem skipBlanks_append (h : IsBlankText b) (t : Text) : skipBlanks (b ++ t) = skipBlanks t :=
  List.dropWhile_append_of_pos h

theorem skipBlanks_blank (h : IsBlankText b) : skipBlanks b = [] := List.dropWhile_eq_nil_iff.2 h

theorem skipBlanks_cons {c : Char} (h : isJsonBlank c = false) (t : Text) :
    skipBlanks (c :: t) = c :: t :=
  List.dropWhile_cons_of_neg (Bool.eq_false_iff.1 h)

theorem isBlankText_indent (depth : Nat) : IsBlankText ('\n' :: indent depth) := by
  refine List.forall_mem_cons.2 ⟨rfl, fun c hc => ?_⟩
  rw [List.eq_of_mem_replicate hc]
  rfl

end Blanks

section Numerals

variable {rest : Text}

/-- What may stand behind an integer. -/
def EndsInteger (rest : Text) : Prop :=
  ∀ c ∈ rest.head?, Text.isDigit c = false ∧ c ≠ '.' ∧ isExponentMark c = false

theorem le_natValueFrom (ds : Text) (n : Nat) :
    n ≤ ds.foldl (fun n d => 10 * n + Text.digitValue d) n := by
  induction ds generalizing n with
  | nil => exact Nat.le_refl n
  | cons d ds ih =>
    have hgrows : n ≤ 10 * n + Text.digitValue d := by omega
    exact hgrows.trans (ih _)

theorem absorb_eq {limit n : Nat} {ds : Text}
    (h : ds.foldl (fun n d => 10 * n + Text.digitValue d) n < limit) :
    absorb limit n ds = (ds.foldl (fun n d => 10 * n + Text.digitValue d) n, []) := by
  induction ds generalizing n with
  | nil => rfl
  | cons d ds ih =>
    rw [List.foldl_cons] at h
    rw [absorb, if_pos ((le_natValueFrom ds _).trans_lt h), ih h, List.foldl_cons]

theorem absorb_ofNat {n : Nat} (h : n < Text.wordLimit) :
    absorb Text.wordLimit 0 (Text.ofNat n) = (n, []) := by
  have hvalue : (Text.ofNat n).foldl (fun n d => 10 * n + Text.digitValue d) 0 = n :=
    Text.natValue_ofNat n
  rw [absorb_eq (hvalue.trans_lt h), hvalue]

theorem head?_ofNat_ne {n : Nat} (h : 0 < n) : (Text.ofNat n).head? ≠ some '0' := by
  induction n using Nat.strong_induction_on with
  | h n ih =>
    rw [Text.ofNat, Nat.toDigits_eq_if (by decide)]
    split
    · rename_i hlt
      have hdigits : ∀ n < 10, 0 < n → [n.digitChar].head? ≠ some '0' := by decide
      exact hdigits n hlt h
    · rename_i hge
      have hfront := ih (n / 10) (by omega) (by omega)
      rwa [List.head?_append_of_ne_nil _ Nat.toDigits_ne_nil]

theorem startsWithDigit_eq_false (h : EndsInteger rest) : startsWithDigit rest = false := by
  cases rest with
  | nil => rfl
  | cons c rest => exact (h c rfl).1

theorem splitDigits_append {ds : Text} (hds : ∀ c ∈ ds, Text.isDigit c = true)
    (hrest : EndsInteger rest) : splitDigits (ds ++ rest) = (ds, rest) := by
  have hstop : rest.takeWhile Text.isDigit = [] ∧ rest.dropWhile Text.isDigit = rest := by
    cases rest with
    | nil => exact ⟨rfl, rfl⟩
    | cons c rest => simp [(hrest c rfl).1]
  rw [splitDigits, List.span_eq_takeWhile_dropWhile, List.takeWhile_append_of_pos hds,
    List.dropWhile_append_of_pos hds, hstop.1, hstop.2, List.append_nil]

/-- The digits of an integer below 2⁶⁴ are read as the integer. -/
theorem numeral_ofNat {n : Nat} (hn : n < Text.wordLimit) (hrest : EndsInteger rest) :
    numeral false (Text.ofNat n ++ rest) = .ok (.natural n, rest) := by
  obtain ⟨c, cs, hcs⟩ := List.exists_cons_of_ne_nil (Text.ofNat_ne_nil n)
  have hc : Text.isDigit c = true :=
    Text.isDigit_of_mem_ofNat (n := n) (hcs ▸ List.mem_cons_self)
  have hzero (h : c = '0') : cs = [] := by
    subst h
    rcases Nat.eq_zero_or_pos n with rfl | hpos
    · exact (List.cons.inj hcs).2.symm
    · exact absurd (hcs ▸ rfl) (head?_ofNat_ne hpos)
  have hlone : (c == '0' && startsWithDigit (cs ++ rest)) = false := by
    by_cases h : c = '0'
    · rw [hzero h, List.nil_append, startsWithDigit_eq_false hrest, Bool.and_false]
    · rw [beq_false_of_ne h, Bool.false_and]
  have hsplit : (if (c == '0') = true then (['0'], cs ++ rest) else splitDigits (c :: (cs ++ rest))) =
      (Text.ofNat n, rest) := by
    by_cases h : c = '0'
    · rw [if_pos (by simpa using h), hcs, hzero h, h, List.nil_append]
    · rw [if_neg (by simpa using h), ← List.cons_append, ← hcs]
      exact splitDigits_append (fun _ => Text.isDigit_of_mem_ofNat) hrest
  have hmark : rest.head?.any isExponentMark = false := by
    cases rest with
    | nil => rfl
    | cons d rest => exact (hrest d rfl).2.2
  rw [hcs, List.cons_append]
  simp only [numeral, hc, hlone, hsplit, absorb_ofNat hn, hmark, Bool.not_true, Bool.false_or,
    List.isEmpty_nil, if_neg Bool.false_ne_true]
  split
  · exact absurd rfl (hrest '.' rfl).2.1
  · rfl

end Numerals

section Steps

variable {b b' t : Text} {c : Char}

theorem nextItem_first (hb : IsBlankText b) (hc : isJsonBlank c = false) (hclose : c ≠ ']')
    (t : Text) : nextItem true (b ++ c :: t) = .ok (true, c :: t) := by
  rw [nextItem, skipBlanks_append hb, skipBlanks_cons hc]
  simp [hclose]

theorem nextItem_comma (hb : IsBlankText b) (hb' : IsBlankText b') (hc : isJsonBlank c = false)
    (hclose : c ≠ ']') (t : Text) :
    nextItem false (b ++ ',' :: (b' ++ c :: t)) = .ok (true, c :: t) := by
  rw [nextItem, skipBlanks_append hb, skipBlanks_cons rfl]
  simp [skipBlanks_append hb', skipBlanks_cons hc, hclose]

theorem nextItem_close (hb : IsBlankText b) (first : Bool) (t : Text) :
    nextItem first (b ++ ']' :: t) = .ok (false, ']' :: t) := by
  rw [nextItem, skipBlanks_append hb, skipBlanks_cons rfl]
  rfl

theorem nextKey_first (hb : IsBlankText b) (t : Text) :
    nextKey true (b ++ '"' :: t) = .ok (true, t) := by
  rw [nextKey, skipBlanks_append hb, skipBlanks_cons rfl]
  rfl

theorem nextKey_comma (hb : IsBlankText b) (hb' : IsBlankText b') (t : Text) :
    nextKey false (b ++ ',' :: (b' ++ '"' :: t)) = .ok (true, t) := by
  rw [nextKey, skipBlanks_append hb, skipBlanks_cons rfl]
  have hquote : skipBlanks ('"' :: t) = '"' :: t := skipBlanks_cons rfl t
  simp [skipBlanks_append hb', hquote]

theorem nextKey_close (hb : IsBlankText b) (first : Bool) (t : Text) :
    nextKey first (b ++ '}' :: t) = .ok (false, '}' :: t) := by
  rw [nextKey, skipBlanks_append hb, skipBlanks_cons rfl]
  rfl

theorem colon_written (hb : IsBlankText b) (t : Text) : colon (b ++ ':' :: t) = .ok t := by
  rw [colon, skipBlanks_append hb, skipBlanks_cons rfl]
  rfl

theorem skipValue_written {s t : Text} (hb : IsBlankText b) (h : WrittenString s t) (rest : Text) :
    skipValue (b ++ (t ++ rest)) = .ok rest := by
  obtain ⟨body, hbody, rfl⟩ := h
  have hskip := skipString_written hbody rest
  simp only [List.cons_append, List.append_assoc, skipValue, skipNested, skipBlanks_append hb]
  rw [skipBlanks_cons rfl]
  simp [hskip, skipAfter]

end Steps

section Lists

variable {α : Type} {written : α → Text → Prop} {item : Text → Read α} {opening closing : Char}
  {as : List α} {t : Text}

theorem WrittenTail.length_lt (h : WrittenTail written closing as t) : as.length < t.length := by
  induction h with
  | close blank => simp
  | item blank blank' first tail ih =>
    simp only [List.length_cons, List.length_append]
    omega

theorem WrittenTail.endsInteger (h : WrittenTail written closing as t)
    (hclosing : Text.isDigit closing = false ∧ closing ≠ '.' ∧ isExponentMark closing = false)
    (rest : Text) : EndsInteger (t ++ rest) := by
  have hblank {c : Char} {b rest : Text} (hb : IsBlankText b)
      (hc : Text.isDigit c = false ∧ c ≠ '.' ∧ isExponentMark c = false) :
      EndsInteger (b ++ c :: rest) := by
    cases b with
    | nil =>
      intro d hd
      cases hd
      exact hc
    | cons d b =>
      intro d' hd
      cases hd
      have hblank := hb d List.mem_cons_self
      simp only [isJsonBlank, Bool.or_eq_true, beq_iff_eq] at hblank
      rcases hblank with ((rfl | rfl) | rfl) | rfl <;> decide
  cases h with
  | close blank =>
    rw [List.append_assoc]
    exact hblank blank hclosing
  | item blank =>
    rw [List.append_assoc]
    exact hblank blank (by decide)

theorem items_succ {n : Nat} {first : Bool} {t t' rest rest' : Text} {a : α}
    (hnext : nextItem first t = .ok (true, t')) (hitem : item t' = .ok (a, rest))
    (hitems : items item n false rest = .ok (as, rest')) :
    items item (n + 1) first t = .ok (a :: as, rest') := by
  simp only [items, hnext, hitem, hitems, bind, Except.bind, if_true]
  rfl

theorem items_closed {n : Nat} {first : Bool} {b rest : Text} (hb : IsBlankText b) :
    items item (n + 1) first (b ++ ']' :: rest) = .ok ([], rest) := by
  rw [items, nextItem_close hb]
  rfl

variable (hhead : ∀ a t, written a t → ∃ c t', t = c :: t' ∧ isJsonBlank c = false ∧ c ≠ ']')
  (hitem : ∀ a t rest, written a t → item (t ++ rest) = .ok (a, rest))

include hhead hitem

theorem items_tail (h : WrittenTail written ']' as t) {n : Nat} (hn : as.length < n)
    (rest : Text) : items item n false (t ++ rest) = .ok (as, rest) := by
  induction h generalizing n with
  | close blank =>
    obtain ⟨n, rfl⟩ := Nat.exists_eq_succ_of_ne_zero (Nat.ne_zero_of_lt hn)
    rw [List.append_assoc]
    exact items_closed blank
  | @item a as b b' t tail' blank blank' first tail ih =>
    obtain ⟨n, rfl⟩ := Nat.exists_eq_succ_of_ne_zero (Nat.ne_zero_of_lt hn)
    have hrest := ih (Nat.lt_of_succ_lt_succ hn)
    have hread := hitem a t (tail' ++ rest) first
    obtain ⟨c, t', rfl, hc, hclose⟩ := hhead a t first
    simp only [List.append_assoc, List.cons_append] at hread ⊢
    exact items_succ (nextItem_comma blank blank' hc hclose _) hread hrest

/-- The items of a written list are read as they are behind its opening bracket. -/
theorem items_list (h : WrittenList written '[' ']' as t) :
    ∃ t', t = '[' :: t' ∧ ∀ rest,
      items item ((t' ++ rest).length + 1) true (t' ++ rest) = .ok (as, rest) := by
  cases h with
  | @empty b blank =>
    refine ⟨b ++ [']'], rfl, fun rest => ?_⟩
    rw [List.append_assoc b]
    exact items_closed blank
  | @items a as b t tail' blank first tail =>
    refine ⟨b ++ (t ++ tail'), rfl, fun rest => ?_⟩
    have hlength := tail.length_lt
    have hrest := items_tail hhead hitem tail (n := (b ++ (t ++ tail') ++ rest).length)
      (by simp only [List.length_append]; omega) rest
    have hread := hitem a t (tail' ++ rest) first
    obtain ⟨c, t', rfl, hc, hclose⟩ := hhead a t first
    simp only [List.append_assoc, List.cons_append] at hread hrest ⊢
    exact items_succ (nextItem_first blank hc hclose _) hread hrest

end Lists

section Printed

variable {α : Type} {written : α → Text → Prop} {opening closing : Char} {as : List α}
  {text : α → Text}

theorem joined_eq_append_flatMap (sep t : Text) (ts : List Text) :
    Text.joined sep (t :: ts) = t ++ ts.flatMap (sep ++ ·) := by
  induction ts generalizing t with
  | nil => rw [Text.joined_singleton, List.flatMap_nil, List.append_nil]
  | cons t' ts ih => rw [Text.joined_cons_cons, ih, List.flatMap_cons, List.append_assoc,
      List.append_assoc]

theorem writtenTail_block (h : ∀ a ∈ as, written a (text a)) (depth depth' : Nat) :
    WrittenTail written closing as
      ((as.map text).flatMap (fun t => ',' :: '\n' :: (indent depth' ++ t)) ++
        '\n' :: (indent depth ++ [closing])) := by
  induction as with
  | nil => exact .close (isBlankText_indent depth)
  | cons a as ih =>
    obtain ⟨ha, has⟩ := List.forall_mem_cons.1 h
    have hitem := WrittenTail.item isBlankText_nil (isBlankText_indent depth') ha (ih has)
    simpa using hitem

theorem writtenList_block (h : ∀ a ∈ as, written a (text a)) (depth : Nat) :
    WrittenList written opening closing as (block depth opening closing (as.map text)) := by
  cases as with
  | nil => exact .empty isBlankText_nil
  | cons a as =>
    obtain ⟨ha, has⟩ := List.forall_mem_cons.1 h
    have htail : WrittenTail written closing as _ := writtenTail_block has depth (depth + 1)
    have hlist : WrittenList written opening closing (a :: as) _ :=
      .items (isBlankText_indent (depth + 1)) ha htail
    rw [List.map_cons, block, List.map_cons, joined_eq_append_flatMap]
    · simpa [List.flatMap_map] using hlist
    · exact List.cons_ne_nil _ _

end Printed

end Localize.Json

import Localize.Proofs.RawLines
import Localize.SourceFile

/-! A file that is written back without an edit. It comes back as it was unless it mixes the two line
endings; a mixed one comes back with a carriage return in front of every line feed. -/

namespace Localize

namespace Text

/-- A carriage return put in front of each line feed that has none. `returned` tells whether one
stands in front of the text. -/
def addReturns (returned : Bool) : Text → Text
  | [] => []
  | c :: cs =>
    if c = '\n' ∧ returned = false then '\r' :: '\n' :: addReturns false cs
    else c :: addReturns (c == '\r') cs

def HasCrlf (t : Text) : Prop := ['\r', '\n'] <:+: t

def HasBareLf (t : Text) : Prop :=
  ∃ before after, t = before ++ '\n' :: after ∧ before.getLast? ≠ some '\r'

def MixesEndings (t : Text) : Prop := HasCrlf t ∧ HasBareLf t

/-- The lines of a text joined again under a line ending. -/
def rejoined (e : Ending) (t : Text) : Text :=
  joined e.text (lines t) ++ if endsLine t then e.text else []

variable {e : Ending} {l t : Text}

theorem ending_eq_crlf_iff : ending t = .crlf ↔ HasCrlf t := by
  refine ⟨fun h => ?_, ending_of_infix⟩
  fun_induction ending t with
  | case1 cs => exact (List.prefix_append ['\r', '\n'] cs).isInfix
  | case2 c cs _ ih => exact (ih h).trans (List.suffix_cons c cs).isInfix
  | case3 => cases h

theorem ending_eq_lf_iff : ending t = .lf ↔ ¬ HasCrlf t := by
  rw [← ending_eq_crlf_iff]
  cases ending t <;> simp

theorem dropReturn_of_getLast? (h : l.getLast? = some '\r') : dropReturn l ++ ['\r'] = l := by
  obtain ⟨front, rfl⟩ := List.getLast?_eq_some_iff.1 h
  rw [dropReturn, if_pos h, List.dropLast_concat]

theorem hasCrlf_append_cons (hreturn : l.getLast? = some '\r') (t : Text) :
    HasCrlf (l ++ '\n' :: t) := by
  obtain ⟨front, rfl⟩ := List.getLast?_eq_some_iff.1 hreturn
  exact ⟨front, t, by simp⟩

theorem not_hasBareLf_of_not_mem (h : '\n' ∉ l) : ¬ HasBareLf l := by
  rintro ⟨before, after, rfl, -⟩
  exact h (List.mem_append_right _ List.mem_cons_self)

/-- The bare line feeds of a text are those of its lines, looked at one by one. -/
theorem hasBareLf_append_cons (h : '\n' ∉ l) :
    HasBareLf (l ++ '\n' :: t) ↔ l.getLast? ≠ some '\r' ∨ HasBareLf t := by
  constructor
  · rintro ⟨before, after, heq, hbare⟩
    rcases List.append_eq_append_iff.1 heq with ⟨front, rfl, hrest⟩ | ⟨back, rfl, hrest⟩
    · cases front with
      | nil => exact .inl (by rwa [List.append_nil] at hbare)
      | cons c front =>
        obtain ⟨rfl, rfl⟩ := List.cons.inj hrest
        refine .inr ⟨front, after, rfl, fun hlast => hbare ?_⟩
        rw [List.getLast?_append_of_ne_nil _ (List.cons_ne_nil _ _), List.getLast?_cons, hlast]
        rfl
    · cases back with
      | nil => exact .inl (by rwa [List.append_nil])
      | cons c back =>
        obtain ⟨rfl, -⟩ := List.cons.inj hrest
        exact absurd (List.mem_append_right _ List.mem_cons_self) h
  · rintro (hbare | ⟨before, after, rfl, hbare⟩)
    · exact ⟨l, t, rfl, hbare⟩
    · refine ⟨l ++ '\n' :: before, after, by simp, ?_⟩
      rw [List.getLast?_append_of_ne_nil _ (List.cons_ne_nil _ _), List.getLast?_cons]
      cases hlast : before.getLast? with
      | none => simp
      | some c => rwa [hlast] at hbare

theorem addReturns_cons_of_ne {c : Char} (h : c ≠ '\n') (returned : Bool) (t : Text) :
    addReturns returned (c :: t) = c :: addReturns (c == '\r') t := by
  rw [addReturns, if_neg fun hlf => h hlf.1]

theorem addReturns_of_not_mem (h : '\n' ∉ l) (returned : Bool) : addReturns returned l = l := by
  induction l generalizing returned with
  | nil => rfl
  | cons c l ih =>
    rw [List.mem_cons, not_or] at h
    rw [addReturns_cons_of_ne (Ne.symm h.1), ih h.2]

theorem addReturns_append {c : Char} (h : '\n' ∉ l ++ [c]) (returned : Bool) (t : Text) :
    addReturns returned (l ++ c :: t) = l ++ c :: addReturns (c == '\r') t := by
  induction l generalizing returned with
  | nil => exact addReturns_cons_of_ne (fun hc => h (hc ▸ List.mem_cons_self)) returned t
  | cons d l ih =>
    rw [List.cons_append, List.mem_cons, not_or] at h
    rw [List.cons_append, addReturns_cons_of_ne (Ne.symm h.1), ih h.2, List.cons_append]

theorem addReturns_append_cons (h : '\n' ∉ l) (t : Text) :
    addReturns false (l ++ '\n' :: t) = dropReturn l ++ '\r' :: '\n' :: addReturns false t := by
  rcases List.eq_nil_or_concat' l with rfl | ⟨front, c, rfl⟩
  · rfl
  · rw [List.append_assoc, List.singleton_append, addReturns_append h, dropReturn,
      List.getLast?_concat]
    by_cases hc : c = '\r'
    · subst hc
      rw [if_pos rfl, List.dropLast_concat]
      rfl
    · rw [if_neg (by simpa using hc), beq_false_of_ne hc, List.append_assoc]
      rfl

theorem length_le_addReturns (returned : Bool) (t : Text) :
    t.length ≤ (addReturns returned t).length := by
  induction t generalizing returned with
  | nil => exact Nat.le_refl _
  | cons c t ih =>
    rw [addReturns]
    split
    · have := ih false
      simp only [List.length_cons]
      omega
    · exact Nat.succ_le_succ (ih _)

/-- Only a text with a bare line feed is changed. -/
theorem addReturns_eq_self_iff : addReturns false t = t ↔ ¬ HasBareLf t := by
  induction t using lineInduction with
  | last l hl => exact iff_of_true (addReturns_of_not_mem hl false) (not_hasBareLf_of_not_mem hl)
  | line l t hl ih =>
    rw [addReturns_append_cons hl, hasBareLf_append_cons hl, not_or, not_not, ← ih]
    by_cases hlast : l.getLast? = some '\r'
    · have hkept : dropReturn l ++ '\r' :: '\n' :: addReturns false t =
          l ++ '\n' :: addReturns false t := by
        rw [List.append_cons, dropReturn_of_getLast? hlast]
      simp [hkept, hlast]
    · have hlonger := length_le_addReturns false t
      rw [dropReturn, if_neg hlast]
      refine iff_of_false (fun h => ?_) fun h => hlast h.1
      have := congrArg List.length h
      simp only [List.length_append, List.length_cons] at this
      omega

instance (t : Text) : Decidable (HasCrlf t) := inferInstanceAs (Decidable (_ <:+: _))

instance (t : Text) : Decidable (HasBareLf t) :=
  decidable_of_iff (¬ addReturns false t = t) (by rw [addReturns_eq_self_iff, not_not])

instance (t : Text) : Decidable (MixesEndings t) := inferInstanceAs (Decidable (_ ∧ _))

theorem rejoined_of_not_mem (h : '\n' ∉ l) (e : Ending) : rejoined e l = l := by
  rw [rejoined, not_endsLine_of_not_mem h, if_neg Bool.false_ne_true, List.append_nil]
  by_cases hne : l = []
  · rw [hne]
    rfl
  · rw [lines_of_not_mem h hne, joined_singleton]

theorem rejoined_append_cons (h : '\n' ∉ l) (e : Ending) (t : Text) :
    rejoined e (l ++ '\n' :: t) = dropReturn l ++ e.text ++ rejoined e t := by
  rw [rejoined, lines_append_cons h, rejoined]
  by_cases ht : t = []
  · subst ht
    have hends : endsLine (l ++ ['\n']) = true := endsLine_append_lf l
    have hlines : lines [] = [] := rfl
    rw [hends, hlines, joined_singleton]
    simp [endsLine, joined_nil]
  · obtain ⟨l', ls, hls⟩ := List.exists_cons_of_ne_nil (lines_ne_nil ht)
    rw [List.append_cons, endsLine_append ht, hls, joined_cons_cons]
    simp only [List.append_assoc]

theorem rejoined_crlf (t : Text) : rejoined .crlf t = addReturns false t := by
  induction t using lineInduction with
  | last l hl => rw [rejoined_of_not_mem hl, addReturns_of_not_mem hl]
  | line l t hl ih =>
    rw [rejoined_append_cons hl, addReturns_append_cons hl, ih, List.append_assoc]
    rfl

theorem rejoined_lf (h : ¬ HasCrlf t) : rejoined .lf t = t := by
  induction t using lineInduction with
  | last l hl => exact rejoined_of_not_mem hl _
  | line l t hl ih =>
    have hlast : l.getLast? ≠ some '\r' := fun hreturn => h (hasCrlf_append_cons hreturn t)
    have hrest : ¬ HasCrlf t := fun hin => h (hin.trans ⟨l ++ ['\n'], [], by simp⟩)
    rw [rejoined_append_cons hl, ih hrest, dropReturn, if_neg hlast, List.append_assoc]
    rfl

theorem rejoined_ending (t : Text) :
    rejoined (ending t) t = if MixesEndings t then addReturns false t else t := by
  by_cases hcrlf : HasCrlf t
  · rw [ending_eq_crlf_iff.2 hcrlf, rejoined_crlf]
    split
    · rfl
    · rename_i hmixes
      exact addReturns_eq_self_iff.2 fun hbare => hmixes ⟨hcrlf, hbare⟩
  · rw [ending_eq_lf_iff.2 hcrlf, rejoined_lf hcrlf, if_neg fun hmixes => hcrlf hmixes.1]

end Text

namespace SourceFile

/-- Without an edit a file that does not mix its line endings is written back as it was, and one that
does gets a carriage return in front of every bare line feed, which changes it. -/
theorem content_ofContent (path : Path) (content : Text) :
    (ofContent path content).content =
        (if Text.MixesEndings content then Text.addReturns false content else content) ∧
      ((ofContent path content).content = content ↔ ¬ Text.MixesEndings content) := by
  have hcontent : (ofContent path content).content =
      if Text.MixesEndings content then Text.addReturns false content else content :=
    Text.rejoined_ending content
  refine ⟨hcontent, ?_⟩
  rw [hcontent]
  split
  · rename_i hmixes
    exact iff_of_false (fun h => Text.addReturns_eq_self_iff.1 h hmixes.2) fun h => h hmixes
  · rename_i hpure
    exact iff_of_true rfl hpure

example : (ofContent ⟨[]⟩ "a\r\n\n\r\r\nb\r".toList).content = "a\r\n\r\n\r\r\nb\r".toList := by
  decide

end SourceFile
end Localize

import Localize.Proofs.Text

/-! The lines of a text with their own ends. What is written under one line ending has the written
lines as its raw lines, so a line that already had this end keeps its bytes. -/

namespace Localize.Text

/-- The lines of a text, each with the line feed that ends it and all before it. -/
def rawLines (t : Text) : List Text :=
  let fs := fields '\n' t
  fs.dropLast.map (· ++ ['\n']) ++ (fs.getLast?.toList.filter fun last => !last.isEmpty)

/-- Lines as they are written: `sep` ends each but the last, and the last one too if `final`. -/
def endedBy (sep : Text) (final : Bool) : List Text → List Text
  | [] => []
  | [l] => [if final then l ++ sep else l]
  | l :: l' :: ls => (l ++ sep) :: endedBy sep final (l' :: ls)

variable {sep l t raw : Text} {final : Bool} {ls ls' : List Text} {e : Ending}

theorem rawLines_append_cons (h : '\n' ∉ l) (t : Text) :
    rawLines (l ++ '\n' :: t) = (l ++ ['\n']) :: rawLines t := by
  have hne := fields_ne_nil '\n' t
  rw [rawLines, fields_append_cons h, List.dropLast_cons_of_ne_nil hne, List.map_cons,
    List.getLast?_cons_of_ne_nil hne]
  rfl

theorem rawLines_of_not_mem (h : '\n' ∉ l) (hne : l ≠ []) : rawLines l = [l] := by
  simp [rawLines, fields_of_not_mem h, hne]

theorem not_endsLine_of_not_mem (h : '\n' ∉ l) : endsLine l = false :=
  decide_eq_false fun hlast => h (List.mem_of_getLast? hlast)

theorem endsLine_append_lf (l : Text) : endsLine (l ++ ['\n']) = true := by
  simp [endsLine]

theorem endsLine_append (hne : t ≠ []) (l : Text) : endsLine (l ++ t) = endsLine t := by
  rw [endsLine, List.getLast?_append_of_ne_nil l hne, endsLine]

theorem endsLine_text (e : Ending) : endsLine e.text = true := by
  cases e <;> rfl

theorem Ending.text_ne_nil (e : Ending) : e.text ≠ [] := by
  cases e <;> nofun

theorem flatten_rawLines (t : Text) : (rawLines t).flatten = t := by
  induction t using lineInduction with
  | last l hl =>
    by_cases hne : l = []
    · rw [hne]; rfl
    · rw [rawLines_of_not_mem hl hne, List.flatten_singleton]
  | line l t hl ih =>
    rw [rawLines_append_cons hl, List.flatten_cons, ih, List.append_assoc, List.singleton_append]

theorem rawLines_append_lf (l t : Text) :
    rawLines (l ++ ['\n'] ++ t) = rawLines (l ++ ['\n']) ++ rawLines t := by
  induction l using lineInduction with
  | last l hl =>
    rw [List.append_assoc, List.singleton_append, rawLines_append_cons hl, rawLines_append_cons hl]
    rfl
  | line l l' hl ih =>
    simp only [List.append_assoc, List.cons_append] at ih ⊢
    rw [rawLines_append_cons hl, ih, rawLines_append_cons hl, List.cons_append]

theorem rawLines_append (h : endsLine l = true) (t : Text) :
    rawLines (l ++ t) = rawLines l ++ rawLines t := by
  obtain ⟨l', rfl⟩ := List.getLast?_eq_some_iff.1 (of_decide_eq_true h)
  exact rawLines_append_lf l' t

theorem rawLines_of_mem_rawLines (h : raw ∈ rawLines t) : rawLines raw = [raw] := by
  induction t using lineInduction with
  | last l hl =>
    by_cases hne : l = []
    · rw [hne] at h; cases h
    · have hsingle := rawLines_of_not_mem hl hne
      rw [hsingle, List.mem_singleton] at h
      rw [h, hsingle]
  | line l t hl ih =>
    rw [rawLines_append_cons hl, List.mem_cons] at h
    rcases h with rfl | h
    · rw [rawLines_append_cons hl]
      rfl
    · exact ih h

theorem endsLine_of_mem_rawLines (hends : endsLine t = true) (h : raw ∈ rawLines t) :
    endsLine raw = true := by
  induction t using lineInduction with
  | last l hl => exact absurd hends (Bool.eq_false_iff.1 (not_endsLine_of_not_mem hl))
  | line l t hl ih =>
    rw [rawLines_append_cons hl, List.mem_cons] at h
    rcases h with rfl | h
    · exact endsLine_append_lf l
    · have hne : t ≠ [] := by
        rintro rfl
        cases h
      rw [List.append_cons, endsLine_append hne] at hends
      exact ih hends h

theorem lf_not_mem_of_mem_lines (h : l ∈ lines t) : '\n' ∉ l := by
  induction t using lineInduction with
  | last l' hl' =>
    by_cases hne : l' = []
    · rw [hne] at h; cases h
    · rw [lines_of_not_mem hl' hne, List.mem_singleton] at h
      rwa [h]
  | line l' t hl' ih =>
    rw [lines_append_cons hl', List.mem_cons] at h
    rcases h with rfl | h
    · unfold dropReturn
      split
      · exact fun hmem => hl' (List.mem_of_mem_dropLast hmem)
      · exact hl'
    · exact ih h

theorem lines_ne_nil (h : t ≠ []) : lines t ≠ [] := by
  induction t using lineInduction with
  | last l hl => rw [lines_of_not_mem hl h]; exact List.cons_ne_nil _ _
  | line l t hl _ => rw [lines_append_cons hl]; exact List.cons_ne_nil _ _

theorem endedBy_concat (sep : Text) (final : Bool) (ls : List Text) (l : Text) :
    endedBy sep final (ls ++ [l]) = ls.map (· ++ sep) ++ [if final then l ++ sep else l] := by
  induction ls with
  | nil => rfl
  | cons l' ls ih =>
    cases ls with
    | nil => rfl
    | cons l'' ls => exact congrArg ((l' ++ sep) :: ·) ih

theorem endedBy_true (sep : Text) (ls : List Text) : endedBy sep true ls = ls.map (· ++ sep) := by
  rcases List.eq_nil_or_concat' ls with rfl | ⟨ls, l, rfl⟩
  · rfl
  · rw [endedBy_concat, List.map_append]
    rfl

theorem endedBy_cons (hne : ls ≠ []) (l : Text) :
    endedBy sep final (l :: ls) = (l ++ sep) :: endedBy sep final ls := by
  cases ls with
  | nil => exact absurd rfl hne
  | cons l' ls => rfl

theorem getElem?_endedBy (sep : Text) (final : Bool) (ls : List Text) (i : Nat) :
    (endedBy sep final ls)[i]? =
      ls[i]?.map fun l => if final = true ∨ i + 1 < ls.length then l ++ sep else l := by
  induction ls generalizing i with
  | nil => rfl
  | cons l ls ih =>
    cases ls with
    | nil => cases i <;> simp [endedBy]
    | cons l' ls =>
      rw [endedBy_cons (List.cons_ne_nil l' ls)]
      cases i with
      | zero => simp
      | succ i =>
        rw [List.getElem?_cons_succ, List.getElem?_cons_succ, ih]
        simp

theorem length_endedBy (sep : Text) (final : Bool) (ls : List Text) :
    (endedBy sep final ls).length = ls.length := by
  rcases List.eq_nil_or_concat' ls with rfl | ⟨init, l, rfl⟩
  · rfl
  · simp [endedBy_concat]

theorem flatten_endedBy (hne : ls ≠ []) :
    (endedBy sep final ls).flatten = joined sep ls ++ if final then sep else [] := by
  induction ls with
  | nil => exact absurd rfl hne
  | cons l ls ih =>
    cases ls with
    | nil => cases final <;> simp [endedBy, joined_singleton]
    | cons l' ls =>
      have hne' := List.cons_ne_nil l' ls
      rw [endedBy_cons hne', List.flatten_cons, ih hne', joined_cons_cons,
        List.append_assoc _ (joined _ _)]

theorem rawLines_flatten_endedBy (e : Ending) (final : Bool) (ls : List Text) :
    rawLines (endedBy e.text final ls).flatten = (endedBy e.text final ls).flatMap rawLines := by
  induction ls with
  | nil => rfl
  | cons l ls ih =>
    cases ls with
    | nil => simp [endedBy]
    | cons l' ls =>
      have hends : endsLine (l ++ e.text) = true :=
        (endsLine_append e.text_ne_nil l).trans (endsLine_text e)
      rw [endedBy_cons (List.cons_ne_nil l' ls), List.flatten_cons, rawLines_append hends, ih,
        List.flatMap_cons]

theorem dropLast_sublist_dropLast {l l' : Text} (h : (ls ++ [l]).Sublist (ls' ++ [l'])) :
    ls.Sublist ls' := by
  have hreverse := h.reverse.tail
  rw [List.reverse_concat, List.reverse_concat] at hreverse
  exact List.reverse_sublist.1 hreverse

theorem endedBy_sublist (hsub : ls.Sublist ls')
    (hlast : final = true ∨ ls'.getLast? = ls.getLast?) :
    (endedBy sep final ls).Sublist (endedBy sep final ls') := by
  rcases hlast with rfl | hlast
  · rw [endedBy_true, endedBy_true]
    exact hsub.map _
  · rcases List.eq_nil_or_concat' ls with rfl | ⟨init, l, rfl⟩
    · exact List.nil_sublist _
    · rcases List.eq_nil_or_concat' ls' with rfl | ⟨init', l', rfl⟩
      · rw [List.sublist_nil.1 hsub]
      · rw [List.getLast?_concat, List.getLast?_concat] at hlast
        obtain rfl := Option.some.inj hlast
        rw [endedBy_concat, endedBy_concat]
        exact ((dropLast_sublist_dropLast hsub).map _).append (List.Sublist.refl _)

/-- Further lines never change a line that is written with an end. -/
theorem filter_endedBy_sublist (hsub : ls.Sublist ls')
    (hlf : ∀ l ∈ ls, l.getLast? ≠ some '\n') :
    ((endedBy sep final ls).filter endsLine).Sublist (endedBy sep final ls') := by
  cases final with
  | true => exact List.filter_sublist.trans (endedBy_sublist hsub (.inl rfl))
  | false =>
    rcases List.eq_nil_or_concat' ls with rfl | ⟨init, l, rfl⟩
    · exact List.nil_sublist _
    · rcases List.eq_nil_or_concat' ls' with rfl | ⟨init', l', rfl⟩
      · exact absurd (List.sublist_nil.1 hsub) (List.concat_ne_nil l init)
      · have hl : endsLine l = false :=
          decide_eq_false (hlf l (List.mem_append_right _ List.mem_cons_self))
        rw [endedBy_concat, endedBy_concat, List.filter_append, if_neg Bool.false_ne_true,
          List.filter_cons_of_neg (by simp [hl]), List.filter_nil, List.append_nil]
        refine List.filter_sublist.trans (((dropLast_sublist_dropLast hsub).map _).trans ?_)
        exact List.sublist_append_left _ _

theorem endsLine_flatten_map (e : Ending) (hne : ls ≠ []) :
    endsLine (ls.map (· ++ e.text)).flatten = true := by
  rcases List.eq_nil_or_concat' ls with rfl | ⟨init, l, rfl⟩
  · exact absurd rfl hne
  · rw [List.map_append, List.flatten_append, List.map_singleton, List.flatten_singleton,
      ← List.append_assoc, endsLine_append e.text_ne_nil, endsLine_text]

theorem endsLine_flatten_endedBy (hsome : ∃ l ∈ ls, l ≠ [])
    (hlf : ∀ l ∈ ls, l.getLast? ≠ some '\n') :
    endsLine (endedBy e.text final ls).flatten = true ↔
      final = true ∨ ls.getLast? = some [] := by
  obtain ⟨filled, hmem, hfilled⟩ := hsome
  rcases List.eq_nil_or_concat' ls with rfl | ⟨init, l, rfl⟩
  · cases hmem
  · cases final with
    | true =>
      rw [endedBy_true]
      exact iff_of_true (endsLine_flatten_map e (List.concat_ne_nil l init)) (.inl rfl)
    | false =>
      rw [endedBy_concat, if_neg Bool.false_ne_true, List.flatten_append, List.flatten_singleton,
        List.getLast?_concat, Option.some.injEq, or_iff_right Bool.false_ne_true]
      by_cases hl : l = []
      · have hinit : init ≠ [] := by
          rintro rfl
          exact hfilled ((List.mem_singleton.1 hmem).trans hl)
        rw [hl, List.append_nil]
        exact iff_of_true (endsLine_flatten_map e hinit) rfl
      · rw [endsLine_append hl]
        exact iff_of_false
          (fun h => hlf l (List.mem_append_right _ List.mem_cons_self) (of_decide_eq_true h)) hl

theorem ending_of_infix (h : ['\r', '\n'] <:+: t) : ending t = .crlf := by
  fun_induction ending t with
  | case1 => rfl
  | case2 c cs hnot ih =>
    refine ih ((List.infix_cons_iff.1 h).resolve_left ?_)
    rintro ⟨rest, hrest⟩
    obtain ⟨rfl, rfl⟩ := List.cons.inj hrest
    exact hnot rest rfl rfl
  | case3 => cases List.infix_nil.1 h

theorem dropReturn_append (hends : e.text <:+ l ++ ['\n'])
    (hlf : e = .lf → l.getLast? ≠ some '\r') : dropReturn l ++ e.text = l ++ ['\n'] := by
  cases e with
  | lf => rw [dropReturn, if_neg (hlf rfl)]; rfl
  | crlf =>
    obtain ⟨l', hl'⟩ := hends
    obtain rfl : l' ++ ['\r'] = l :=
      List.append_cancel_right ((List.append_assoc l' ['\r'] ['\n']).trans hl')
    rw [dropReturn, if_pos List.getLast?_concat, List.dropLast_concat, List.append_assoc]
    rfl

/-- The raw lines that the ending ends, or nothing, are those that are written for them. -/
theorem getElem?_endedBy_lines {i : Nat} (hlf : e = .lf → ¬ ['\r', '\n'] <:+: t)
    (hraw : (rawLines t)[i]? = some raw) (hends : endsLine raw = true → e.text <:+ raw) :
    (endedBy e.text (endsLine t) (lines t))[i]? = some raw := by
  induction t using lineInduction generalizing i with
  | last l hl =>
    by_cases hne : l = []
    · rw [hne] at hraw; cases hraw
    · rw [rawLines_of_not_mem hl hne] at hraw
      rw [lines_of_not_mem hl hne, not_endsLine_of_not_mem hl]
      exact hraw
  | line l t hl ih =>
    have hfirst (h : e.text <:+ l ++ ['\n']) : dropReturn l ++ e.text = l ++ ['\n'] := by
      refine dropReturn_append h fun he hcr => hlf he ?_
      obtain ⟨l', rfl⟩ := List.getLast?_eq_some_iff.1 hcr
      exact ⟨l', t, by simp⟩
    rw [rawLines_append_cons hl] at hraw
    rw [lines_append_cons hl]
    by_cases ht : t = []
    · subst ht
      cases i with
      | zero =>
        obtain rfl := Option.some.inj hraw
        rw [endsLine_append_lf, endedBy_true]
        exact congrArg some (hfirst (hends (endsLine_append_lf l)))
      | succ i => cases hraw
    · have hfinal : endsLine (l ++ '\n' :: t) = endsLine t := by
        rw [List.append_cons, endsLine_append ht]
      rw [hfinal, endedBy_cons (lines_ne_nil ht)]
      cases i with
      | zero =>
        obtain rfl := Option.some.inj hraw
        exact congrArg some (hfirst (hends (endsLine_append_lf l)))
      | succ i =>
        exact ih (fun he h => hlf he (h.trans ⟨l ++ ['\n'], [], by simp⟩)) hraw

end Localize.Text

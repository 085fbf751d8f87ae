import Localize.Proofs.Parent
import Localize.Proofs.Printing

/-! Colours do not touch the text. Without its colour codes the coloured report of a run is the
plain one, as a whole and line by line, as long as no text that the run brings into the report has
an escape character of its own. -/

namespace Localize

theorem Text.replaceAll_of_not_infix {needle t : Text} (h : ¬ needle <:+: t) (new : Text) :
    replaceAll needle new t = t := by
  have hcut : cut? needle t = none := by
    rw [← Option.not_isSome_iff_eq_none]
    exact mt includes_iff.1 h
  cases needle with
  | nil => rfl
  | cons c needle =>
    rw [replaceAll]
    cases t.length with
    | zero => rfl
    | succ n => rw [replaceAll.go, hcut]

namespace Path

theorem dropComponents_isSuffix {cs : List Component} {segments rest : List Text}
    (h : dropComponents cs segments = some rest) : rest <:+ segments := by
  induction cs generalizing segments with
  | nil =>
    cases h
    exact List.suffix_rfl
  | cons c cs ih =>
    rw [dropComponents] at h
    split at h
    · cases h
    · rename_i s left hstart
      split at h
      · have hleft : s :: left <:+ segments := hstart ▸ List.dropWhile_suffix isIdle
        exact ((ih h).trans (List.suffix_cons s left)).trans hleft
      · cases h

theorem not_mem_stripBase? {p q base : Path} {c : Char} (hc : c ≠ separator) (h : c ∉ p.spelled)
    (hstrip : p.stripBase? base = some q) : c ∉ q.spelled := by
  have hsegments : ∀ s ∈ p.segments, c ∉ s := fun s hs hmem =>
    h (List.mem_of_mem_drop ((Text.mem_iff_mem_fields hc _).2 ⟨s, hs, hmem⟩))
  have hjoined {ss : List Text} (hss : ss ⊆ p.segments) : c ∉ joinSegments (dropIdleEnd ss) :=
    Text.not_mem_joined (by simpa using hc)
      fun s hs => hsegments s (hss ((dropIdleEnd_isPrefix ss).subset hs))
  unfold stripBase? at hstrip
  split at hstrip
  · cases hstrip
    rw [List.mem_append, not_or]
    refine ⟨?_, hjoined (List.Subset.refl _)⟩
    unfold anchor
    split
    · exact fun hmem => h (List.mem_of_mem_take hmem)
    · exact List.not_mem_nil
  · rename_i d ds hbase
    obtain ⟨ss, hss, rfl⟩ := Option.map_eq_some_iff.1 hstrip
    have hsuffix : ss <:+ p.segments := by
      split at hss
      · exact dropComponents_isSuffix hss
      · split at hss
        · exact dropComponents_isSuffix hss
        · cases hss
    exact hjoined fun s hs => hsuffix.subset ((List.dropWhile_suffix isIdle).subset hs)

end Path

def FileChange.texts (c : FileChange) : List Text :=
  c.path.spelled :: c.replacements.flatMap fun x =>
    [x.key, x.replacement.before, x.replacement.after]

def Skipped.texts (s : Skipped) : List Text := [s.issue.file.spelled, s.issue.string]

/-- The texts in the report of a run that are not its own words. -/
def Account.texts (r : Account) : List Text :=
  r.changes.flatMap FileChange.texts ++ r.skipped.flatMap Skipped.texts ++
    match r.lintStatus with
    | some (.notStarted error) => [error]
    | _ => []

namespace Console

def isParameter (c : Char) : Bool := Text.isDigit c || c == ';'

/-- The escape character, `[`, numbers between semicolons, `m`. -/
def IsCode (code : Text) : Prop :=
  ∃ numbers, (∀ c ∈ numbers, isParameter c = true) ∧ code = escape :: '[' :: (numbers ++ ['m'])

/-- What stands behind the code that the text begins with. -/
def afterCode? : Text → Option Text
  | '\x1b' :: '[' :: cs =>
    match cs.dropWhile isParameter with
    | 'm' :: rest => some rest
    | _ => none
  | _ => none

variable {c : Char} {code t rest : Text}

theorem afterCode?_eq_some_iff :
    afterCode? t = some rest ↔ ∃ code, IsCode code ∧ t = code ++ rest := by
  constructor
  · intro h
    unfold afterCode? at h
    split at h
    · rename_i cs
      split at h
      · rename_i rest' hdrop
        cases h
        refine ⟨escape :: '[' :: (cs.takeWhile isParameter ++ ['m']),
          ⟨_, fun c => List.mem_takeWhile_imp, rfl⟩, ?_⟩
        have hsplit := List.takeWhile_append_dropWhile (p := isParameter) (l := cs)
        rw [hdrop] at hsplit
        simp [escape, hsplit]
      · cases h
    · cases h
  · rintro ⟨code, ⟨numbers, hnumbers, rfl⟩, rfl⟩
    have hdrop : (numbers ++ 'm' :: rest).dropWhile isParameter = 'm' :: rest :=
      List.dropWhile_append_of_pos hnumbers
    simp [afterCode?, escape, hdrop]

theorem afterCode?_of_ne (h : c ≠ escape) (t : Text) : afterCode? (c :: t) = none := by
  refine Option.eq_none_iff_forall_ne_some.2 fun rest hrest => ?_
  obtain ⟨code, ⟨numbers, -, rfl⟩, heq⟩ := afterCode?_eq_some_iff.1 hrest
  exact h (List.cons.inj heq).1

theorem length_lt_of_afterCode? (h : afterCode? t = some rest) : rest.length < t.length := by
  obtain ⟨code, ⟨numbers, -, rfl⟩, rfl⟩ := afterCode?_eq_some_iff.1 h
  simp only [List.length_append, List.length_cons]
  omega

/-- The text without its colour codes. -/
def uncoloured (t : Text) : Text :=
  match _h : afterCode? t with
  | some rest => uncoloured rest
  | none =>
    match t with
    | [] => []
    | c :: cs => c :: uncoloured cs
termination_by t.length
decreasing_by
  · exact length_lt_of_afterCode? _h
  · exact Nat.lt_succ_self _

theorem uncoloured_code_append (h : IsCode code) (t : Text) :
    uncoloured (code ++ t) = uncoloured t := by
  have hcode : afterCode? (code ++ t) = some t := afterCode?_eq_some_iff.2 ⟨code, h, rfl⟩
  rw [uncoloured]
  split
  · rename_i rest hrest
    rw [hcode] at hrest
    cases hrest
    rfl
  · rename_i hnone
    rw [hcode] at hnone
    cases hnone

theorem uncoloured_nil : uncoloured [] = [] := by
  rw [uncoloured]
  rfl

theorem uncoloured_cons (h : afterCode? (c :: t) = none) :
    uncoloured (c :: t) = c :: uncoloured t := by
  rw [uncoloured]
  split
  · rename_i rest hrest
    rw [h] at hrest
    cases hrest
  · rfl

theorem uncoloured_sublist (t : Text) : (uncoloured t).Sublist t := by
  fun_induction uncoloured t with
  | case1 t rest h ih =>
    obtain ⟨code, -, rfl⟩ := afterCode?_eq_some_iff.1 h
    exact ih.trans (List.sublist_append_right code rest)
  | case2 => exact List.Sublist.refl []
  | case3 c cs h ih => exact ih.cons_cons c

theorem lf_not_mem_of_isCode (h : IsCode code) : '\n' ∉ code := by
  obtain ⟨numbers, hnumbers, rfl⟩ := h
  have hlf : '\n' ∉ numbers := fun hmem => Bool.noConfusion (hnumbers _ hmem)
  simp [escape, hlf]

/-- A code does not reach beyond the end of a line. -/
theorem afterCode?_append_lf (t u : Text) :
    afterCode? (t ++ '\n' :: u) = (afterCode? t).map (· ++ '\n' :: u) := by
  refine Option.ext fun rest => ?_
  rw [Option.map_eq_some_iff, afterCode?_eq_some_iff]
  constructor
  · rintro ⟨code, hcode, heq⟩
    -- the code ends before the line does, or else it would have the line feed in it
    rcases List.append_eq_append_iff.1 heq with ⟨back, rfl, hback⟩ | ⟨left, rfl, rfl⟩
    · cases back with
      | nil => exact ⟨[], afterCode?_eq_some_iff.2 ⟨t ++ [], hcode, by simp⟩, hback⟩
      | cons d back =>
        obtain ⟨rfl, -⟩ := List.cons.inj hback
        exact absurd (List.mem_append_right _ List.mem_cons_self) (lf_not_mem_of_isCode hcode)
    · exact ⟨left, afterCode?_eq_some_iff.2 ⟨code, hcode, rfl⟩, rfl⟩
  · rintro ⟨left, hleft, rfl⟩
    obtain ⟨code, hcode, rfl⟩ := afterCode?_eq_some_iff.1 hleft
    exact ⟨code, hcode, List.append_assoc _ _ _⟩

theorem uncoloured_append_lf (t u : Text) :
    uncoloured (t ++ '\n' :: u) = uncoloured t ++ '\n' :: uncoloured u := by
  fun_induction uncoloured t with
  | case1 t rest h ih =>
    obtain ⟨code, hcode, rfl⟩ := afterCode?_eq_some_iff.1 h
    rw [List.append_assoc, uncoloured_code_append hcode, ih]
  | case2 => exact uncoloured_cons (afterCode?_of_ne (by decide) u)
  | case3 c cs h ih =>
    have hnone : afterCode? (c :: (cs ++ '\n' :: u)) = none := by
      rw [← List.cons_append, afterCode?_append_lf, h]
      rfl
    rw [List.cons_append, uncoloured_cons hnone, ih, List.cons_append]

/-- The codes are taken out of each line on its own. -/
theorem fields_uncoloured (t : Text) :
    Text.fields '\n' (uncoloured t) = (Text.fields '\n' t).map uncoloured := by
  have hkept {l : Text} (hl : '\n' ∉ l) : '\n' ∉ uncoloured l :=
    fun hmem => hl ((uncoloured_sublist l).subset hmem)
  induction t using Text.lineInduction with
  | last l hl =>
    rw [Text.fields_of_not_mem hl, Text.fields_of_not_mem (hkept hl), List.map_singleton]
  | line l t hl ih =>
    rw [uncoloured_append_lf, Text.fields_append_cons (hkept hl), ih, Text.fields_append_cons hl,
      List.map_cons]

theorem uncoloured_append_of_not_mem (h : escape ∉ t) (rest : Text) :
    uncoloured (t ++ rest) = t ++ uncoloured rest := by
  induction t with
  | nil => rfl
  | cons c t ih =>
    rw [List.mem_cons, not_or] at h
    rw [List.cons_append, uncoloured_cons (afterCode?_of_ne (Ne.symm h.1) _), ih h.2,
      List.cons_append]

theorem isCode_opening (s : Style) : IsCode s.opening := by
  refine ⟨_, List.all_eq_true.1 ?_, rfl⟩
  obtain ⟨bold, dimmed, colour⟩ := s
  cases bold <;> cases dimmed <;> cases colour <;> rfl

theorem isCode_closing : IsCode closing := ⟨['0'], List.forall_mem_singleton.2 rfl, rfl⟩

theorem Piece.uncoloured_coloured_append {p : Piece} (h : escape ∉ p.text) (rest : Text) :
    uncoloured (p.coloured ++ rest) = p.text ++ uncoloured rest := by
  cases p with
  | plain t => exact uncoloured_append_of_not_mem h rest
  | styled s t =>
    replace h : escape ∉ t := h
    -- so the style is opened once and not again within the text
    have hclosing : ¬ closing <:+: t := fun hin => h (hin.subset List.mem_cons_self)
    rw [coloured, Text.replaceAll_of_not_infix hclosing, List.append_assoc, List.append_assoc,
      uncoloured_code_append (isCode_opening s), uncoloured_append_of_not_mem h,
      uncoloured_code_append isCode_closing]
    rfl

theorem uncoloured_paint {ps : List Piece} (h : ∀ p ∈ ps, escape ∉ p.text) :
    uncoloured (paint true ps) = paint false ps := by
  induction ps with
  | nil => exact uncoloured_nil
  | cons p ps ih =>
    obtain ⟨hp, hps⟩ := List.forall_mem_cons.1 h
    have hpaint (colours : Bool) : paint colours (p :: ps) =
        (if colours then p.coloured else p.text) ++ paint colours ps := rfl
    rw [hpaint, hpaint, if_pos rfl, Piece.uncoloured_coloured_append hp, ih hps]
    rfl

theorem escape_not_mem_ofNat (n : Nat) : escape ∉ Text.ofNat n :=
  fun h => Bool.noConfusion (Text.isDigit_of_mem_ofNat h)

theorem escape_not_mem_padLeft? {width : Nat} {padded : Text} (h : escape ∉ t)
    (hpadded : padLeft? width t = some padded) : escape ∉ padded := by
  unfold padLeft? at hpadded
  split at hpadded
  · cases hpadded
    rw [List.mem_append, not_or]
    exact ⟨fun hmem => absurd (List.eq_of_mem_replicate hmem) (by decide), h⟩
  · cases hpadded

theorem escape_not_mem_shownPath {p : Path} (h : escape ∉ p.spelled) (projectRoot : Path) :
    escape ∉ shownPath projectRoot p := by
  unfold shownPath
  cases hstrip : p.stripBase? projectRoot with
  | none => exact h
  | some q => exact Path.not_mem_stripBase? (by decide) h hstrip

theorem escape_not_mem_markedLine {gutter : Nat} {colour : Colour} {mark : Char} {line : Text}
    {ps : List Piece} (hmark : mark ≠ escape) (h : escape ∉ line)
    (hps : markedLine gutter colour mark line = some ps) : ∀ p ∈ ps, escape ∉ p.text := by
  obtain ⟨padded, hpadded, hps⟩ := Option.bind_eq_some_iff.1 hps
  cases hps
  have hmargin := escape_not_mem_padLeft? (by simpa using Ne.symm hmark) hpadded
  simp +decide [plain, styled, newline, Piece.text, hmargin, h]

theorem escape_not_mem_caretLine {gutter : Nat} {x : Applied} {ps : List Piece}
    (h : escape ∉ x.key) (hps : caretLine gutter x = some ps) : ∀ p ∈ ps, escape ∉ p.text := by
  obtain ⟨margin, hmargin, hps⟩ := Option.bind_eq_some_iff.1 hps
  obtain ⟨indent, hindent, hps⟩ := Option.bind_eq_some_iff.1 hps
  cases hps
  have hmargin := escape_not_mem_padLeft? List.not_mem_nil hmargin
  have hindent := escape_not_mem_padLeft? List.not_mem_nil hindent
  simp +decide [plain, styled, newline, Piece.text, hmargin, hindent, h]

theorem escape_not_mem_replacementLines {path : Text} {x : Applied} {gutter : Nat}
    {ps : List Piece} (hpath : escape ∉ path)
    (h : ∀ t ∈ [x.key, x.replacement.before, x.replacement.after], escape ∉ t)
    (hps : some ps ∈ replacementLines path gutter x) : ∀ p ∈ ps, escape ∉ p.text := by
  simp only [List.forall_mem_cons] at h
  obtain ⟨hkey, hbefore, hafter, -⟩ := h
  simp only [replacementLines, List.mem_cons, List.not_mem_nil, or_false] at hps
  obtain hplace | hempty | hminus | hplus | hcaret | hlast := hps
  · cases hplace
    simp +decide [plain, styled, newline, Piece.text, hpath, escape_not_mem_ofNat]
  · obtain ⟨margin, hmargin, rfl⟩ := Option.map_eq_some_iff.1 hempty.symm
    have hmargin := escape_not_mem_padLeft? List.not_mem_nil hmargin
    simp +decide [plain, styled, newline, Piece.text, hmargin]
  · exact escape_not_mem_markedLine (by decide) hbefore hminus.symm
  · exact escape_not_mem_markedLine (by decide) hafter hplus.symm
  · exact escape_not_mem_caretLine hkey hcaret.symm
  · cases hlast
    decide

theorem escape_not_mem_augmentationLines {path : Text} (hpath : escape ∉ path) (a : Augmentation) :
    ∀ p ∈ augmentationLines path a, escape ∉ p.text := by
  obtain ⟨importAdded, bindingAdded⟩ := a
  cases importAdded <;> cases bindingAdded <;>
    simp +decide [augmentationLines, additionLine, plain, bold, newline, Piece.text, hpath]

theorem escape_not_mem_changeLines {c : FileChange} {ps : List Piece}
    (h : ∀ t ∈ c.texts, escape ∉ t) {projectRoot : Path}
    (hps : some ps ∈ changeLines projectRoot c) : ∀ p ∈ ps, escape ∉ p.text := by
  obtain ⟨hpath, hreplaced⟩ := List.forall_mem_cons.1 h
  have hshown := escape_not_mem_shownPath hpath projectRoot
  rw [List.forall_mem_flatMap] at hreplaced
  rcases List.mem_append.1 hps with hin | hlast
  · obtain ⟨x, hx, hin⟩ := List.mem_flatMap.1 hin
    exact escape_not_mem_replacementLines hshown (hreplaced x hx) hin
  · cases List.mem_singleton.1 hlast
    exact escape_not_mem_augmentationLines hshown _

theorem escape_not_mem_skippedLines {s : Skipped} (h : ∀ t ∈ s.texts, escape ∉ t)
    (projectRoot : Path) : ∀ p ∈ skippedLines projectRoot s, escape ∉ p.text := by
  simp only [Skipped.texts, List.forall_mem_cons] at h
  obtain ⟨hfile, hstring, -⟩ := h
  have hshown := escape_not_mem_shownPath hfile projectRoot
  have hreason : escape ∉ s.reason.text := by cases s.reason <;> decide
  simp +decide [skippedLines, plain, styled, bold, newline, Piece.text, hshown, hstring, hreason,
    escape_not_mem_ofNat]

theorem escape_not_mem_summaryLines (s : Summary) (dryRun : Bool) :
    ∀ p ∈ summaryLines s dryRun, escape ∉ p.text := by
  unfold summaryLines
  split
  · decide
  · refine List.forall_mem_append.2 ⟨List.forall_mem_append.2 ⟨?_, ?_⟩, ?_⟩ <;> split
    · cases dryRun <;> simp +decide [plain, bold, newline, Piece.text, escape_not_mem_ofNat]
    · exact List.forall_mem_nil _
    · simp +decide [plain, styled, newline, Piece.text, escape_not_mem_ofNat]
    · exact List.forall_mem_nil _
    · decide
    · exact List.forall_mem_nil _

theorem escape_not_mem_accountLines {r : Account} {ps : List Piece}
    (h : ∀ t ∈ r.texts, escape ∉ t) {projectRoot : Path} {verbose : Bool}
    (hps : some ps ∈ accountLines r projectRoot verbose) : ∀ p ∈ ps, escape ∉ p.text := by
  rw [Account.texts, List.forall_mem_append, List.forall_mem_append, List.forall_mem_flatMap,
    List.forall_mem_flatMap] at h
  obtain ⟨⟨hchanges, hskipped⟩, -⟩ := h
  rw [accountLines, List.mem_append, List.mem_append] at hps
  obtain (hin | hin) | hlast := hps
  · split at hin
    · obtain ⟨c, hc, hin⟩ := List.mem_flatMap.1 hin
      exact escape_not_mem_changeLines (hchanges c hc) hin
    · cases hin
  · split at hin
    · obtain ⟨s, hs, heq⟩ := List.mem_map.1 hin
      cases heq
      exact escape_not_mem_skippedLines (hskipped s hs) projectRoot
    · cases hin
  · cases List.mem_singleton.1 hlast
    exact escape_not_mem_summaryLines _ _

theorem escape_not_mem_lintWarning {r : Account} (h : ∀ t ∈ r.texts, escape ∉ t) :
    ∀ p ∈ lintWarning r.lintStatus, escape ∉ p.text := by
  rw [Account.texts, List.forall_mem_append] at h
  obtain ⟨-, herror⟩ := h
  unfold lintWarning
  split
  · rename_i error hstatus
    rw [hstatus, List.forall_mem_singleton] at herror
    simp +decide [plain, bold, newline, Piece.text, herror]
  · exact List.forall_mem_nil _

/-- Where no text of the account has an escape character, the coloured report and warning without
their codes are the plain ones. The codes are taken out of each line on its own, so the lines keep
their columns. -/
theorem colours_leave_text (r : Account) (projectRoot : Path) (verbose : Bool)
    (h : ∀ t ∈ r.texts, escape ∉ t) :
    let report := written (accountLines r projectRoot verbose)
    uncoloured (paint true report) = paint false report ∧
    (Text.fields '\n' (paint true report)).map uncoloured =
      Text.fields '\n' (paint false report) ∧
    uncoloured (paint true (lintWarning r.lintStatus)) =
      paint false (lintWarning r.lintStatus) := by
  intro report
  have hbare : ∀ p ∈ report, escape ∉ p.text := fun p hp => by
    obtain ⟨ps, hps, hin⟩ := exists_of_mem_written hp
    exact escape_not_mem_accountLines h hps p hin
  have hreport := uncoloured_paint hbare
  refine ⟨hreport, ?_, uncoloured_paint (escape_not_mem_lintWarning h)⟩
  rw [← fields_uncoloured, hreport]

def previewAccount : Account where
  summary := ⟨1, 1, 1⟩
  changes := [⟨Path.ofString "/p/src/A.tsx",
    [⟨⟨Path.ofString "/p/src/A.tsx", 12, "Save".toList⟩, "a.save".toList,
      ⟨11, "<p>日本 Save</p>".toList, "<p>日本 \x7bt(\"a.save\")\x7d</p>".toList⟩⟩], ⟨true, true⟩⟩]
  skipped := [⟨⟨Path.ofString "/p/src/A.tsx", 4, "Open".toList⟩, .noKey⟩]
  lintStatus := some (.notStarted "Failed to run lint".toList)
  dryRun := true

theorem colours_leave_text_previewAccount :
    let report := written (accountLines previewAccount (Path.ofString "/p") true)
    let warning := lintWarning previewAccount.lintStatus
    (∀ t ∈ previewAccount.texts, escape ∉ t) ∧ paint true report ≠ paint false report ∧
      uncoloured (paint true report) = paint false report ∧
      (Text.fields '\n' (paint true report)).map uncoloured =
        Text.fields '\n' (paint false report) ∧
      uncoloured (paint true warning) = paint false warning := by
  have hbare : ∀ t ∈ previewAccount.texts, escape ∉ t := by decide
  exact ⟨hbare, by decide +kernel,
    colours_leave_text previewAccount (Path.ofString "/p") true hbare⟩

end Console
end Localize

import Mathlib.Data.Bool.AllAny
import Mathlib.Data.Option.Basic
import Localize.Proofs.Text
import Localize.Report

/-! Issue lines are recognised by exactly their grammar: blanks, a number in digits of ASCII that fits
into a word, a colon, the marker and a string, which loses the quotes around it. Every line of that
shape is an issue line, whether or not it ends in a header path as well, and its number and its string
can be read off it in one way only. A line whose number is none, or does not fit, is no issue line. -/

namespace Localize.Report

/-- What is left of a text when one pair of equal quotes around it is taken away, if it has one. -/
inductive Unquoted : Text → Text → Prop
  | pair {q : Char} (s : Text) (quote : q = '"' ∨ q = '\'') : Unquoted (q :: (s ++ [q])) s
  | bare {t : Text} (unpaired : ∀ q s, q = '"' ∨ q = '\'' → t ≠ q :: (s ++ [q])) : Unquoted t t

/-- The grammar of an issue line, with the number of the line it claims and the string. -/
inductive IssueLine (marker : Text) : Text → Nat → Text → Prop
  | intro {indent digits gap rest string : Text}
      (indented : indent ≠ [])
      (blanks : ∀ c ∈ indent, Text.isBlank c = true)
      (numbered : digits ≠ [])
      (decimal : ∀ c ∈ digits, Text.isDigit c = true)
      (fits : Text.natValue digits < Text.wordLimit)
      (blanks' : ∀ c ∈ gap, Text.isBlank c = true)
      (oneLine : '\n' ∉ Text.trim rest)
      (unquoted : Unquoted (Text.trim rest) string) :
      IssueLine marker (indent ++ (digits ++ ':' :: (gap ++ (marker ++ rest))))
        (Text.natValue digits) string

variable {marker line t s : Text} {n : Nat}

theorem issue?_of_head? {marker line : Text} (h : ∀ c ∈ line.head?, Text.isBlank c = false) :
    issue? marker line = none := by
  rw [issue?, Text.dropWhile_isBlank_of_head? h]
  simp

/-- An issue line by its parts: blanks, a number, a colon, the marker and the string. -/
theorem issue?_of_parts {marker indent digits rest string : Text} {n : Nat} (hindent : indent ≠ [])
    (hblank : ∀ c ∈ indent, Text.isBlank c = true) (hdigits : ∀ c ∈ digits, Text.isDigit c = true)
    (hnumber : Text.natValue? digits = some n)
    (hmarker : marker.isPrefixOf? (rest.dropWhile Text.isBlank) = some string)
    (hlines : '\n' ∉ Text.trim string) :
    issue? marker (indent ++ (digits ++ ':' :: rest)) =
      some (n, unquote (Text.trim string)) := by
  have hnumeral : ∀ c ∈ (digits ++ ':' :: rest).head?, Text.isBlank c = false := by
    cases digits with
    | nil => cases hnumber
    | cons d ds =>
      rintro c ⟨⟩
      exact Text.isBlank_of_isDigit (hdigits d List.mem_cons_self)
  have hdrop :
      (indent ++ (digits ++ ':' :: rest)).dropWhile Text.isBlank = digits ++ ':' :: rest :=
    Text.dropWhile_isBlank_append hblank hnumeral
  have hlonger : (digits ++ ':' :: rest).length < (indent ++ (digits ++ ':' :: rest)).length := by
    have hpos := List.length_pos_iff.2 hindent
    simp only [List.length_append]
    omega
  have htake : (digits ++ ':' :: rest).takeWhile Text.isDigit = digits := by
    rw [List.takeWhile_append_of_pos hdigits, List.takeWhile_cons_of_neg (by decide),
      List.append_nil]
  have hrest : (digits ++ ':' :: rest).dropWhile Text.isDigit = ':' :: rest := by
    rw [List.dropWhile_append_of_pos hdigits, List.dropWhile_cons_of_neg (by decide)]
  have hplain : (Text.trim string).contains '\n' = false := by simpa using hlines
  rw [issue?, hdrop, htake, hnumber, hrest]
  simp only [hmarker, Option.bind_eq_bind, Option.bind_some, hplain, guard, if_pos hlonger]
  rfl

theorem unquote_pair {q : Char} (hq : q = '"' ∨ q = '\'') (s : Text) :
    unquote (q :: (s ++ [q])) = s := by
  cases s with
  | nil => rcases hq with rfl | rfl <;> rfl
  | cons c s =>
    have hlast : (c :: (s ++ [q])).getLast? = some q := by
      rw [← List.cons_append, List.getLast?_concat]
    have hdrop : (c :: (s ++ [q])).dropLast = c :: s := by
      rw [← List.cons_append, List.dropLast_concat]
    simp [unquote, List.cons_append, hlast, hdrop, hq]

theorem exists_pair_of_unquote_ne (h : unquote t ≠ t) :
    ∃ q s, (q = '"' ∨ q = '\'') ∧ t = q :: (s ++ [q]) := by
  unfold unquote at h
  split at h
  · rename_i q c cs
    split at h
    · rename_i hpair
      simp only [Bool.and_eq_true, Bool.or_eq_true, beq_iff_eq] at hpair
      obtain ⟨hq, hlast⟩ := hpair
      obtain ⟨s, hs⟩ := List.getLast?_eq_some_iff.1 hlast
      exact ⟨q, s, hq, congrArg (q :: ·) hs⟩
    · exact absurd rfl h
  · exact absurd rfl h

theorem unquoted_iff : Unquoted t s ↔ unquote t = s := by
  constructor
  · rintro (⟨_, hq⟩ | hbare)
    · exact unquote_pair hq s
    · by_contra hne
      obtain ⟨q, s', hq, ht⟩ := exists_pair_of_unquote_ne hne
      exact hbare q s' hq ht
  · rintro rfl
    by_cases h : unquote t = t
    · rw [h]
      refine .bare fun q s hq ht => ?_
      -- A quoted text is longer than what stands between the quotes.
      rw [ht, unquote_pair hq] at h
      have hlength := congrArg List.length h
      rw [List.length_cons, List.length_append] at hlength
      omega
    · obtain ⟨q, s, hq, rfl⟩ := exists_pair_of_unquote_ne h
      rw [unquote_pair hq]
      exact .pair s hq

theorem issueLine_of_issue? (h : issue? marker line = some (n, s)) : IssueLine marker line n s := by
  simp only [issue?, Option.bind_eq_bind] at h
  obtain ⟨_, hlonger, h⟩ := Option.bind_eq_some_iff.1 h
  obtain ⟨number, hnumber, h⟩ := Option.bind_eq_some_iff.1 h
  split at h
  · rename_i rest hrest
    obtain ⟨string, hmarker, h⟩ := Option.bind_eq_some_iff.1 h
    obtain ⟨_, hlines, h⟩ := Option.bind_eq_some_iff.1 h
    rw [Option.guard_eq_some'] at hlonger hlines
    cases h
    obtain ⟨hne, hdigits, rfl, hfits⟩ := Text.natValue?_eq_some_iff.1 hnumber
    have hindent : line.takeWhile Text.isBlank ≠ [] := by
      intro hnil
      have hsplit := List.takeWhile_append_dropWhile (p := Text.isBlank) (l := line)
      rw [hnil, List.nil_append] at hsplit
      rw [hsplit] at hlonger
      exact lt_irrefl _ hlonger
    have hline : line.takeWhile Text.isBlank ++
        ((line.dropWhile Text.isBlank).takeWhile Text.isDigit ++
          ':' :: (rest.takeWhile Text.isBlank ++ (marker ++ string))) = line := by
      rw [List.isPrefixOf?_eq_some_iff_append_eq.1 hmarker, List.takeWhile_append_dropWhile, ← hrest,
        List.takeWhile_append_dropWhile, List.takeWhile_append_dropWhile]
    have hgap : ∀ c ∈ rest.takeWhile Text.isBlank, Text.isBlank c = true :=
      fun _ => List.mem_takeWhile_imp
    have hparts : IssueLine marker (_ ++ (_ ++ ':' :: (_ ++ (marker ++ string)))) _ _ :=
      .intro hindent (fun _ => List.mem_takeWhile_imp) hne hdigits hfits hgap
        (by simpa using hlines) (unquoted_iff.2 rfl)
    rwa [hline] at hparts
  · cases h

theorem exists_isPrefixOf?_gap {gap rest : Text}
    (hmarker : ∀ c ∈ marker.head?, Text.isBlank c = false)
    (hgap : ∀ c ∈ gap, Text.isBlank c = true) :
    ∃ string, marker.isPrefixOf? ((gap ++ (marker ++ rest)).dropWhile Text.isBlank) = some string ∧
      Text.trim string = Text.trim rest := by
  rw [List.dropWhile_append_of_pos hgap]
  cases marker with
  | nil =>
    refine ⟨rest.dropWhile Text.isBlank, rfl, ?_⟩
    have hsplit := List.takeWhile_append_dropWhile (p := Text.isBlank) (l := rest)
    conv_rhs => rw [← hsplit]
    exact (Text.trim_blanks_append (fun _ => List.mem_takeWhile_imp) _).symm
  | cons c marker =>
    have hkept : (c :: marker ++ rest).dropWhile Text.isBlank = c :: marker ++ rest :=
      Text.dropWhile_isBlank_of_head? hmarker
    rw [hkept]
    exact ⟨rest, List.isPrefixOf?_eq_some_iff_append_eq.2 rfl, rfl⟩

theorem issue?_eq_some_iff (hmarker : ∀ c ∈ marker.head?, Text.isBlank c = false) :
    issue? marker line = some (n, s) ↔ IssueLine marker line n s := by
  refine ⟨issueLine_of_issue?, ?_⟩
  rintro ⟨hindent, hblank, hne, hdigits, hfits, hgap, hlines, hstring⟩
  obtain ⟨string, hahead, htrim⟩ := exists_isPrefixOf?_gap hmarker hgap
  rw [← htrim] at hlines hstring
  rw [← unquoted_iff.1 hstring]
  exact issue?_of_parts hindent hblank hdigits
    (Text.natValue?_eq_some_iff.2 ⟨hne, hdigits, rfl, hfits⟩) hahead hlines

/-- What stands between the indent and the first colon is read as the number. -/
theorem issue?_of_not_number {indent digits rest : Text}
    (hindent : ∀ c ∈ indent, Text.isBlank c = true)
    (hdigits : ∀ c ∈ digits, Text.isBlank c = false ∧ c ≠ ':')
    (hbad : (∃ c ∈ digits, Text.isDigit c = false) ∨ Text.wordLimit ≤ Text.natValue digits) :
    issue? marker (indent ++ (digits ++ ':' :: rest)) = none := by
  rw [Option.eq_none_iff_forall_ne_some]
  rintro ⟨n, s⟩ hissue
  have hhead {ds : Text} (t : Text) (hds : ∀ c ∈ ds, Text.isBlank c = false ∧ c ≠ ':') :
      ∀ c ∈ (ds ++ ':' :: t).head?, Text.isBlank c = false := by
    cases ds with
    | nil => rintro c ⟨⟩; rfl
    | cons d ds => rintro c ⟨⟩; exact (hds d List.mem_cons_self).1
  have hdrop := Text.dropWhile_isBlank_append hindent (hhead rest hdigits)
  generalize indent ++ (digits ++ ':' :: rest) = line at hissue hdrop
  obtain @⟨_, digits', _, _, _, -, hblank, -, hdecimal, hfits⟩ := issueLine_of_issue? hissue
  have hplain : ∀ c ∈ digits', Text.isBlank c = false ∧ c ≠ ':' := by
    intro c hc
    have hdigit := hdecimal c hc
    refine ⟨Text.isBlank_of_isDigit hdigit, ?_⟩
    rintro rfl
    cases hdigit
  rw [Text.dropWhile_isBlank_append hblank (hhead _ hplain)] at hdrop
  obtain ⟨rfl, -⟩ := Text.eq_of_append_cons_eq (fun hc => (hplain _ hc).2 rfl)
    (fun hc => (hdigits _ hc).2 rfl) hdrop
  rcases hbad with ⟨c, hc, hother⟩ | hlarge
  · exact Bool.noConfusion (hother.symm.trans (hdecimal c hc))
  · exact absurd hfits (Nat.not_lt.2 hlarge)

theorem Format.classify_eq_issue_iff {f : Format} {l string : Text} {n : Nat} :
    f.classify l = .issue n string ↔ issue? f.marker l = some (n, string) := by
  unfold classify
  cases issue? f.marker l with
  | some issue => simp [Prod.ext_iff]
  | none => cases f.header? l <;> simp

theorem Format.issue?_of_classify {f : Format} {l : Text}
    (h : ∀ n string, f.classify l ≠ .issue n string) : issue? f.marker l = none :=
  Option.eq_none_iff_forall_ne_some.2 fun _ hissue => h _ _ (classify_eq_issue_iff.2 hissue)

/-- The issue lines are those of the grammar, and the grammar leaves one reading of a line. What stands
before the first colon has to be a number: with a digit of another script in it, or with a value that
fits into no word, it makes no issue line. -/
theorem issue_lines_by_grammar (c : Config) (line : Text) :
    (∀ n s, (Format.ofConfig c).classify line = .issue n s ↔
      IssueLine (Text.trim c.issueMarker) line n s) ∧
    (∀ n n' s s', IssueLine (Text.trim c.issueMarker) line n s →
      IssueLine (Text.trim c.issueMarker) line n' s' → n = n' ∧ s = s') ∧
    ∀ indent digits rest, line = indent ++ (digits ++ ':' :: rest) →
      (∀ ch ∈ indent, Text.isBlank ch = true) →
      (∀ ch ∈ digits, Text.isBlank ch = false ∧ ch ≠ ':') →
      ((∃ ch ∈ digits, Text.isDigit ch = false) ∨ Text.wordLimit ≤ Text.natValue digits) →
      ∀ n s, (Format.ofConfig c).classify line ≠ .issue n s := by
  have hgrammar (n : Nat) (s : Text) : issue? (Format.ofConfig c).marker line = some (n, s) ↔
      IssueLine (Text.trim c.issueMarker) line n s :=
    issue?_eq_some_iff fun _ => Text.isBlank_of_head?_trim
  refine ⟨fun n s => Format.classify_eq_issue_iff.trans (hgrammar n s), ?_, ?_⟩
  · intro n n' s s' h h'
    have hsame := ((hgrammar n s).2 h).symm.trans ((hgrammar n' s').2 h')
    exact Prod.mk.inj (Option.some.inj hsame)
  · rintro indent digits rest rfl hindent hdigits hbad n s hissue
    rw [Format.classify_eq_issue_iff, issue?_of_not_number hindent hdigits hbad] at hissue
    cases hissue

def savedPage : Text := "\t012:Hardcoded string: Save src/a.tsx".toList

/-- The number is written in digits of another script. -/
def foreignNumber : Text := "  ١٢: Hardcoded string: Save".toList

/-- The number is the first that fits into no word. -/
def largeNumber : Text := "  18446744073709551616: Hardcoded string: Save".toList

theorem issueLine_savedPage :
    IssueLine (Text.trim ({} : Config).issueMarker) savedPage 12 "Save src/a.tsx".toList := by
  have hline : ['\t'] ++ (['0', '1', '2'] ++ ':' :: ([] ++ (Text.trim ({} : Config).issueMarker ++
      " Save src/a.tsx".toList))) = savedPage := by decide
  rw [← hline]
  refine .intro (by decide) (List.forall_mem_singleton.2 rfl) (by decide)
    (List.all_iff_forall_prop.1 (by decide)) (by decide) nofun (by decide) ?_
  exact unquoted_iff.2 (by decide)

theorem issue_lines_by_grammar_savedPage :
    ((Format.ofConfig {}).header? savedPage = some "src/a.tsx".toList ∧
      (Format.ofConfig {}).classify savedPage = .issue 12 "Save src/a.tsx".toList ∧
      ∀ n s, IssueLine (Text.trim ({} : Config).issueMarker) savedPage n s →
        n = 12 ∧ s = "Save src/a.tsx".toList) ∧
    (∀ n s, (Format.ofConfig {}).classify foreignNumber ≠ .issue n s) ∧
    ∀ n s, (Format.ofConfig {}).classify largeNumber ≠ .issue n s := by
  have hindent : ∀ ch ∈ [' ', ' '], Text.isBlank ch = true :=
    List.all_iff_forall_prop.1 (by decide)
  refine ⟨⟨by decide, ?_, fun n s h => ?_⟩, ?_, ?_⟩
  · exact ((issue_lines_by_grammar {} savedPage).1 _ _).2 issueLine_savedPage
  · exact (issue_lines_by_grammar {} savedPage).2.1 _ _ _ _ h issueLine_savedPage
  · exact (issue_lines_by_grammar {} foreignNumber).2.2 [' ', ' '] "١٢".toList
      " Hardcoded string: Save".toList (by decide) hindent
      (List.all_iff_forall_prop.1 (by decide)) (.inl ⟨'١', by decide, by decide⟩)
  · exact (issue_lines_by_grammar {} largeNumber).2.2 [' ', ' '] "18446744073709551616".toList
      " Hardcoded string: Save".toList (by decide) hindent
      (List.all_iff_forall_prop.1 (by decide)) (.inr (by decide))

end Localize.Report

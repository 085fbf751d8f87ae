import Mathlib.Logic.Relation
import Mathlib.Data.List.Induction
import Localize.Proofs.Report

/-! Every issue belongs to the file of the nearest header above it, and the layout of the report does
not matter. What a report says is the list of its headers and issue lines; the issues are read off that
list alone. Lines that say nothing, the two line endings, blanks at the end of a line, and the `./` and
the colon that a header may be decorated with leave it as it is. -/

namespace Localize

theorem Path.dropHere_dropHere (t : Text) : dropHere (dropHere t) = dropHere t := by
  fun_induction dropHere t with
  | case1 rest ih => exact ih
  | case2 t h => rw [dropHere.eq_2 t h]

namespace Report

variable {c : Config} {projectRoot : Path} {marker line t : Text} {n : Nat} {s : Text}

/-- The path of the nearest header above the line of that index. -/
def Format.headerAbove? (f : Format) (lines : List Text) (i : Nat) : Option Text :=
  (lines.take i).reverse.findSome? fun l => (f.classify l).path?

/-- The issue of the line of that index, if it is an issue line below a header. -/
def Format.issueAt? (f : Format) (projectRoot : Path) (lines : List Text) (i : Nat) : Option Issue :=
  match (lines[i]?).map f.classify with
  | some (.issue n s) =>
    (f.headerAbove? lines i).map fun path => ⟨resolve projectRoot path, n, s⟩
  | _ => none

theorem Format.headerAbove?_append_of_le (f : Format) {lines : List Text} {i : Nat}
    (h : i ≤ lines.length) (more : List Text) :
    f.headerAbove? (lines ++ more) i = f.headerAbove? lines i := by
  rw [headerAbove?, headerAbove?, List.take_append_of_le_length h]

theorem Format.headerAbove?_concat (f : Format) (lines : List Text) (l : Text) :
    f.headerAbove? (lines ++ [l]) (lines ++ [l]).length =
      (f.classify l).path?.or (f.headerAbove? lines lines.length) := by
  rw [headerAbove?, headerAbove?, List.take_length, List.take_length, List.reverse_concat,
    List.findSome?_cons]
  cases (f.classify l).path? <;> rfl

theorem Format.issueAt?_append_of_lt (f : Format) (projectRoot : Path) {lines : List Text} {i : Nat}
    (h : i < lines.length) (more : List Text) :
    f.issueAt? projectRoot (lines ++ more) i = f.issueAt? projectRoot lines i := by
  rw [issueAt?, issueAt?, f.headerAbove?_append_of_le (Nat.le_of_lt h),
    List.getElem?_append_left h]

theorem Format.filterMap_issueAt?_concat (f : Format) (projectRoot : Path) (lines : List Text)
    (l : Text) :
    (List.range (lines ++ [l]).length).filterMap (f.issueAt? projectRoot (lines ++ [l])) =
      (List.range lines.length).filterMap (f.issueAt? projectRoot lines) ++
        (f.issueAt? projectRoot (lines ++ [l]) lines.length).toList := by
  have hbefore : (List.range lines.length).filterMap (f.issueAt? projectRoot (lines ++ [l])) =
      (List.range lines.length).filterMap (f.issueAt? projectRoot lines) :=
    List.filterMap_congr fun i hi =>
      f.issueAt?_append_of_lt projectRoot (List.mem_range.1 hi) [l]
  rw [List.length_append, List.length_singleton, List.range_succ, List.filterMap_append, hbefore]
  cases h : f.issueAt? projectRoot (lines ++ [l]) lines.length <;> simp [h]

theorem run_eq (f : Format) (projectRoot : Path) (lines : List Text) :
    Reading.run f projectRoot {} lines =
      ⟨(f.headerAbove? lines lines.length).map (resolve projectRoot),
        (List.range lines.length).filterMap (f.issueAt? projectRoot lines)⟩ := by
  induction lines using List.reverseRecOn with
  | nil => rfl
  | append_singleton lines l ih =>
    have hrun : Reading.run f projectRoot {} (lines ++ [l]) =
        (Reading.run f projectRoot {} lines).step projectRoot (f.classify l) := by
      rw [Reading.run, List.foldl_append]
      rfl
    rw [hrun, ih, f.headerAbove?_concat, f.filterMap_issueAt?_concat, Format.issueAt?,
      List.getElem?_concat_length, Option.map_some, f.headerAbove?_append_of_le (Nat.le_refl _)]
    cases f.classify l with
    | header path => simp [Reading.step, Line.path?]
    | other => simp [Reading.step, Line.path?]
    | issue n s => cases f.headerAbove? lines lines.length <;> simp [Reading.step, Line.path?]

/-- A line with any `./` taken off the path of a header. -/
def Line.bare : Line → Line
  | .header path => .header (Path.dropHere path)
  | l => l

/-- What the lines of a report say, without those that say nothing. -/
def Format.said (f : Format) (report : Text) : List Line :=
  ((Text.fields '\n' report).map fun l => (f.classify l).bare).filter (· ≠ .other)

def StartsLine (before : Text) : Prop := ∀ ch ∈ before.getLast?, ch = '\n'

/-- The text is empty or begins with the end of a line. -/
def EndsLine (after : Text) : Prop :=
  after = [] ∨ ∃ rest, after = '\n' :: rest ∨ after = '\r' :: '\n' :: rest

/-- The report with a carriage return before every line feed. -/
def withReturns (report : Text) : Text :=
  report.flatMap fun ch => if ch = '\n' then ['\r', '\n'] else [ch]

/-- Changes to a report that only touch its layout. -/
inductive LayoutEdit (f : Format) : Text → Text → Prop
  | line {before after l : Text} (start : StartsLine before) (single : '\n' ∉ l)
      (other : f.classify l = .other) :
      LayoutEdit f (before ++ after) (before ++ (l ++ '\n' :: after))
  | lastLine {report l : Text} (single : '\n' ∉ l) (other : f.classify l = .other) :
      LayoutEdit f report (report ++ '\n' :: l)
  | blanks {before after w : Text} (finish : EndsLine after)
      (blanks : ∀ ch ∈ w, Text.isBlank ch = true) (single : '\n' ∉ w) :
      LayoutEdit f (before ++ after) (before ++ (w ++ after))
  | crlf {report : Text} :
      LayoutEdit f report (withReturns report)
  | here {before path after : Text} (start : StartsLine before) (finish : EndsLine after)
      (plain : f.Plain) (exact : f.classify path = .header path) (bare : ¬ ['.', '/'] <+: path) :
      LayoutEdit f (before ++ (path ++ after)) (before ++ ('.' :: '/' :: (path ++ after)))
  | colon {before path after : Text} (start : StartsLine before) (finish : EndsLine after)
      (plain : f.Plain) (exact : f.classify path = .header path) :
      LayoutEdit f (before ++ (path ++ after)) (before ++ (path ++ ':' :: after))

theorem IssueLine.exists_front (h : IssueLine marker line n s)
    (hmarker : ∀ ch ∈ marker.getLast?, Text.isBlank ch = false) :
    ∃ front rest, line = front ++ rest ∧ (∀ ch ∈ front.getLast?, Text.isBlank ch = false) ∧
      ∀ rest', Text.trim rest' = Text.trim rest → IssueLine marker (front ++ rest') n s := by
  obtain @⟨indent, digits, gap, rest, _, hindent, hblank, hne, hdigits, hfits, hgap, hlines,
    hstring⟩ := h
  rcases List.eq_nil_or_concat marker with rfl | ⟨marker, d, rfl⟩
  · -- Without a marker the blanks behind the colon belong to the rest.
    refine ⟨indent ++ digits ++ [':'], gap ++ rest, by simp, ?_, fun rest' htrim => ?_⟩
    · rw [List.getLast?_concat]
      rintro ch ⟨⟩
      rfl
    · rw [Text.trim_blanks_append hgap] at htrim
      rw [← htrim] at hlines hstring
      have hline : IssueLine [] (indent ++ (digits ++ ':' :: ([] ++ ([] ++ rest')))) _ _ :=
        .intro hindent hblank hne hdigits hfits nofun hlines hstring
      simpa using hline
  · rw [List.concat_eq_append] at hmarker ⊢
    refine ⟨indent ++ (digits ++ ':' :: (gap ++ marker)) ++ [d], rest, by simp, ?_,
      fun rest' htrim => ?_⟩
    · rw [List.getLast?_concat] at hmarker ⊢
      exact hmarker
    · rw [← htrim] at hlines hstring
      have hline : IssueLine (marker ++ [d])
          (indent ++ (digits ++ ':' :: (gap ++ (marker ++ [d] ++ rest')))) _ _ :=
        .intro hindent hblank hne hdigits hfits hgap hlines hstring
      simpa using hline

theorem issueLine_append_blanks_iff {w : Text}
    (hmarker : ∀ ch ∈ marker.getLast?, Text.isBlank ch = false)
    (hw : ∀ ch ∈ w, Text.isBlank ch = true) :
    IssueLine marker (line ++ w) n s ↔ IssueLine marker line n s := by
  constructor
  · intro h
    obtain ⟨front, rest, hsplit, hlast, hrest⟩ := h.exists_front hmarker
    rcases List.append_eq_append_iff.1 hsplit with ⟨back, rfl, rfl⟩ | ⟨back, rfl, rfl⟩
    · obtain ⟨hback, hblank⟩ := List.forall_mem_append.1 hw
      -- What is appended begins behind the marker, which ends in no blank.
      rcases List.eq_nil_or_concat back with rfl | ⟨back, ch, rfl⟩
      · have htrim := hrest [] (Text.trim_append_blanks hblank []).symm
        rwa [List.append_nil, List.append_nil] at htrim
      · rw [List.concat_eq_append, ← List.append_assoc] at hlast
        have hch := hlast ch List.getLast?_concat
        rw [hback ch (by simp)] at hch
        cases hch
    · exact hrest back (Text.trim_append_blanks hw back).symm
  · intro h
    obtain ⟨front, rest, rfl, -, hrest⟩ := h.exists_front hmarker
    rw [List.append_assoc]
    exact hrest _ (Text.trim_append_blanks hw rest)

theorem classify_append_blanks (c : Config) {l w : Text} (hw : ∀ ch ∈ w, Text.isBlank ch = true) :
    (Format.ofConfig c).classify (l ++ w) = (Format.ofConfig c).classify l := by
  have hissue : issue? (Format.ofConfig c).marker (l ++ w) =
      issue? (Format.ofConfig c).marker l := by
    refine Option.ext fun ⟨n, s⟩ => ?_
    have hhead : ∀ ch ∈ (Format.ofConfig c).marker.head?, Text.isBlank ch = false :=
      fun _ => Text.isBlank_of_head?_trim
    have hlast : ∀ ch ∈ (Format.ofConfig c).marker.getLast?, Text.isBlank ch = false :=
      fun _ => Text.isBlank_of_getLast?_trim
    rw [issue?_eq_some_iff hhead, issue?_eq_some_iff hhead, issueLine_append_blanks_iff hlast hw]
  have hheader : (Format.ofConfig c).header? (l ++ w) = (Format.ofConfig c).header? l := by
    rw [Format.header?, Format.header?, Text.trim_append_blanks hw]
  rw [Format.classify, Format.classify, hissue, hheader]

theorem classify_nil (f : Format) : f.classify [] = .other := by
  refine Format.classify_eq_other_iff.2 ⟨issue?_of_head? nofun, ?_⟩
  refine Option.eq_none_iff_forall_ne_some.2 fun path hpath => ?_
  obtain ⟨hheader, ⟨rest, hnil, -⟩ | ⟨before, ch, rest, hnil, -⟩⟩ :=
    Format.headerLine_iff.1 (Format.headerLine_of_header? hpath)
  · exact hheader.ne_nil (List.append_eq_nil_iff.1 hnil.symm).1
  · cases (List.append_eq_nil_iff.1 hnil.symm).2

theorem classify_dropReturn (c : Config) (l : Text) :
    (Format.ofConfig c).classify (Text.dropReturn l) = (Format.ofConfig c).classify l := by
  unfold Text.dropReturn
  split
  · rename_i hlast
    obtain ⟨front, rfl⟩ := List.getLast?_eq_some_iff.1 hlast
    rw [List.dropLast_concat]
    exact (classify_append_blanks c (List.forall_mem_singleton.2 rfl)).symm
  · rfl

theorem Format.HeaderPath.lf_not_mem {f : Format} {path : Text} (h : f.HeaderPath path)
    (hf : f.Plain) : '\n' ∉ path := fun hlf => Bool.noConfusion (h.isBlank hf _ hlf)

theorem Format.HeaderPath.here {f : Format} {path : Text} (h : f.HeaderPath path)
    (hbare : ¬ ['.', '/'] <+: path) : f.HeaderPath ('.' :: '/' :: path) := by
  obtain ⟨rfl | rfl, hname, hmem⟩ := h
  · exact .intro (.inr rfl) hname hmem
  · exact absurd (List.prefix_append _ _) hbare

theorem said_append_lf (f : Format) (t t' : Text) :
    f.said (t ++ '\n' :: t') = f.said t ++ f.said t' := by
  rw [Format.said, Text.fields_append, List.map_append, List.filter_append]
  rfl

theorem said_of_not_mem (f : Format) {l : Text} (h : '\n' ∉ l) :
    f.said l = [(f.classify l).bare].filter (· ≠ .other) := by
  rw [Format.said, Text.fields_of_not_mem h]
  rfl

theorem said_of_other {f : Format} {l : Text} (h : '\n' ∉ l) (hother : f.classify l = .other) :
    f.said l = [] := by
  rw [said_of_not_mem f h, hother]
  rfl

theorem said_of_header {f : Format} {l path : Text} (h : '\n' ∉ l)
    (hheader : f.classify l = .header path) : f.said l = [.header (Path.dropHere path)] := by
  rw [said_of_not_mem f h, hheader]
  rfl

theorem said_nil (f : Format) : f.said [] = [] := said_of_other List.not_mem_nil (classify_nil f)

theorem said_append_blanks (c : Config) {w : Text} (hw : ∀ ch ∈ w, Text.isBlank ch = true)
    (hlf : '\n' ∉ w) (t : Text) :
    (Format.ofConfig c).said (t ++ w) = (Format.ofConfig c).said t := by
  induction t using Text.lineInduction with
  | last l hl =>
    have hjoin : '\n' ∉ l ++ w := by simp [hl, hlf]
    rw [said_of_not_mem _ hjoin, said_of_not_mem _ hl, classify_append_blanks c hw]
  | line l t hl ih =>
    rw [List.append_assoc, List.cons_append, said_append_lf, said_append_lf, ih]

theorem said_append_of_start {f : Format} {before : Text} (h : StartsLine before) (t : Text) :
    f.said (before ++ t) = f.said before ++ f.said t := by
  rcases List.eq_nil_or_concat before with rfl | ⟨front, ch, rfl⟩
  · rw [said_nil]
    rfl
  · rw [List.concat_eq_append] at h ⊢
    obtain rfl := h ch List.getLast?_concat
    rw [List.append_assoc, List.singleton_append, said_append_lf, said_append_lf, said_nil,
      List.append_nil]

theorem said_append_of_finish (c : Config) {after : Text} (h : EndsLine after) (t : Text) :
    (Format.ofConfig c).said (t ++ after) =
      (Format.ofConfig c).said t ++ (Format.ofConfig c).said after := by
  have hlf (t rest : Text) : (Format.ofConfig c).said (t ++ '\n' :: rest) =
      (Format.ofConfig c).said t ++ (Format.ofConfig c).said ('\n' :: rest) := by
    have hempty := said_append_lf (Format.ofConfig c) [] rest
    rw [said_nil, List.nil_append, List.nil_append] at hempty
    rw [said_append_lf, hempty]
  have hcr : ∀ ch ∈ ['\r'], Text.isBlank ch = true := List.forall_mem_singleton.2 rfl
  rcases h with rfl | ⟨rest, rfl | rfl⟩
  · rw [said_nil, List.append_nil, List.append_nil]
  · exact hlf t rest
  · rw [← List.singleton_append, hlf, ← List.append_assoc, hlf,
      said_append_blanks c hcr (by decide)]
    have hreturn := said_append_blanks c hcr (by decide) []
    rw [said_nil, List.nil_append] at hreturn
    rw [hreturn, List.nil_append]

theorem said_withReturns (c : Config) (report : Text) :
    (Format.ofConfig c).said (withReturns report) = (Format.ofConfig c).said report := by
  have hplain {l : Text} (hl : '\n' ∉ l) : withReturns l = l := by
    have hkept : withReturns l = l.flatMap fun ch => [ch] :=
      List.flatMap_congr fun ch hch => if_neg fun (h : ch = '\n') => hl (h ▸ hch)
    rw [hkept, List.flatMap_singleton']
  induction report using Text.lineInduction with
  | last l hl => rw [hplain hl]
  | line l t hl ih =>
    have hline : withReturns (l ++ '\n' :: t) = l ++ ['\r'] ++ '\n' :: withReturns t := by
      rw [withReturns, List.flatMap_append, ← withReturns, hplain hl, List.append_assoc]
      rfl
    rw [hline, said_append_lf, said_append_lf, ih,
      said_append_blanks c (List.forall_mem_singleton.2 rfl) (by decide)]

/-- A change of the layout leaves what the report says. -/
theorem said_of_layoutEdit {report report' : Text}
    (h : LayoutEdit (Format.ofConfig c) report report') :
    (Format.ofConfig c).said report' = (Format.ofConfig c).said report := by
  cases h with
  | line start single other =>
    rw [said_append_of_start start, said_append_lf, said_of_other single other,
      said_append_of_start start, List.nil_append]
  | lastLine single other =>
    rw [said_append_lf, said_of_other single other, List.append_nil]
  | blanks finish blanks single =>
    rw [← List.append_assoc, said_append_of_finish c finish, said_append_blanks c blanks single,
      said_append_of_finish c finish]
  | crlf => exact said_withReturns c report
  | @here before path after start finish plain exact bare =>
    have hpath := (Format.headerLine_of_classify exact).headerPath
    have hhere := hpath.here bare
    have hjoin : '.' :: '/' :: (path ++ after) = '.' :: '/' :: path ++ after := rfl
    rw [hjoin, said_append_of_start start, said_append_of_finish c finish,
      said_of_header (hhere.lf_not_mem plain) (hhere.classify plain), said_append_of_start start,
      said_append_of_finish c finish, said_of_header (hpath.lf_not_mem plain) exact]
    rfl
  | @colon before path after start finish plain exact =>
    have hpath := (Format.headerLine_of_classify exact).headerPath
    have hjoin : path ++ ':' :: after = path ++ [':'] ++ after := by simp
    have hlf : '\n' ∉ path ++ [':'] := by simp [hpath.lf_not_mem plain]
    rw [hjoin, said_append_of_start start, said_append_of_finish c finish,
      said_of_header hlf (hpath.classify_append plain (.inr rfl)), said_append_of_start start,
      said_append_of_finish c finish, said_of_header (hpath.lf_not_mem plain) exact]

/-- The issues of a report are read off what it says. -/
theorem run_lines (c : Config) (projectRoot : Path) (r : Reading) (report : Text) :
    r.run (Format.ofConfig c) projectRoot (Text.lines report) =
      ((Format.ofConfig c).said report).foldl (Reading.step projectRoot) r := by
  have hline (r : Reading) {l : Text} (hl : '\n' ∉ l) :
      ((Format.ofConfig c).said l).foldl (Reading.step projectRoot) r =
        r.step projectRoot ((Format.ofConfig c).classify l) := by
    rw [said_of_not_mem _ hl]
    cases (Format.ofConfig c).classify l with
    | header path => simp [Line.bare, Reading.step, resolve, Path.dropHere_dropHere]
    | issue n s => rfl
    | other => rfl
  induction report using Text.lineInduction generalizing r with
  | last l hl =>
    rw [hline r hl]
    by_cases hne : l = []
    · rw [hne, classify_nil]
      rfl
    · rw [Text.lines_of_not_mem hl hne]
      rfl
  | line l t hl ih =>
    rw [Text.lines_append_cons hl, said_append_lf, List.foldl_append, hline r hl, ← ih,
      ← classify_dropReturn]
    rfl

theorem parse_of_said_eq {report report' : Text}
    (h : (Format.ofConfig c).said report' = (Format.ofConfig c).said report) :
    parse (Format.ofConfig c) projectRoot report' = parse (Format.ofConfig c) projectRoot report := by
  rw [parse, parse, run_lines, run_lines, h]

/-- The report has one issue for each issue line below a header, in its order and with the file of the
nearest header above, and it has the same issues after any number of changes to its layout, made or
taken back. -/
theorem issues_attributed (c : Config) (projectRoot : Path) (report : Text) :
    parse (Format.ofConfig c) projectRoot report =
      (List.range (Text.lines report).length).filterMap
        ((Format.ofConfig c).issueAt? projectRoot (Text.lines report)) ∧
    ∀ report', Relation.EqvGen (LayoutEdit (Format.ofConfig c)) report report' →
      parse (Format.ofConfig c) projectRoot report' =
        parse (Format.ofConfig c) projectRoot report := by
  refine ⟨by rw [parse, run_eq], fun report' h => parse_of_said_eq ?_⟩
  induction h with
  | rel report report' h => exact said_of_layoutEdit h
  | refl report => rfl
  | symm report report' _ ih => exact ih.symm
  | trans report report' report'' _ _ ih ih' => exact ih'.trans ih

def tidyReport : Text := "src/a.tsx\n  1: Hardcoded string: \"A\"".toList

/-- The same below a line that says nothing, with `./`, blanks and other line ends. -/
def untidyReport : Text := "lint\r\n./src/a.tsx\r\n  1: Hardcoded string: \"A\" \t".toList

theorem layoutEdits_untidyReport :
    Relation.EqvGen (LayoutEdit (Format.ofConfig {})) tidyReport untidyReport := by
  have hline : LayoutEdit (Format.ofConfig {}) ([] ++ tidyReport)
      ([] ++ ("lint".toList ++ '\n' :: tidyReport)) := .line nofun (by decide) (by decide)
  have hhere : LayoutEdit (Format.ofConfig {})
      ("lint\n".toList ++ ("src/a.tsx".toList ++ "\n  1: Hardcoded string: \"A\"".toList))
      ("lint\n".toList ++
        ('.' :: '/' :: ("src/a.tsx".toList ++ "\n  1: Hardcoded string: \"A\"".toList))) :=
    .here (by rintro ch ⟨⟩; rfl) (.inr ⟨_, .inl rfl⟩) Format.plain_default (by decide) (by decide)
  have hblanks : LayoutEdit (Format.ofConfig {})
      ("lint\n./src/a.tsx\n  1: Hardcoded string: \"A\"".toList ++ [])
      ("lint\n./src/a.tsx\n  1: Hardcoded string: \"A\"".toList ++ (" \t".toList ++ [])) :=
    .blanks (.inl rfl) (List.all_iff_forall_prop.1 (by decide)) (by decide)
  have hcrlf : LayoutEdit (Format.ofConfig {})
      "lint\n./src/a.tsx\n  1: Hardcoded string: \"A\" \t".toList untidyReport := .crlf
  exact .trans _ _ _ (.rel _ _ hline) (.trans _ _ _ (.rel _ _ hhere)
    (.trans _ _ _ (.rel _ _ hblanks) (.rel _ _ hcrlf)))

theorem issues_attributed_untidyReport :
    Relation.EqvGen (LayoutEdit (Format.ofConfig {})) tidyReport untidyReport ∧
      parse (Format.ofConfig {}) (Path.ofString "/app") untidyReport =
        [⟨Path.ofString "/app/src/a.tsx", 1, "A".toList⟩] := by
  obtain ⟨hissues, hlayout⟩ := issues_attributed {} (Path.ofString "/app") tidyReport
  refine ⟨layoutEdits_untidyReport, ?_⟩
  rw [hlayout untidyReport layoutEdits_untidyReport, hissues]
  decide +kernel

end Report
end Localize

import Localize.Proofs.HeaderLine

/-! A report that is printed is read back as what was printed: the same issues in the same order,
whatever the strings look like. -/

namespace Localize.Report

/-- A file as a report names it, with the numbers of its lines and the strings found there. -/
structure Block where
  header : Text
  findings : List (Nat × Text)

/-- Two blanks, the number, a colon, the marker and the string between double quotes. -/
def findingLine (marker : Text) : Nat × Text → Text
  | (line, string) =>
    ' ' :: ' ' :: (Text.ofNat line ++ ':' :: ' ' :: (marker ++ ' ' :: '"' :: (string ++ ['"'])))

def Block.lines (marker : Text) (b : Block) : List Text :=
  b.header :: b.findings.map (findingLine marker)

/-- Every line is ended by a line feed. -/
def print (marker : Text) (blocks : List Block) : Text :=
  (blocks.flatMap (·.lines marker)).flatMap (· ++ ['\n'])

/-- What the block says, its file lying below the project root. -/
def Block.issues (projectRoot : Path) (b : Block) : List Issue :=
  b.findings.map fun (line, string) => ⟨projectRoot.join ⟨Path.dropHere b.header⟩, line, string⟩

/-- A configuration whose headers end where their line ends, and whose marker spans no lines. -/
structure Legible (c : Config) : Prop where
  sourceRoot : ∀ ch ∈ c.sourceRoot, Text.isBlank ch = false
  extensions : ∀ ext ∈ c.extensions, ∀ ch ∈ ext, Text.isBlank ch = false ∧ ch ≠ ':'
  marker : '\n' ∉ c.issueMarker

/-- A name without blanks below the source root, with one of the extensions, spelled with the dots
that it may be configured with in front or without them. -/
def IsHeader (c : Config) (t : Text) : Prop :=
  ∃ name : Text, (∀ ch ∈ name, Text.isBlank ch = false) ∧ ∃ ext ∈ c.extensions,
    t = (Format.ofConfig c).sourceRoot ++ '/' :: (name ++ '.' :: ext) ∨
    t = (Format.ofConfig c).sourceRoot ++ '/' :: (name ++ '.' :: ext.dropWhile (· == '.'))

/-- The header is one, the numbers fit into a word and no string spans lines. -/
structure Block.Printable (c : Config) (b : Block) : Prop where
  header : IsHeader c b.header
  findings : ∀ finding ∈ b.findings, finding.1 < Text.wordLimit ∧ '\n' ∉ finding.2

variable {c : Config} {b : Block} {t : Text} {finding : Nat × Text}

theorem exists_dots (ext : Text) : ∃ dots : Text, (∀ ch ∈ dots, ch = '.') ∧
    '.' :: ext = dots ++ '.' :: ext.dropWhile (· == '.') := by
  induction ext with
  | nil => exact ⟨[], nofun, rfl⟩
  | cons ch ext ih =>
    by_cases hch : ch = '.'
    · subst hch
      obtain ⟨dots, hdots, hext⟩ := ih
      exact ⟨'.' :: dots, List.forall_mem_cons.2 ⟨rfl, hdots⟩, congrArg ('.' :: ·) hext⟩
    · exact ⟨[], nofun, by rw [List.dropWhile_cons_of_neg (by simpa using hch), List.nil_append]⟩

theorem IsHeader.exists_eq (h : IsHeader c t) :
    ∃ name : Text, (∀ ch ∈ name, Text.isBlank ch = false) ∧ ∃ ext ∈ c.extensions,
      t = (Format.ofConfig c).sourceRoot ++ '/' :: (name ++ '.' :: ext.dropWhile (· == '.')) := by
  obtain ⟨name, hname, ext, hext, rfl | rfl⟩ := h
  · obtain ⟨dots, hdots, hsplit⟩ := exists_dots ext
    refine ⟨name ++ dots, ?_, ext, hext, by rw [hsplit, List.append_assoc]⟩
    intro ch hch
    rcases List.mem_append.1 hch with hch | hch
    · exact hname ch hch
    · rw [hdots ch hch]
      rfl
  · exact ⟨name, hname, ext, hext, rfl⟩

theorem Legible.plain (hc : Legible c) : (Format.ofConfig c).Plain := by
  have hextensions : ∀ ext ∈ (Format.ofConfig c).extensions,
      ∀ ch ∈ ext, Text.isBlank ch = false ∧ ch ≠ ':' := by
    rw [Format.ofConfig]
    split
    · simp
    · intro ext hext
      obtain ⟨ext, hmem, rfl⟩ := List.mem_map.1 hext
      exact fun ch hch => hc.extensions ext hmem ch ((List.dropWhile_sublist _).subset hch)
  refine ⟨fun ch hch => hc.sourceRoot ch (Format.mem_of_mem_sourceRoot hch),
    fun ext hext ch hch => (hextensions ext hext ch hch).1, fun ext hext hlast => ?_⟩
  exact (hextensions ext hext ':' (List.mem_of_getLast? hlast)).2 rfl

theorem IsHeader.headerPath (h : IsHeader c t) : (Format.ofConfig c).HeaderPath t := by
  obtain ⟨name, hname, ext, hext, rfl⟩ := h.exists_eq
  exact .intro (.inl rfl) hname (Format.mem_extensions hext)

theorem IsHeader.isBlank (hc : Legible c) (h : IsHeader c t) :
    ∀ ch ∈ t, Text.isBlank ch = false :=
  h.headerPath.isBlank hc.plain

theorem classify_header (hc : Legible c) (h : IsHeader c t) :
    (Format.ofConfig c).classify t = .header t :=
  h.headerPath.classify hc.plain

theorem issue?_findingLine {marker : Text} (hn : finding.1 < Text.wordLimit)
    (hs : '\n' ∉ finding.2) :
    issue? (Text.trim marker) (findingLine marker finding) = some finding := by
  obtain ⟨n, s⟩ := finding
  obtain ⟨front, back, hfront, hback, hsplit⟩ := Text.exists_trim marker
  have hhead : ∀ ch ∈ (Text.trim marker).head?, Text.isBlank ch = false :=
    fun ch => Text.isBlank_of_head?_trim
  rw [issue?_eq_some_iff hhead]
  generalize Text.trim marker = body at hsplit
  subst hsplit
  have hgap : ∀ ch ∈ back ++ [' '], Text.isBlank ch = true :=
    List.forall_mem_append.2 ⟨hback, List.forall_mem_singleton.2 rfl⟩
  have hstring : Text.trim (back ++ [' '] ++ ('"' :: (s ++ ['"']) ++ [])) = '"' :: (s ++ ['"']) := by
    refine Text.trim_append_append hgap nofun ?_ ?_
    · rintro ch ⟨⟩
      rfl
    · rw [← List.cons_append, List.getLast?_concat]
      rintro ch ⟨⟩
      rfl
  have hparts : IssueLine body ([' ', ' '] ++ (Text.ofNat n ++ ':' :: (' ' :: front ++
      (body ++ (back ++ [' '] ++ ('"' :: (s ++ ['"']) ++ []))))))
      (Text.natValue (Text.ofNat n)) s := by
    refine .intro (List.cons_ne_nil _ _) (List.all_iff_forall_prop.1 (by decide))
      (Text.ofNat_ne_nil n) (fun ch => Text.isDigit_of_mem_ofNat) ?_
      (List.forall_mem_cons.2 ⟨rfl, hfront⟩) ?_ ?_
    · rwa [Text.natValue_ofNat]
    · rw [hstring]
      simpa using hs
    · rw [hstring]
      exact .pair s (.inl rfl)
  rw [Text.natValue_ofNat] at hparts
  simpa [findingLine] using hparts

theorem classify_findingLine (hn : finding.1 < Text.wordLimit) (hs : '\n' ∉ finding.2) :
    (Format.ofConfig c).classify (findingLine c.issueMarker finding) =
      .issue finding.1 finding.2 := by
  rw [Format.classify, Format.ofConfig, issue?_findingLine hn hs]

theorem getLast?_findingLine (marker : Text) : (findingLine marker finding).getLast? = some '"' := by
  simp [findingLine, List.getLast?_cons]

theorem lf_not_mem_findingLine {marker : Text} (hmarker : '\n' ∉ marker) (hs : '\n' ∉ finding.2) :
    '\n' ∉ findingLine marker finding := by
  have hdigits : '\n' ∉ Text.ofNat finding.1 := fun h => by
    cases Text.isDigit_of_mem_ofNat h
  simp [findingLine, hdigits, hmarker, hs]

theorem Block.Printable.line (hc : Legible c) (h : b.Printable c) {l : Text}
    (hl : l ∈ b.lines c.issueMarker) : '\n' ∉ l ∧ l.getLast? ≠ some '\r' := by
  rcases List.mem_cons.1 hl with rfl | hl
  · have hblank := h.header.isBlank hc
    exact ⟨fun hlf => Bool.noConfusion (hblank _ hlf),
      fun hcr => Bool.noConfusion (hblank _ (List.mem_of_getLast? hcr))⟩
  · obtain ⟨finding, hfinding, rfl⟩ := List.mem_map.1 hl
    refine ⟨lf_not_mem_findingLine hc.marker (h.findings finding hfinding).2, ?_⟩
    rw [getLast?_findingLine]
    decide

theorem lines_print {blocks : List Block} (hc : Legible c) (h : ∀ b ∈ blocks, b.Printable c) :
    Text.lines (print c.issueMarker blocks) = blocks.flatMap (·.lines c.issueMarker) := by
  have hline : ∀ l ∈ blocks.flatMap (·.lines c.issueMarker),
      '\n' ∉ l ∧ l.getLast? ≠ some '\r' := by
    intro l hl
    obtain ⟨b, hb, hl⟩ := List.mem_flatMap.1 hl
    exact (h b hb).line hc hl
  exact Text.lines_flatMap_append (fun l hl => (hline l hl).1) fun l hl => (hline l hl).2

variable {projectRoot : Path}

theorem run_findings {file : Path} {findings : List (Nat × Text)}
    (h : ∀ finding ∈ findings, finding.1 < Text.wordLimit ∧ '\n' ∉ finding.2)
    (issues : List Issue) :
    Reading.run (Format.ofConfig c) projectRoot ⟨some file, issues⟩
        (findings.map (findingLine c.issueMarker)) =
      ⟨some file, issues ++ findings.map fun (line, string) => ⟨file, line, string⟩⟩ := by
  induction findings generalizing issues with
  | nil => rw [List.map_nil, List.map_nil, List.append_nil]; rfl
  | cons finding findings ih =>
    obtain ⟨hfinding, hrest⟩ := List.forall_mem_cons.1 h
    have hstep : Reading.step projectRoot ⟨some file, issues⟩
        ((Format.ofConfig c).classify (findingLine c.issueMarker finding)) =
          ⟨some file, issues ++ [⟨file, finding.1, finding.2⟩]⟩ := by
      rw [classify_findingLine hfinding.1 hfinding.2]
      rfl
    rw [List.map_cons, Reading.run, List.foldl_cons, hstep, ← Reading.run, ih hrest,
      List.map_cons, List.append_assoc, List.singleton_append]

/-- A block sets the file, and every finding is an issue of it. -/
theorem run_block (hc : Legible c) (h : b.Printable c) (r : Reading) :
    r.run (Format.ofConfig c) projectRoot (b.lines c.issueMarker) =
      ⟨some (resolve projectRoot b.header), r.issues ++ b.issues projectRoot⟩ := by
  have hstep : r.step projectRoot ((Format.ofConfig c).classify b.header) =
      ⟨some (resolve projectRoot b.header), r.issues⟩ := by
    rw [classify_header hc h.header]
    rfl
  rw [Block.lines, Reading.run, List.foldl_cons, hstep, ← Reading.run, run_findings h.findings]
  rfl

theorem issues_run_blocks {blocks : List Block} (hc : Legible c)
    (h : ∀ b ∈ blocks, b.Printable c) (r : Reading) :
    (r.run (Format.ofConfig c) projectRoot (blocks.flatMap (·.lines c.issueMarker))).issues =
      r.issues ++ blocks.flatMap (·.issues projectRoot) := by
  induction blocks generalizing r with
  | nil => exact (List.append_nil r.issues).symm
  | cons b blocks ih =>
    obtain ⟨hb, hrest⟩ := List.forall_mem_cons.1 h
    have hblock : r.run (Format.ofConfig c) projectRoot (b.lines c.issueMarker) = _ :=
      run_block hc hb r
    rw [Reading.run] at hblock
    rw [List.flatMap_cons, Reading.run, List.foldl_append, hblock, ← Reading.run, ih hrest,
      List.flatMap_cons, List.append_assoc]

/-- Reading undoes printing: every string comes back character for character, under the number of
its line and the file of its header. -/
theorem parse_print {blocks : List Block} (hc : Legible c) (h : ∀ b ∈ blocks, b.Printable c) :
    parse (Format.ofConfig c) projectRoot (print c.issueMarker blocks) =
      blocks.flatMap (·.issues projectRoot) := by
  rw [parse, lines_print hc h, issues_run_blocks hc h, List.nil_append]

def oddBlocks : List Block := [
  ⟨"src/pages/Home.tsx".toList, [
    (3, " Save ".toList),
    (0, "src/App.tsx".toList),
    (18446744073709551615, "\"quoted\"\r".toList)]⟩,
  ⟨"src/.ts".toList, []⟩,
  ⟨"src/a:b.tsx.js".toList, [(12, "  4: Hardcoded string: \"x\"".toList), (7, [])]⟩]

theorem parse_print_oddBlocks :
    parse (Format.ofConfig {}) (Path.ofString "/app") (print "Hardcoded string:".toList oddBlocks) =
      [⟨Path.ofString "/app/src/pages/Home.tsx", 3, " Save ".toList⟩,
        ⟨Path.ofString "/app/src/pages/Home.tsx", 0, "src/App.tsx".toList⟩,
        ⟨Path.ofString "/app/src/pages/Home.tsx", 18446744073709551615, "\"quoted\"\r".toList⟩,
        ⟨Path.ofString "/app/src/a:b.tsx.js", 12, "  4: Hardcoded string: \"x\"".toList⟩,
        ⟨Path.ofString "/app/src/a:b.tsx.js", 7, []⟩] := by
  have hplain : ∀ t : Text, t.any Text.isBlank = false → ∀ ch ∈ t, Text.isBlank ch = false :=
    fun t ht ch hch => Bool.eq_false_iff.2 (List.any_eq_false.1 ht ch hch)
  have hextensions : (({} : Config).extensions.all fun ext =>
      ext.all fun ch => !Text.isBlank ch && ch != ':') = true := by decide
  have hlegible : Legible {} := by
    refine ⟨hplain _ rfl, ?_, by decide⟩
    simpa only [List.all_eq_true, Bool.and_eq_true, Bool.not_eq_true', bne_iff_ne] using hextensions
  have hprintable : ∀ b ∈ oddBlocks, b.Printable {} := by
    intro b hb
    simp only [oddBlocks, List.mem_cons, List.not_mem_nil, or_false] at hb
    rcases hb with rfl | rfl | rfl
    · exact ⟨⟨"pages/Home".toList, hplain _ rfl, "tsx".toList, by decide, .inl rfl⟩, by decide⟩
    · exact ⟨⟨[], nofun, "ts".toList, by decide, .inl rfl⟩, by decide⟩
    · exact ⟨⟨"a:b.tsx".toList, hplain _ rfl, "js".toList, by decide, .inl rfl⟩, by decide⟩
  rw [show "Hardcoded string:".toList = ({} : Config).issueMarker from rfl,
    parse_print hlegible hprintable]
  decide +kernel

end Localize.Report

import Localize.CommandLine.Execution
import Localize.Proofs.Accurate
import Localize.Proofs.Caret
import Localize.Proofs.Loading
import Localize.Proofs.ReplacedSpan

/-! What the exit status of a run tells. Everything that can stop a run is checked before the run
does anything, so a run that fails has started no lint command and left the tree alone. One that
begins does all its work, and tells of skipped strings only if it is asked to. But where a line that
it shows needs a field that is too wide, it does not end well. -/

namespace Localize.CommandLine

/-- The report that the options name cannot be read as text. -/
inductive ReportUnreadable (o : RunOptions) (start : Start) (tree : FileTree) : Prop
  | file {name : Text} (named : o.report = some name) (isFile : ¬ Path.Same ⟨name⟩ standardInput)
      (unread : Fails (tree.readText (start.directory.join ⟨name⟩)))
  | input {name : Text} (named : o.report = some name) (isInput : Path.Same ⟨name⟩ standardInput)
      (undecoded : Text.decode? start.input = none)

theorem fails_source_iff {o : RunOptions} {start : Start} {tree : FileTree} :
    Fails (source o start tree) ↔ ReportUnreadable o start tree := by
  unfold source
  cases named : o.report with
  | none =>
    refine ⟨fun h => absurd h (not_fails_ok _), fun h => ?_⟩
    obtain ⟨named', -, -⟩ | ⟨named', -, -⟩ := h <;> rw [named] at named' <;> cases named'
  | some name =>
    have hreads : o.readsInput = decide (Path.Same ⟨name⟩ standardInput) := by
      rw [RunOptions.readsInput, named]; rfl
    by_cases hinput : Path.Same ⟨name⟩ standardInput
    · simp only [hreads, hinput, decide_true, if_true]
      constructor
      · cases undecoded : Text.decode? start.input with
        | none => exact fun _ => .input named hinput undecoded
        | some t => exact fun h => absurd h (not_fails_ok _)
      · rintro (⟨named', isFile, -⟩ | ⟨-, -, undecoded⟩)
        · cases named.symm.trans named'
          exact absurd hinput isFile
        · simp only [undecoded, fails_error]
    · simp only [hreads, hinput, decide_false, Bool.false_eq_true, if_false, fails_mapError_iff,
        fails_map_iff]
      constructor
      · exact .file named hinput
      · rintro (⟨named', -, unread⟩ | ⟨named', isInput, -⟩) <;> cases named.symm.trans named'
        · exact unread
        · exact absurd isInput hinput

/-- Why a run cannot begin. -/
inductive Blocked (engine : Engine) (o : RunOptions) (start : Start) (tree : FileTree) : Prop
  | config (unusable : Config.Unusable tree start.directory)
  | overrides {loaded : Config.Loaded} (loads : Config.load tree start.directory = .ok loaded)
      (flawed : ¬ (o.override loaded.config).IsValid)
  | report (unreadable : ReportUnreadable o start tree)
  | messages {loaded : Config.Loaded} (loads : Config.load tree start.directory = .ok loaded)
      (unusable : Localizer.MessagesUnusable (o.override loaded.config) loaded.projectRoot tree)
  | expressions {loaded : Config.Loaded} (loads : Config.load tree start.directory = .ok loaded)
      (refused : ¬ engine.Accepts (Localizer.expressions (o.override loaded.config)))

structure Begins (engine : Engine) (o : RunOptions) (start : Start) (tree : FileTree)
    (loaded : Config.Loaded) (report : Report.Source) (dictionary : Dictionary) : Prop where
  loads : Config.load tree start.directory = .ok loaded
  valid : (o.override loaded.config).IsValid
  reports : source o start tree = .ok report
  indexes : Localizer.loadDictionary tree
    ((o.override loaded.config).messagesFile loaded.projectRoot) = .ok dictionary
  accepts : engine.Accepts (Localizer.expressions (o.override loaded.config))

def localizer (o : RunOptions) (loaded : Config.Loaded) (dictionary : Dictionary) : Localizer :=
  .ofConfig (o.override loaded.config) loaded.projectRoot dictionary

variable {engine : Engine} {o : RunOptions} {start : Start} {tree : FileTree}
  {loaded : Config.Loaded} {report : Report.Source} {dictionary : Dictionary}

theorem blocked_or_begins (engine : Engine) (o : RunOptions) (start : Start) (tree : FileTree) :
    Blocked engine o start tree ∨
      ∃ loaded report dictionary, Begins engine o start tree loaded report dictionary := by
  by_cases hconfig : Fails (Config.load tree start.directory)
  · exact .inl (.config (Config.fails_load_iff.1 hconfig))
  obtain ⟨loaded, loads⟩ := exists_ok_of_not_fails hconfig
  by_cases valid : (o.override loaded.config).IsValid
  swap
  · exact .inl (.overrides loads valid)
  by_cases hreport : Fails (source o start tree)
  · exact .inl (.report (fails_source_iff.1 hreport))
  by_cases hmessages : Fails (Localizer.loadDictionary tree
      ((o.override loaded.config).messagesFile loaded.projectRoot))
  · exact .inl (.messages loads (Localizer.fails_loadDictionary_iff.1 hmessages))
  by_cases accepts : engine.Accepts (Localizer.expressions (o.override loaded.config))
  swap
  · exact .inl (.expressions loads accepts)
  obtain ⟨report, reports⟩ := exists_ok_of_not_fails hreport
  obtain ⟨dictionary, indexes⟩ := exists_ok_of_not_fails hmessages
  exact .inr ⟨loaded, report, dictionary, loads, valid, reports, indexes, accepts⟩

theorem Begins.not_blocked (h : Begins engine o start tree loaded report dictionary) :
    ¬ Blocked engine o start tree := by
  rintro (unusable | ⟨loads, flawed⟩ | unreadable | ⟨loads, unusable⟩ | ⟨loads, refused⟩)
  · exact not_fails_ok _ (h.loads ▸ Config.fails_load_iff.2 unusable)
  · cases h.loads.symm.trans loads
    exact flawed h.valid
  · exact not_fails_ok _ (h.reports ▸ fails_source_iff.2 unreadable)
  · cases h.loads.symm.trans loads
    exact not_fails_ok _ (h.indexes ▸ Localizer.fails_loadDictionary_iff.2 unusable)
  · cases h.loads.symm.trans loads
    exact refused h.accepts

theorem prepare_eq_ok_iff {l : Config.Loaded} :
    prepare o start.directory tree = .ok l ↔
      ∃ loaded, Config.load tree start.directory = .ok loaded ∧
        (o.override loaded.config).IsValid ∧
        { loaded with config := o.override loaded.config } = l := by
  rw [prepare, bind_eq_ok_iff]
  refine exists_congr fun loaded => and_congr mapError_eq_ok_iff ?_
  dsimp only [Config.IsValid]
  cases (o.override loaded.config).flaw? with
  | none => simp [pure, Except.pure]
  | some flaw => simp [throw, throwThe, MonadExceptOf.throw]

/-- A run that begins comes to its account: what it could read it can write. -/
theorem run_of_begins (launch : Launcher)
    (h : Begins engine o start tree loaded report dictionary) :
    let p := localizer o loaded dictionary
    ∃ events, run engine launch o start tree =
      .ofAccount o loaded.projectRoot ((p.run launch report o.dryRun tree).account p o.dryRun)
        events (p.run launch report o.dryRun tree).course.tree := by
  intro p
  have hok : (p.run launch report o.dryRun tree).course.failure = none := by
    cases report with
    | text t => exact (p.tours_process o.dryRun t tree).1
    | linter => exact (p.tours_process o.dryRun _ _).1
  have hprepare := prepare_eq_ok_iff.2 ⟨loaded, h.loads, h.valid, rfl⟩
  have hcompile : Localizer.compile engine (o.override loaded.config) loaded.projectRoot
      dictionary = .ok p := Localizer.compile_eq_ok_iff.2 ⟨h.accepts, rfl⟩
  simp only [run, hprepare, h.reports, h.indexes, hcompile, hok]
  exact ⟨_, rfl⟩

/-- A run that cannot begin fails in one way, whatever the lint command would do. -/
theorem run_of_blocked (h : Blocked engine o start tree) :
    ∃ events f, ∀ launch, run engine launch o start tree = .failed events f tree := by
  cases hprepare : prepare o start.directory tree with
  | error f => exact ⟨[], f, fun launch => by simp only [run, hprepare]⟩
  | ok l =>
    cases hsource : source o start tree with
    | error f => exact ⟨[loadedEvent l], f, fun launch => by simp only [run, hprepare, hsource]⟩
    | ok report =>
      cases hindex : Localizer.loadDictionary tree (l.config.messagesFile l.projectRoot) with
      | error e =>
        exact ⟨[loadedEvent l], .messages e, fun launch => by
          simp only [run, hprepare, hsource, hindex]⟩
      | ok dictionary =>
        cases hcompile : Localizer.compile engine l.config l.projectRoot dictionary with
        | error e =>
          let indexed := Localizer.indexed (l.config.messagesFile l.projectRoot) dictionary
          exact ⟨[loadedEvent l] ++ [indexed], .expression e, fun launch => by
            simp only [run, hprepare, hsource, hindex, hcompile, indexed]⟩
        | ok p =>
          obtain ⟨loaded, loads, valid, rfl⟩ := prepare_eq_ok_iff.1 hprepare
          have accepts := (Localizer.compile_eq_ok_iff.1 hcompile).1
          exact absurd h (Begins.mk loads valid hsource hindex accepts).not_blocked

theorem Begins.of_flags (h : Begins engine o start tree loaded report dictionary)
    (json check verbose : Bool) :
    Begins engine { o with json, check, verbose } start tree loaded report dictionary :=
  ⟨h.loads, h.valid, h.reports, h.indexes, h.accepts⟩

theorem Blocked.of_flags (h : Blocked engine o start tree) (json check verbose : Bool) :
    Blocked engine { o with json, check, verbose } start tree := by
  rcases blocked_or_begins engine { o with json, check, verbose } start tree with
    hblocked | ⟨loaded, report, dictionary, hbegins⟩
  · exact hblocked
  · exact absurd h (hbegins.of_flags o.json o.check o.verbose).not_blocked

theorem tree_of_flags (launch : Launcher) (json check verbose : Bool) :
    (run engine launch { o with json, check, verbose } start tree).tree =
      (run engine launch o start tree).tree := by
  rcases blocked_or_begins engine o start tree with
    hblocked | ⟨loaded, report, dictionary, hbegins⟩
  · obtain ⟨events, f, hrun⟩ := run_of_blocked hblocked
    obtain ⟨events', f', hrun'⟩ := run_of_blocked (hblocked.of_flags json check verbose)
    rw [hrun, hrun']
    rfl
  · obtain ⟨events, hrun⟩ := run_of_begins launch hbegins
    obtain ⟨events', hrun'⟩ := run_of_begins launch (hbegins.of_flags json check verbose)
    rw [hrun, hrun']
    rfl

/-- The changes are shown, and a line of theirs needs a field that is too wide. -/
def Overflows (o : RunOptions) (r : Account) : Prop :=
  o.json = false ∧ (o.dryRun = true ∨ o.verbose = true) ∧
    ∃ c ∈ r.changes, ∃ x ∈ c.replacements, Console.widthLimit < Console.gutter c ∨
      Console.widthLimit <
        Text.width (Console.commonStart x.replacement.before x.replacement.after)

instance (o : RunOptions) (r : Account) : Decidable (Overflows o r) :=
  inferInstanceAs (Decidable (_ ∧ _))

theorem breaksOff_told_iff {r : Account} {projectRoot : Path} (h : r.dryRun = o.dryRun) :
    Console.breaksOff (told o projectRoot r) = true ↔ Overflows o r := by
  unfold told Overflows
  cases o.json with
  | true => exact iff_of_false nofun fun h => nomatch h.1
  | false =>
    rw [if_neg nofun, Console.breaksOff_accountLines_iff, h]
    exact (and_iff_right rfl).symm

theorem status_of_begins (launch : Launcher)
    (h : Begins engine o start tree loaded report dictionary) :
    let p := localizer o loaded dictionary
    let account := (p.run launch report o.dryRun tree).account p o.dryRun
    (run engine launch o start tree).status.code =
      if Overflows o account then 101
      else if o.check = true ∧ account.skipped ≠ [] then 1
      else 0 := by
  intro p account
  obtain ⟨events, hrun⟩ := run_of_begins launch h
  have haccount := (p.run launch report o.dryRun tree).course.account_eq p o.dryRun
    ((p.run launch report o.dryRun tree).lint.map (·.output.status))
  have hdry : account.dryRun = o.dryRun := by simp only [account, Run.account, haccount]
  have hcount : account.summary.stringsSkipped = account.skipped.length := by
    simp only [account, Run.account, haccount]
  have hskips : (o.check && 0 < account.summary.stringsSkipped) = true ↔
      o.check = true ∧ account.skipped ≠ [] := by
    rw [hcount, Bool.and_eq_true, decide_eq_true_eq, List.length_pos_iff]
  rw [hrun, Completion.ofAccount]
  simp only [breaksOff_told_iff hdry, account, p] at hskips ⊢
  split
  · rfl
  · simp only [hskips]
    split <;> rfl

/-- The exit code is 2 exactly if something stops the run from beginning; then the tree is left
alone and the lint command is not started, as it makes no difference what it would do. Otherwise all
the work is done. Then the code is 101 if a line that is shown overflows, else 1 if skipped strings
are to be told of and there are some, and 0 if not. What is written does not depend on what is
told. -/
theorem exit_code_tells_outcome (engine : Engine) (launch : Launcher) (o : RunOptions)
    (start : Start) (tree : FileTree) :
    ((run engine launch o start tree).status.code = 2 ↔ Blocked engine o start tree) ∧
    (Blocked engine o start tree → (run engine launch o start tree).tree = tree ∧
      ∀ launch', run engine launch' o start tree = run engine launch o start tree) ∧
    (¬ Blocked engine o start tree → ∃ loaded report dictionary,
      Begins engine o start tree loaded report dictionary ∧
      let p := localizer o loaded dictionary
      let account := (p.run launch report o.dryRun tree).account p o.dryRun
      (run engine launch o start tree).tree = (p.run launch report o.dryRun tree).course.tree ∧
      (run engine launch o start tree).status.code =
        if Overflows o account then 101
        else if o.check = true ∧ account.skipped ≠ [] then 1
        else 0) ∧
    ∀ json check verbose, (run engine launch { o with json, check, verbose } start tree).tree =
      (run engine launch o start tree).tree := by
  refine ⟨?_, ?_, ?_, tree_of_flags launch⟩
  · constructor
    · intro hcode
      rcases blocked_or_begins engine o start tree with
        hblocked | ⟨loaded, report, dictionary, hbegins⟩
      · exact hblocked
      · rw [status_of_begins launch hbegins] at hcode
        split at hcode
        · cases hcode
        · split at hcode <;> cases hcode
    · intro hblocked
      obtain ⟨events, f, hrun⟩ := run_of_blocked hblocked
      rw [hrun]
      rfl
  · intro hblocked
    obtain ⟨events, f, hrun⟩ := run_of_blocked hblocked
    exact ⟨by rw [hrun]; rfl, fun launch' => by rw [hrun, hrun]⟩
  · intro hfree
    obtain ⟨loaded, report, dictionary, hbegins⟩ :=
      (blocked_or_begins engine o start tree).resolve_left hfree
    obtain ⟨events, hrun⟩ := run_of_begins launch hbegins
    exact ⟨loaded, report, dictionary, hbegins, by rw [hrun]; rfl,
      status_of_begins launch hbegins⟩

section LongPage

open Console (farReplacement)

def longPage (n : Nat) : Text := (Console.farReplacement n).before

def longTree (n : Nat) : FileTree :=
  { entries := [(["messages".toList], .directory),
      (["messages".toList, "en.json".toList],
        .file (Text.encode "\x7b\"save\":\"Save\"\x7d".toList)),
      (["src".toList], .directory),
      (["src".toList, "a.tsx".toList], .file (Text.encode (longPage n)))] }

def longReport : Text := "src/a.tsx\n  1: Hardcoded string: \"Save\"\n".toList

def longStart : Start where
  arguments := []
  directory := ⟨"/".toList⟩
  input := Text.encode longReport

/-- The report is read from the input, and the run is dry. -/
def longOptions : RunOptions := { report := some standardInput.spelled, dryRun := true }

def longLoaded : Config.Loaded := ⟨{}, longStart.directory, false⟩

def longDictionary : Dictionary := .ofJson (.object [("save".toList, .string "Save".toList)])

def longIssue : Issue := ⟨⟨"/src/a.tsx".toList⟩, 1, "Save".toList⟩

theorem load_longTree (n : Nat) :
    Config.load (longTree n) longStart.directory = .ok longLoaded := by
  have hfile : (longTree n).find (longStart.directory.join ⟨Config.fileName⟩) =
      .ok (.absent [Config.fileName] false) :=
    (FileTree.walk_idle rfl).trans (FileTree.walk_missing (by decide) rfl)
  have hmark : (longTree n).find (longStart.directory.join ⟨Config.repositoryMark⟩) =
      .ok (.absent [Config.repositoryMark] false) :=
    (FileTree.walk_idle rfl).trans (FileTree.walk_missing (by decide) rfl)
  have hancestors : longStart.directory.ancestors = [longStart.directory] := by
    rw [Path.ancestors]
    rfl
  have hnone : Config.find? (longTree n) longStart.directory = none := by
    rw [Config.find?, hancestors, Config.search, FileTree.pathExists, hfile, Config.search,
      FileTree.pathExists, hmark]
    rfl
  rw [Config.load, hnone]
  rfl

theorem source_longTree (n : Nat) :
    source longOptions longStart (longTree n) = .ok (.text longReport) := by
  have hdecode : Text.decode? longStart.input = some longReport := Text.decode?_encode _
  have hreads : longOptions.readsInput = true := by decide
  simp only [source, longOptions, hdecode] at hreads ⊢
  rw [if_pos hreads]

theorem holds_messages (n : Nat) :
    (longTree n).Holds (({} : Config).messagesFile longStart.directory)
      ["messages".toList, "en.json".toList] "\x7b\"save\":\"Save\"\x7d".toList := by
  refine ⟨_, ?_, rfl, Text.decode?_encode _⟩
  change (longTree n).walk FileTree.linkLimit []
    [[], ['.'], "messages".toList, "en.json".toList] = _
  rw [FileTree.walk_idle rfl, FileTree.walk_idle rfl, FileTree.walk_directory (by decide) rfl]
  exact FileTree.walk_file (by decide) rfl

theorem holds_longPage (n : Nat) :
    (longTree n).Holds longIssue.file ["src".toList, "a.tsx".toList] (longPage n) :=
  ⟨_, FileTree.walk_file_of_directory (by decide) (by decide) rfl rfl, rfl, Text.decode?_encode _⟩

theorem begins_longTree (n : Nat) (h : engine.Accepts (Localizer.expressions {})) :
    Begins engine longOptions longStart (longTree n) longLoaded (.text longReport)
      longDictionary where
  loads := load_longTree n
  valid := by decide
  reports := source_longTree n
  indexes := by
    have hparse : Json.parse "\x7b\"save\":\"Save\"\x7d".toList =
        .ok (.object [("save".toList, .string "Save".toList)]) := by cbv
    exact bind_eq_ok_iff.2 ⟨_, mapError_eq_ok_iff.2 (FileTree.readText_of_holds (holds_messages n)),
      bind_eq_ok_iff.2 ⟨_, mapError_eq_ok_iff.2 hparse, rfl⟩⟩
  accepts := h

theorem substitute?_longPage (n : Nat) (call : Text) :
    Replacement.substitute? (longPage n) "Save".toList call =
      some (List.replicate n 'x' ++ Replacement.braced call) := by
  have hleftmost : Replacement.Leftmost (longPage n) "Save".toList (List.replicate n 'x') [] := by
    refine ⟨(List.append_nil _).symm, fun before after h => ?_⟩
    by_contra hlt
    have hx : (longPage n)[before.length]? = some 'x' := by
      rw [longPage, farReplacement, List.getElem?_append_left (Nat.lt_of_not_le hlt),
        List.getElem?_replicate_of_lt (by simpa using hlt)]
    rw [h, List.append_assoc, List.getElem?_append_right (Nat.le_refl _), Nat.sub_self] at hx
    cases hx
  refine Replacement.substitute?_eq_some_iff.2
    ⟨_, _, _, .bare hleftmost fun before name _ h => ?_, (List.append_nil _).symm⟩
  have hquote : '"' ∈ List.replicate n 'x' := by rw [h]; simp
  exact absurd (List.eq_of_mem_replicate hquote) (by decide)

theorem replaced_longPage (n : Nat) :
    (localizer longOptions longLoaded longDictionary).replaced (longPage n) [longIssue] =
      [⟨longIssue, "save".toList, farReplacement n⟩] := by
  have hlines : Text.lines (longPage n) = [longPage n] := by
    refine Text.lines_of_not_mem (fun h => ?_) (List.append_ne_nil_of_right_ne_nil _ (by decide))
    rcases List.mem_append.1 h with h | h
    · exact absurd (List.eq_of_mem_replicate h) (by decide)
    · exact absurd h (by decide)
  let p := localizer longOptions longLoaded longDictionary
  have hlookup : p.dictionary.lookup longIssue.string = some "save".toList := by decide +kernel
  have hcall : p.replacer.call "save".toList = "t(\"save\")".toList := by decide
  have hin : longIssue.string <:+: longPage n := (List.suffix_append _ _).isInfix
  have hreplace : p.replacer.replace? [longPage n] longIssue.line longIssue.string "save".toList =
      some (farReplacement n, [(farReplacement n).after]) := by
    rw [Replacer.replace?_of_claimed _ (by decide) (by decide) rfl hin, hcall]
    exact congrArg (Option.map _) (substitute?_longPage n _)
  have hsettle : p.settle [longPage n] longIssue =
      (.applied ⟨longIssue, "save".toList, farReplacement n⟩, [(farReplacement n).after]) := by
    rw [Localizer.settle, hlookup]
    dsimp only
    rw [hreplace]
  rw [Localizer.replaced, Localizer.settled, Localizer.bottomUp, List.mergeSort_singleton, hlines,
    Localizer.settleAll, hsettle]
  rfl

theorem overflows_longPage {n : Nat} (h : Console.widthLimit < n) (launch : Launcher) :
    let p := localizer longOptions longLoaded longDictionary
    Overflows longOptions
      ((p.run launch (.text longReport) true (longTree n)).account p true) := by
  intro p
  have hissues : p.issues longReport = [longIssue] := by decide +kernel
  have hgroups : Issue.groups (p.issues longReport) = [(longIssue.file, [longIssue])] := by
    rw [hissues]
    rfl
  have hvisit := p.visit_of_holds true [longIssue] (holds_longPage n)
  rw [if_pos rfl, Localizer.edit_ofContent, if_neg (by rw [replaced_longPage]; nofun)] at hvisit
  refine ⟨rfl, .inl rfl, ?_⟩
  rw [Run.account, Localizer.Course.account_eq]
  simp only [Localizer.run, Localizer.process, hgroups, Localizer.visitAll, hvisit]
  refine ⟨_, List.mem_singleton_self _, ⟨longIssue, "save".toList, farReplacement n⟩, ?_, .inr ?_⟩
  · change _ ∈ p.replaced (longPage n) [longIssue]
    rw [replaced_longPage]
    exact List.mem_singleton_self _
  · exact (Console.width_farReplacement n).symm ▸ h

/-- Nothing is in the way of a dry run over a page whose unchanged beginning is one column too wide,
and it does not end well. -/
theorem report_breaks_off :
    let engine : Engine := fun _ => .ok ()
    let launch : Launcher := fun _ _ tree => (.refused .notFound, tree)
    Begins engine longOptions longStart (longTree 65536) longLoaded (.text longReport)
        longDictionary ∧
      ¬ Blocked engine longOptions longStart (longTree 65536) ∧
      (run engine launch longOptions longStart (longTree 65536)).status.code = 101 := by
  intro engine launch
  have hbegins : Begins engine longOptions longStart (longTree 65536) longLoaded
      (.text longReport) longDictionary := begins_longTree 65536 fun _ _ => rfl
  refine ⟨hbegins, hbegins.not_blocked, ?_⟩
  rw [status_of_begins launch hbegins]
  exact if_pos (overflows_longPage (by decide) launch)

end LongPage

end Localize.CommandLine

import Localize.Proofs.Config
import Localize.Proofs.ReportOrder
import Localize.Proofs.Report

/-! A lint command that cannot be started. All that the run then reads is why, and that holds the
words of the command as they are. On one line it is no report with issues, and the run does nothing.
A line feed in a word breaks it, and the lines of the word may ask for an edit. -/

namespace Localize

theorem FileError.lf_not_mem_message (e : FileError) : '\n' ∉ e.message := by
  cases e with
  | other reason oneLine => exact oneLine
  | _ => decide

namespace LintOutput

variable {command : List Text}

theorem refusal_eq (command : List Text) (e : FileError) : refusal command e =
    "Failed to run ".toList ++ Text.joined [' '] command ++ ": ".toList ++ e.message := rfl

theorem lf_not_mem_refusal (h : ∀ word ∈ command, '\n' ∉ word) (e : FileError) :
    '\n' ∉ refusal command e := by
  have hcommand : '\n' ∉ Text.joined [' '] command := Text.not_mem_joined (by decide) h
  simp only [refusal_eq, List.mem_append, not_or]
  exact ⟨⟨⟨by decide, hcommand⟩, by decide⟩, e.lf_not_mem_message⟩

theorem lines_refusal (h : ∀ word ∈ command, '\n' ∉ word) (e : FileError) :
    Text.lines (refusal command e) = [refusal command e] := by
  refine Text.lines_of_not_mem (lf_not_mem_refusal h e) ?_
  rw [refusal_eq]
  exact List.cons_ne_nil _ _

end LintOutput

namespace Localizer

open LintOutput (refusal)

variable {p : Localizer} {launch : Launcher} {tree : FileTree} {e : FileError} {report : Text}

theorem process_of_issues_eq_nil (dryRun : Bool) (h : p.issues report = []) :
    p.process dryRun report tree = ⟨[], none, tree⟩ := by
  rw [process, h]
  rfl

theorem run_of_refused (dryRun : Bool) (hne : p.lintCommand ≠ [])
    (hrefused : launch p.lintCommand p.projectRoot tree = (.refused e, tree)) :
    ∃ lint, lint.output = ⟨.notStarted (refusal p.lintCommand e), refusal p.lintCommand e⟩ ∧
      p.run launch .linter dryRun tree = ⟨some lint, refusal p.lintCommand e,
        p.process dryRun (refusal p.lintCommand e) tree⟩ := by
  obtain ⟨program, arguments, hcommand⟩ := List.exists_cons_of_ne_nil hne
  rw [hcommand] at hrefused ⊢
  refine ⟨.launched program arguments (.refused e), rfl, ?_⟩
  rw [run, hcommand]
  simp only [lint, hrefused, LintRun.output, LintOutput.ofLaunch]

/-- If the lint command cannot be started, the run ends well and says so, and its report is the
reason alone. It has no issues exactly if no line of the reason is an issue line behind a header,
which is so if no word of the command holds a line feed; then nothing is done. -/
theorem unstarted_linter_edits_nothing {c : Config} (hvalid : c.IsValid) (projectRoot : Path)
    (d : Dictionary) (dryRun : Bool)
    (hrefused : launch c.lintCommand projectRoot tree = (.refused e, tree)) :
    let p := ofConfig c projectRoot d
    let r := p.run launch .linter dryRun tree
    r.course.failure = none ∧
    (r.account p dryRun).lintStatus = some (.notStarted (refusal c.lintCommand e)) ∧
    (p.issues r.reportText = [] ↔
      p.format.Silent (Text.lines (refusal c.lintCommand e))) ∧
    ((∀ word ∈ c.lintCommand, '\n' ∉ word) → p.issues r.reportText = []) ∧
    (p.issues r.reportText = [] → r.course.tree = tree ∧
      r.account p dryRun =
        { lintStatus := some (.notStarted (refusal c.lintCommand e))
          indexedStrings := d.size
          dryRun }) := by
  intro p r
  obtain ⟨lint, hlint, hrun⟩ :=
    run_of_refused (p := p) dryRun hvalid.lintCommand_ne_nil hrefused
  have hr : r = ⟨some lint, refusal c.lintCommand e,
      p.process dryRun (refusal c.lintCommand e) tree⟩ := hrun
  have hreport : r.reportText = refusal c.lintCommand e := by rw [hr]
  have hcourse : r.course = p.process dryRun (refusal c.lintCommand e) tree := by rw [hr]
  have hstatus : r.lint.map (·.output.status) =
      some (.notStarted (refusal c.lintCommand e)) := by
    rw [hr, Option.map_some, hlint]
    rfl
  have hissues : p.issues r.reportText = [] ↔
      p.format.Silent (Text.lines (refusal c.lintCommand e)) := by
    rw [hreport]
    exact Report.parse_eq_nil_iff
  refine ⟨?_, ?_, hissues, fun hwords => ?_, fun hnil => ?_⟩
  · rw [hcourse]
    exact (p.tours_process dryRun _ tree).1
  · rw [Run.account, Course.account_eq, hstatus]
  · rw [hissues, LintOutput.lines_refusal hwords]
    exact List.pairwise_singleton _ _
  · rw [hreport] at hnil
    rw [Run.account, hstatus, hcourse, process_of_issues_eq_nil dryRun hnil]
    exact ⟨rfl, rfl⟩

/-- Finds no program. -/
def findsNothing : Launcher := fun _ _ tree => (.refused .notFound, tree)

/-- By default the linter is started by one line of words. -/
theorem unstarted_npm_edits_nothing :
    ({} : Config).IsValid ∧ (∀ word ∈ ({} : Config).lintCommand, '\n' ∉ word) ∧
    ((ofConfig {} ⟨"/".toList⟩ saveLocalizer.dictionary).run findsNothing .linter false
      twoPages).course.tree = twoPages := by
  have hvalid : ({} : Config).IsValid := by decide
  have hwords : ∀ word ∈ ({} : Config).lintCommand, '\n' ∉ word := by decide
  have hrefused : findsNothing ({} : Config).lintCommand ⟨"/".toList⟩ twoPages =
      (.refused .notFound, twoPages) := rfl
  obtain ⟨-, -, -, hsilent, hnothing⟩ :=
    unstarted_linter_edits_nothing hvalid _ saveLocalizer.dictionary false hrefused
  exact ⟨hvalid, hwords, (hnothing (hsilent hwords)).1⟩

/-- A rule given to a linter on lines of its own. -/
def ruleConfig : Config where
  lintCommand := ["no-such-linter".toList,
    "--rule=x\nsrc/a.tsx\n  1: Hardcoded string: \"Save\"\n".toList]

/-- The lines of an argument are read as a report, and the page they name is rewritten. -/
theorem refusal_read_as_report :
    let p := ofConfig ruleConfig ⟨"/".toList⟩ saveLocalizer.dictionary
    let r := p.run findsNothing .linter false twoPages
    ruleConfig.IsValid ∧
    (r.account p false).lintStatus =
      some (.notStarted (refusal ruleConfig.lintCommand .notFound)) ∧
    p.issues r.reportText = [pageIssue "/src/a.tsx" 1 "Save"] ∧
    (r.account p false).summary = ⟨1, 1, 0⟩ := by
  intro p r
  have hissues : p.issues (refusal ruleConfig.lintCommand .notFound) =
      [pageIssue "/src/a.tsx" 1 "Save"] := by decide +kernel
  have hgroups : Issue.groups (p.issues (refusal ruleConfig.lintCommand .notFound)) =
      [(⟨"/src/a.tsx".toList⟩, [pageIssue "/src/a.tsx" 1 "Save"])] := by
    rw [hissues]
    rfl
  have hholds : twoPages.Holds ⟨"/src/a.tsx".toList⟩ ["src".toList, "a.tsx".toList]
      "<p>Save</p>".toList :=
    ⟨_, FileTree.walk_file_of_directory (by decide) (by decide) rfl rfl, rfl, Text.decode?_encode _⟩
  have hedits : (p.replaced "<p>Save</p>".toList [pageIssue "/src/a.tsx" 1 "Save"]).map
      Applied.edit =
        [("save".toList, ⟨0, "<p>Save</p>".toList, "<p>\x7bt(\"save\")\x7d</p>".toList⟩)] := by
    rw [replaced, settled, bottomUp, List.mergeSort_of_pairwise (by decide)]
    decide +kernel
  refine ⟨by decide, ?_, hissues, ?_⟩
  · rw [Run.account, Course.account_eq]
    rfl
  · exact summary_of_one_group _ hgroups hholds hedits

end Localizer
end Localize

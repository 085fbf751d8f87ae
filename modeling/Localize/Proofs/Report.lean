import Localize.Proofs.HeaderLine

/-! The issues of a report and its headers. Every issue is of a file that a header names, and a report
has no issues exactly if no issue line comes behind a header. -/

namespace Localize

namespace Report

theorem forall_file_run {P : Path → Prop} {f : Format} {projectRoot : Path} {lines : List Text}
    (hheader : ∀ l ∈ lines, ∀ path, f.classify l = .header path → P (resolve projectRoot path))
    {r : Reading} (hfile : ∀ file ∈ r.file, P file) (hissues : ∀ i ∈ r.issues, P i.file) :
    ∀ i ∈ (r.run f projectRoot lines).issues, P i.file := by
  induction lines generalizing r with
  | nil => exact hissues
  | cons l lines ih =>
    obtain ⟨hl, hlines⟩ := List.forall_mem_cons.1 hheader
    have hstep : (r.step projectRoot (f.classify l)).run f projectRoot lines =
        r.run f projectRoot (l :: lines) := rfl
    rw [← hstep]
    cases hline : f.classify l with
    | header path =>
      refine ih hlines (fun file hmem => ?_) hissues
      cases hmem
      exact hl path hline
    | other => exact ih hlines hfile hissues
    | issue n string =>
      refine ih hlines hfile fun i hi => ?_
      rcases List.mem_append.1 hi with hi | hi
      · exact hissues i hi
      · obtain ⟨file, hmem, rfl⟩ := Option.map_eq_some_iff.1 (Option.mem_toList.1 hi)
        exact hfile file hmem

def Line.path? : Line → Option Text
  | .header path => some path
  | _ => none

def Format.headers (f : Format) (report : Text) : List Text :=
  (Text.lines report).filterMap fun l => (f.classify l).path?

theorem Format.mem_headers {f : Format} {report path : Text} :
    path ∈ f.headers report ↔ ∃ l ∈ Text.lines report, f.classify l = .header path := by
  rw [headers, List.mem_filterMap]
  refine exists_congr fun l => and_congr_right fun _ => ?_
  cases f.classify l <;> simp [Line.path?]

theorem forall_file_parse {P : Path → Prop} {f : Format} {projectRoot : Path} {report : Text}
    (hheader : ∀ path ∈ f.headers report, P (resolve projectRoot path)) :
    ∀ i ∈ parse f projectRoot report, P i.file :=
  forall_file_run (fun l hl path hpath => hheader path (Format.mem_headers.2 ⟨l, hl, hpath⟩))
    nofun nofun

/-- No issue line comes behind a header. -/
def Format.Silent (f : Format) (lines : List Text) : Prop :=
  lines.Pairwise fun l l' => (∃ path, f.classify l = .header path) → issue? f.marker l' = none

theorem Format.silent_cons {f : Format} {l : Text} {lines : List Text} :
    f.Silent (l :: lines) ↔
      ((∃ path, f.classify l = .header path) → ∀ l' ∈ lines, issue? f.marker l' = none) ∧
        f.Silent lines := by
  rw [Silent, List.pairwise_cons]
  exact and_congr_left' ⟨fun h hheader l' hl' => h l' hl' hheader,
    fun h l' hl' hheader => h hheader l' hl'⟩

/-- A reading that has a file takes every issue line, and one without takes those behind a
header. -/
theorem issues_run_eq_nil_iff (f : Format) (projectRoot : Path) (r : Reading) (lines : List Text) :
    (r.run f projectRoot lines).issues = [] ↔
      r.issues = [] ∧ (r.file.isSome = true → ∀ l ∈ lines, issue? f.marker l = none) ∧
        f.Silent lines := by
  induction lines generalizing r with
  | nil => simp [Reading.run, Format.Silent]
  | cons l lines ih =>
    have hrun : r.run f projectRoot (l :: lines) =
        (r.step projectRoot (f.classify l)).run f projectRoot lines := rfl
    rw [hrun, ih, Format.silent_cons, List.forall_mem_cons]
    cases hline : f.classify l with
    | header path =>
      have hnone := Format.issue?_of_classify (f := f) (l := l) (by simp [hline])
      simp only [Reading.step, Option.isSome_some, forall_const, hnone, true_and,
        Line.header.injEq, exists_eq']
      tauto
    | other =>
      have hnone := Format.issue?_of_classify (f := f) (l := l) (by simp [hline])
      simp [Reading.step, hnone]
    | issue n string =>
      have hsome := Format.classify_eq_issue_iff.1 hline
      cases hfile : r.file <;> simp [Reading.step, hfile, hsome]

theorem parse_eq_nil_iff {f : Format} {projectRoot : Path} {report : Text} :
    parse f projectRoot report = [] ↔ f.Silent (Text.lines report) := by
  rw [parse, issues_run_eq_nil_iff]
  simp

end Report
end Localize

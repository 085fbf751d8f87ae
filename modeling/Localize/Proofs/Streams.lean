import Mathlib.Data.List.Forall2
import Localize.Linter
import Localize.Proofs.Attribution
import Localize.Proofs.RawLines

/-! The two streams of a lint command that ran, read as one report. The lines of the errors come
behind those of the output. Where the output stops within a line, that line is ended first, which
can take a carriage return from it but nothing that counts in a report. So the issues are those of
the two streams read in turn, however the command ended. -/

namespace Localize

namespace Text

variable {t : Text}

theorem lines_append_lf (t u : Text) : lines (t ++ '\n' :: u) = lines (t ++ ['\n']) ++ lines u := by
  induction t using lineInduction with
  | last l hl =>
    rw [lines_append_cons hl, lines_append_cons hl]
    rfl
  | line l t hl ih =>
    rw [List.append_assoc, List.cons_append, lines_append_cons hl, ih, List.append_assoc,
      List.cons_append, lines_append_cons hl, List.cons_append]

/-- Both lines are the same, up to the carriage return that the end of a line takes away. -/
def SameLine (l l' : Text) : Prop := l = l' ∨ l = dropReturn l'

theorem sameLine_lines_append_lf (hne : t ≠ []) (hopen : endsLine t = false) :
    List.Forall₂ SameLine (lines (t ++ ['\n'])) (lines t) := by
  induction t using lineInduction with
  | last l hl =>
    -- only here is a return dropped that stood at the end of the text and not before a line feed
    rw [lines_append_cons hl, lines_of_not_mem hl hne]
    exact .cons (.inr rfl) .nil
  | line l t hl ih =>
    have ht : t ≠ [] := by
      rintro rfl
      rw [endsLine_append_lf] at hopen
      cases hopen
    rw [List.append_cons, endsLine_append ht] at hopen
    rw [List.append_assoc, List.cons_append, lines_append_cons hl, lines_append_cons hl]
    exact .cons (.inl rfl) (ih ht hopen)

end Text

namespace LintOutput

/-- The lines of the output come first and those of the errors behind them. -/
theorem lines_combine (output errors : ByteArray) :
    ∃ ls, Text.lines (combine output errors) = ls ++ Text.lines (Text.decodeLossy errors) ∧
      List.Forall₂ Text.SameLine ls (Text.lines (Text.decodeLossy output)) := by
  have hsame (ls : List Text) : List.Forall₂ Text.SameLine ls ls :=
    List.forall₂_same.2 fun _ _ => .inl rfl
  unfold combine
  dsimp only
  generalize Text.decodeLossy output = output
  generalize Text.decodeLossy errors = errors
  split
  · rename_i hempty
    rw [List.isEmpty_iff.1 hempty]
    exact ⟨_, (List.append_nil _).symm, hsame _⟩
  · split
    · rename_i hended
      rcases List.eq_nil_or_concat' output with rfl | ⟨front, c, rfl⟩
      · exact ⟨[], rfl, hsame _⟩
      · obtain rfl : c = '\n' := by simpa using hended
        refine ⟨_, ?_, hsame _⟩
        rw [List.append_assoc, List.singleton_append, Text.lines_append_lf]
    · rename_i hopen
      rw [Bool.or_eq_true, not_or, List.isEmpty_iff] at hopen
      exact ⟨_, Text.lines_append_lf _ _,
        Text.sameLine_lines_append_lf hopen.1 (Bool.eq_false_iff.2 hopen.2)⟩

end LintOutput

namespace Report

theorem classify_of_sameLine (c : Config) {l l' : Text} (h : Text.SameLine l l') :
    (Format.ofConfig c).classify l = (Format.ofConfig c).classify l' := by
  rcases h with rfl | rfl
  · rfl
  · exact classify_dropReturn c l'

theorem map_classify_of_sameLine (c : Config) {ls ls' : List Text}
    (h : List.Forall₂ Text.SameLine ls ls') :
    ls.map (Format.ofConfig c).classify = ls'.map (Format.ofConfig c).classify := by
  induction h with
  | nil => rfl
  | cons hl _ ih => rw [List.map_cons, List.map_cons, classify_of_sameLine c hl, ih]

theorem run_eq_foldl_classify (f : Format) (projectRoot : Path) (r : Reading) (lines : List Text) :
    r.run f projectRoot lines = (lines.map f.classify).foldl (Reading.step projectRoot) r :=
  List.foldl_map.symm

theorem run_append (f : Format) (projectRoot : Path) (r : Reading) (lines lines' : List Text) :
    r.run f projectRoot (lines ++ lines') =
      (r.run f projectRoot lines).run f projectRoot lines' := List.foldl_append

variable {launch : Launcher} {program : Text} {arguments : List Text} {directory : Path}
  {tree tree' : FileTree} {output errors : ByteArray} {exit : Exit}

/-- The text of a lint command that ran has the lines of its output and behind them those of its
errors, each stream read on its own: no line is lost, and none is joined to another. The issues are
those of the lines of the output and then of the errors, where the last file that the output names
goes on. How the command ended makes no difference. -/
theorem streams_read_in_turn (c : Config) (projectRoot : Path)
    (ran : launch (program :: arguments) directory tree = (.finished output errors exit, tree')) :
    let f := Format.ofConfig c
    let text := (lint launch (program :: arguments) directory tree).1.output.text
    let outputLines := Text.lines (Text.decodeLossy output)
    let errorLines := Text.lines (Text.decodeLossy errors)
    parse f projectRoot text =
      ((Reading.run f projectRoot {} outputLines).run f projectRoot errorLines).issues ∧
    (Text.lines text).map f.classify = (outputLines ++ errorLines).map f.classify ∧
    ∃ ls, Text.lines text = ls ++ errorLines ∧ List.Forall₂ Text.SameLine ls outputLines := by
  intro f text outputLines errorLines
  have htext : text = LintOutput.combine output errors := by
    simp only [text, lint, ran]
    rfl
  obtain ⟨ls, hlines, hsame⟩ := LintOutput.lines_combine output errors
  rw [← htext] at hlines
  have hclassify : (Text.lines text).map f.classify =
      (outputLines ++ errorLines).map f.classify := by
    rw [hlines, List.map_append, List.map_append, map_classify_of_sameLine c hsame]
  refine ⟨?_, hclassify, ls, hlines, hsame⟩
  -- the reading of the first lines ends where that of the others begins, with its current file
  rw [parse, run_eq_foldl_classify, hclassify, ← run_eq_foldl_classify, run_append]

/-- A header that stops behind a carriage return. -/
def returnedHeader : ByteArray := Text.encode "src/a.tsx\r".toList

/-- An issue line whose string is no UTF-8. -/
def brokenIssue : ByteArray :=
  Text.encode "  1: Hardcoded string: \"A".toList ++ ⟨#[0xFF, 0x22]⟩

/-- A command with the header in its output and the issue in its errors, ended by a signal. -/
def splitLinter : Launcher :=
  fun _ _ tree => (.finished returnedHeader brokenIssue .signal, tree)

theorem streams_read_in_turn_splitLinter :
    splitLinter ["lint".toList] ⟨"/app".toList⟩ .empty =
      (.finished returnedHeader brokenIssue .signal, .empty) ∧
    parse (Format.ofConfig {}) ⟨"/app".toList⟩
        (lint splitLinter ["lint".toList] ⟨"/app".toList⟩ .empty).1.output.text =
      [⟨⟨"/app/src/a.tsx".toList⟩, 1, ['A', Text.replacementChar]⟩] := by
  have ran : splitLinter ["lint".toList] ⟨"/app".toList⟩ .empty =
      (.finished returnedHeader brokenIssue .signal, .empty) := rfl
  refine ⟨ran, ?_⟩
  rw [(streams_read_in_turn {} ⟨"/app".toList⟩ ran).1]
  decide +kernel

end Report
end Localize

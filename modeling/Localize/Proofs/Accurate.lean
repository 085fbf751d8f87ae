import Localize.Proofs.Course
import Localize.Proofs.Dictionary
import Localize.Proofs.Grouping

/-! An accurate report is applied where it points: where no two issues claim one line and each
string stands on its claimed line, every issue is handled on its own line and as if it were the only
one. -/

namespace Localize

/-- No two issues claim one line, and each string stands on the line it claims. -/
structure Issue.Accurate (lines : Buffer) (issues : List Issue) : Prop where
  different : (issues.map (·.line)).Nodup
  there : ∀ i ∈ issues, i.line ≠ 0 ∧ ∃ line, lines[i.line - 1]? = some line ∧ i.string <:+: line

theorem Outcome.applied?_eq_some {o : Outcome} {a : Applied} :
    o.applied? = some a ↔ o = .applied a := by
  cases o <;> simp [Outcome.applied?]

namespace Localizer

/-- What becomes of an issue on its claimed line. -/
def inPlace (p : Localizer) (lines : Buffer) (i : Issue) : Outcome :=
  match p.dictionary.lookup i.string with
  | none => .skipped ⟨i, .noKey⟩
  | some key =>
    let line := lines[i.line - 1]?.getD []
    match Replacement.substitute? line i.string (p.replacer.call key) with
    | none => .skipped ⟨i, .notFound⟩
    | some after => .applied ⟨i, key, ⟨i.line - 1, line, after⟩⟩

theorem applied_of_inPlace {p : Localizer} {lines : Buffer} {i : Issue} {a : Applied}
    (h : p.inPlace lines i = .applied a) : a.issue = i ∧ a.replacement.lineIndex = i.line - 1 := by
  unfold inPlace at h
  split at h
  · cases h
  · dsimp only at h
    split at h
    · cases h
    · cases h
      exact ⟨rfl, rfl⟩

end Localizer

theorem Replay.getElem?_of_mem {r : Replacer} {lines final : Buffer} {as : List Applied}
    (h : Replay r lines as final) (hdiff : (as.map (·.replacement.lineIndex)).Nodup) {a : Applied}
    (ha : a ∈ as) : final[a.replacement.lineIndex]? = some a.replacement.after := by
  induction h with
  | done => cases ha
  | @step lines final b as line nonempty holds after rest ih =>
    obtain ⟨hnot, hdiff⟩ := List.nodup_cons.1 hdiff
    rcases List.mem_cons.1 ha with rfl | ha
    · rw [rest.getElem?_eq fun b hb he => hnot (List.mem_map.2 ⟨b, hb, he⟩)]
      obtain ⟨hlt, -⟩ := List.getElem?_eq_some_iff.1 line
      exact List.getElem?_set_self hlt
    · exact ih hdiff ha

theorem Replacer.replace?_of_claimed {r : Replacer} {lines : Buffer} {needle line : Text}
    {claimed : Nat} (key : Text) (hne : needle ≠ []) (hclaimed : claimed ≠ 0)
    (hline : lines[claimed - 1]? = some line) (hin : needle <:+: line) :
    r.replace? lines claimed needle key =
      (Replacement.substitute? line needle (r.call key)).map fun after =>
        (⟨claimed - 1, line, after⟩, lines.set (claimed - 1) after) :=
  replace?_of_locate? key (Replacement.locate?_of_claimed hne hclaimed hline hin) hline

namespace Localizer

theorem settle_of_claimed {p : Localizer} {lines buffer : Buffer} {i : Issue} {line : Text}
    (hne : ∀ key, p.dictionary.lookup i.string = some key → i.string ≠ []) (hclaimed : i.line ≠ 0)
    (hline : lines[i.line - 1]? = some line) (hbuffer : buffer[i.line - 1]? = some line)
    (hin : i.string <:+: line) :
    (p.settle buffer i).1 = p.inPlace lines i ∧
      ∀ n, n ≠ i.line - 1 → (p.settle buffer i).2[n]? = buffer[n]? := by
  unfold settle inPlace
  cases hkey : p.dictionary.lookup i.string with
  | none => exact ⟨rfl, fun _ _ => rfl⟩
  | some key =>
    simp only [hline, Option.getD_some,
      Replacer.replace?_of_claimed key (hne key hkey) hclaimed hbuffer hin]
    cases Replacement.substitute? line i.string (p.replacer.call key) with
    | none => exact ⟨rfl, fun _ _ => rfl⟩
    | some after => exact ⟨rfl, fun n hn => List.getElem?_set_ne hn.symm⟩

/-- No issue disturbs the line that another one still has to find. -/
theorem settleAll_of_accurate {p : Localizer} {lines buffer : Buffer} {issues : List Issue}
    (hne : ∀ t key, p.dictionary.lookup t = some key → t ≠ [])
    (h : Issue.Accurate lines issues)
    (hbuffer : ∀ i ∈ issues, buffer[i.line - 1]? = lines[i.line - 1]?) :
    (p.settleAll buffer issues).1 = issues.map (p.inPlace lines) := by
  induction issues generalizing buffer with
  | nil => rfl
  | cons i issues ih =>
    obtain ⟨hclaimed, line, hline, hin⟩ := h.there i List.mem_cons_self
    obtain ⟨hnot, hdiff⟩ := List.nodup_cons.1 h.different
    obtain ⟨hout, hkept⟩ := settle_of_claimed (hne i.string) hclaimed hline
      ((hbuffer i List.mem_cons_self).trans hline) hin
    rw [settleAll_cons, List.map_cons, ← hout]
    refine congrArg ((p.settle buffer i).1 :: ·) ?_
    refine ih ⟨hdiff, fun j hj => h.there j (List.mem_cons_of_mem _ hj)⟩ fun j hj => ?_
    rw [← hbuffer j (List.mem_cons_of_mem _ hj)]
    apply hkept
    -- Both numbers are positive, so different lines have different indices.
    have hj0 := (h.there j (List.mem_cons_of_mem _ hj)).1
    have hne : j.line ≠ i.line := fun he => hnot (List.mem_map.2 ⟨j, hj, he⟩)
    omega

theorem nodup_lineIndex {p : Localizer} {lines : Buffer} {issues : List Issue}
    (h : Issue.Accurate lines issues) :
    (((issues.map (p.inPlace lines)).filterMap Outcome.applied?).map
      (·.replacement.lineIndex)).Nodup := by
  rw [List.nodup_iff_pairwise_ne, List.pairwise_map, List.pairwise_filterMap, List.pairwise_map]
  refine (List.pairwise_map.1 h.different).imp_of_mem fun {i j} hi hj hne a ha b hb => ?_
  rw [(applied_of_inPlace (Outcome.applied?_eq_some.1 ha)).2,
    (applied_of_inPlace (Outcome.applied?_eq_some.1 hb)).2]
  have hi0 := (h.there i hi).1
  have hj0 := (h.there j hj).1
  omega

/-- Every issue of an accurate report is handled on its own line, in whatever order the report has
them, and the buffer is the file with exactly those lines rewritten. -/
theorem accurate_report_in_place (c : Config) (projectRoot : Path) (messages : Json)
    (dryRun : Bool) {tree : FileTree} {path : Path} {content : Text} {issues : List Issue}
    (hread : tree.readText path = .ok content)
    (h : Issue.Accurate (Text.lines content) issues) :
    let p := ofConfig c projectRoot (.ofJson messages)
    let final := (p.settled content issues).2
    (p.visit dryRun tree (path, issues)).1.outcomes.Perm
      (issues.map (p.inPlace (Text.lines content))) ∧
    (∀ i ∈ issues, ∀ a, p.inPlace (Text.lines content) i = .applied a →
      final[i.line - 1]? = some a.replacement.after) ∧
    (∀ n, (∀ i ∈ issues, ∀ a, p.inPlace (Text.lines content) i = .applied a → i.line - 1 ≠ n) →
      final[n]? = (Text.lines content)[n]?) := by
  intro p final
  obtain ⟨l, hholds⟩ := FileTree.holds_of_readText hread
  have hperm := (Issue.isBottomUp_bottomUp issues).perm
  have hsorted : Issue.Accurate (Text.lines content) (bottomUp issues) :=
    ⟨(hperm.map _).nodup_iff.2 h.different, fun i hi => h.there i (hperm.mem_iff.1 hi)⟩
  have hout : (p.settled content issues).1 =
      (bottomUp issues).map (p.inPlace (Text.lines content)) :=
    settleAll_of_accurate (fun _ _ => Dictionary.ne_nil_of_lookup) hsorted fun _ _ => rfl
  have hreplay := p.replay_settleAll (Text.lines content) (bottomUp issues)
  have hmem : ∀ a, a ∈ p.replaced content issues ↔
      ∃ i ∈ issues, p.inPlace (Text.lines content) i = .applied a := by
    intro a
    simp only [replaced, hout, List.mem_filterMap, List.mem_map, Outcome.applied?_eq_some]
    constructor
    · rintro ⟨o, ⟨i, hi, rfl⟩, ho⟩
      exact ⟨i, hperm.mem_iff.1 hi, ho⟩
    · rintro ⟨i, hi, ho⟩
      exact ⟨_, ⟨i, hperm.mem_iff.2 hi, rfl⟩, ho⟩
  refine ⟨?_, ?_, ?_⟩
  · rw [p.visit_outcomes dryRun issues hholds, hout]
    exact hperm.map _
  · intro i hi a ha
    rw [← (applied_of_inPlace ha).2]
    refine hreplay.getElem?_of_mem ?_ ((hmem a).2 ⟨i, hi, ha⟩)
    change ((p.settled content issues).1.filterMap Outcome.applied? |>.map _).Nodup
    rw [hout]
    exact nodup_lineIndex hsorted
  · intro n hn
    refine hreplay.getElem?_eq fun a ha => ?_
    obtain ⟨i, hi, hia⟩ := (hmem a).1 ha
    rw [(applied_of_inPlace hia).2]
    exact hn i hi a hia

def saveMessages : Json := .object [("Save".toList, .string "Save".toList)]

def savePage : Text := "<p>Save</p>\n<b title=\"Save all\">\n<i>Save</i>\n".toList

def saveIssue (line : Nat) : Issue := ⟨⟨"/a.tsx".toList⟩, line, "Save".toList⟩

/-- The key holds the string that it stands for, and on the second line the string is only a part of
an attribute value. -/
theorem accurate_report_of_three_lines :
    (FileTree.oneFile savePage).readText ⟨"/a.tsx".toList⟩ = .ok savePage ∧
    Issue.Accurate (Text.lines savePage) [saveIssue 2, saveIssue 1, saveIssue 3] ∧
    let final := ((ofConfig {} ⟨[]⟩ (.ofJson saveMessages)).settled savePage
      [saveIssue 2, saveIssue 1, saveIssue 3]).2
    final[0]? = some "<p>\x7bt(\"Save\")\x7d</p>".toList ∧
      final[1]? = some "<b title=\"Save all\">".toList ∧
      final[2]? = some "<i>\x7bt(\"Save\")\x7d</i>".toList := by
  have hread := FileTree.readText_of_holds (FileTree.oneFile_holds savePage)
  have haccurate : Issue.Accurate (Text.lines savePage)
      [saveIssue 2, saveIssue 1, saveIssue 3] := by
    refine ⟨by decide, fun i hi => ?_⟩
    simp only [List.mem_cons, List.not_mem_nil, or_false] at hi
    rcases hi with rfl | rfl | rfl
    · exact ⟨by decide, _, rfl, "<b title=\"".toList, " all\">".toList, by decide⟩
    · exact ⟨by decide, _, rfl, "<p>".toList, "</p>".toList, by decide⟩
    · exact ⟨by decide, _, rfl, "<i>".toList, "</i>".toList, by decide⟩
  obtain ⟨-, hset, hkept⟩ :=
    accurate_report_in_place {} ⟨[]⟩ saveMessages false hread haccurate
  refine ⟨hread, haccurate, hset (saveIssue 1) (by decide) _ rfl, ?_,
    hset (saveIssue 3) (by decide) _ rfl⟩
  refine hkept 1 fun i hi a ha hline => ?_
  simp only [List.mem_cons, List.not_mem_nil, or_false] at hi
  rcases hi with rfl | rfl | rfl
  · cases ha
  · cases hline
  · cases hline

end Localizer
end Localize

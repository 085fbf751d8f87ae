import Mathlib.Data.List.Flatten
import Localize.Proofs.Accurate
import Localize.Proofs.RawLines

/-! What is written over an edited file. The lines on which nothing was replaced are among the raw
lines of what is written, in order, as far as the one line ending of the file is their own; the
file is written with a line end behind its last line as it had one, unless the binding was added
behind the last line. -/

namespace Localize

/-- The lines on which nothing was replaced. -/
def unedited (as : List Applied) (lines : List Text) : List Text :=
  (lines.zipIdx.filter fun l => as.all (·.replacement.lineIndex ≠ l.2)).map (·.1)

/-- Written under the ending, with or without a line end behind the last line, the line has the end
that it had. -/
def Text.keepsEnd (e : Ending) (final : Bool) (raw : Text) : Bool :=
  if endsLine raw then e.text.isSuffixOf raw else !final

/-- The lines on which nothing was replaced and whose end is kept when the content is written back
under its line ending. -/
def keptLines (as : List Applied) (content : Text) (final : Bool) : List Text :=
  (unedited as (Text.rawLines content)).filter (Text.keepsEnd (Text.ending content) final)

theorem map_filter_zipIdx_sublist {xs ys : List Text} {q : Text × Nat → Bool} {n : Nat}
    (h : ∀ i x, xs[i]? = some x → q (x, n + i) = true → ys[i]? = some x) :
    (((xs.zipIdx n).filter q).map (·.1)).Sublist ys := by
  induction xs generalizing ys n with
  | nil => exact List.nil_sublist ys
  | cons x xs ih =>
    have hrest : ∀ i x, xs[i]? = some x → q (x, n + 1 + i) = true → ys.tail[i]? = some x := by
      intro i x hx hq
      rw [List.getElem?_tail]
      exact h (i + 1) x hx (by rwa [Nat.add_assoc, Nat.add_comm 1 i] at hq)
    rw [List.zipIdx_cons]
    by_cases hq : q (x, n) = true
    · obtain ⟨ys', rfl⟩ := List.head?_eq_some_iff.1 (List.head?_eq_getElem?.trans (h 0 x rfl hq))
      rw [List.filter_cons_of_pos hq]
      exact (ih hrest).cons_cons x
    · rw [List.filter_cons_of_neg hq]
      exact (ih hrest).trans (List.tail_sublist ys)

theorem unedited_sublist {as : List Applied} {raws ys : List Text} {keeps : Text → Bool}
    (h : ∀ (i : Nat) (raw : Text), raws[i]? = some raw →
      (∀ a ∈ as, a.replacement.lineIndex ≠ i) → keeps raw = true → ys[i]? = some raw) :
    ((unedited as raws).filter keeps).Sublist ys := by
  rw [unedited, List.filter_map, List.filter_filter]
  refine map_filter_zipIdx_sublist fun i raw hraw hq => ?_
  simp only [Function.comp_apply, Bool.and_eq_true, List.all_eq_true, decide_eq_true_eq,
    Nat.zero_add] at hq
  exact h i raw hraw hq.2 hq.1

theorem keptLines_eq_unedited {as : List Applied} {content : Text} {final : Bool}
    (hpure : ∀ raw ∈ Text.rawLines content, Text.endsLine raw = true →
      (Text.ending content).text <:+ raw)
    (hfinal : final = true → Text.endsLine content = true) :
    keptLines as content final = unedited as (Text.rawLines content) := by
  refine List.filter_eq_self.2 fun raw hmem => ?_
  obtain ⟨⟨_, i⟩, hl, rfl⟩ := List.mem_map.1 hmem
  have hraw := List.fst_mem_of_mem_zipIdx (List.mem_of_mem_filter hl)
  rw [Text.keepsEnd]
  split
  · rename_i hends
    exact List.isSuffixOf_iff_suffix.2 (hpure _ hraw hends)
  · rename_i hopen
    rw [Bool.not_eq_true', Bool.eq_false_iff]
    exact fun h => hopen (Text.endsLine_of_mem_rawLines (hfinal h) hraw)

theorem endsLine_of_mem_keptLines {as : List Applied} {content raw : Text}
    (h : raw ∈ keptLines as content true) : Text.endsLine raw = true := by
  have hkeep := (List.mem_filter.1 h).2
  by_contra hraw
  rw [Text.keepsEnd, if_neg hraw] at hkeep
  cases hkeep

theorem flatMap_rawLines_keptLines (as : List Applied) (content : Text) (final : Bool) :
    (keptLines as content final).flatMap Text.rawLines = keptLines as content final := by
  have hraw : (keptLines as content final).Sublist (Text.rawLines content) :=
    unedited_sublist fun _ _ hraw _ _ => hraw
  rw [List.flatMap_congr fun raw hmem => Text.rawLines_of_mem_rawLines (hraw.subset hmem)]
  exact List.flatMap_singleton' _

namespace Replacement

theorem getLast?_of_substitute? {line needle call result : Text}
    (h : substitute? line needle call = some result) (hline : line.getLast? ≠ some '\n') :
    result.getLast? ≠ some '\n' := by
  have hbehind (before after : Text) (hafter : after ≠ [] → after.getLast? ≠ some '\n') :
      (before ++ braced call ++ after).getLast? ≠ some '\n' := by
    by_cases hnil : after = []
    · rw [hnil, List.append_nil, braced, ← List.append_assoc, List.getLast?_concat]
      decide
    · rw [List.getLast?_append_of_ne_nil _ hnil]
      exact hafter hnil
  obtain ⟨before, after, hcut, ⟨-, rfl⟩ | ⟨-, rest, rfl, rfl⟩⟩ := cut?_of_substitute? h
  · rw [Text.eq_of_cut? hcut] at hline
    exact hbehind _ _ fun hne => by rwa [List.getLast?_append_of_ne_nil _ hne] at hline
  · rw [Text.eq_of_cut? hcut, List.append_cons] at hline
    exact hbehind _ _ fun hne => by rwa [List.getLast?_append_of_ne_nil _ hne] at hline

theorem ne_nil_of_substitute? {line needle call result : Text}
    (h : substitute? line needle call = some result) : result ≠ [] := by
  obtain ⟨before, after, -, ⟨-, rfl⟩ | ⟨-, rest, -, rfl⟩⟩ := cut?_of_substitute? h <;>
    simp [braced]

end Replacement

namespace Replay

variable {r : Replacer} {lines final : Buffer} {as : List Applied}

theorem getLast?_ne (h : Replay r lines as final) (hlines : ∀ l ∈ lines, l.getLast? ≠ some '\n') :
    ∀ l ∈ final, l.getLast? ≠ some '\n' := by
  induction h with
  | done => exact hlines
  | step line _ _ after _ ih =>
    refine ih fun l hl => ?_
    rcases List.mem_or_eq_of_mem_set hl with hl | rfl
    · exact hlines l hl
    · exact Replacement.getLast?_of_substitute? after (hlines _ (List.mem_of_getElem? line))

theorem exists_ne_nil (h : Replay r lines as final) (hsome : as ≠ [] ∨ ∃ l ∈ lines, l ≠ []) :
    ∃ l ∈ final, l ≠ [] := by
  induction h with
  | done => exact hsome.resolve_left (absurd rfl)
  | step line _ _ after _ ih =>
    obtain ⟨hlt, -⟩ := List.getElem?_eq_some_iff.1 line
    exact ih (.inr ⟨_, List.mem_set hlt _, Replacement.ne_nil_of_substitute? after⟩)

theorem lineIndex_lt (h : Replay r lines as final) :
    ∀ a ∈ as, a.replacement.lineIndex < lines.length := by
  induction h with
  | done => exact nofun
  | step line _ _ _ _ ih =>
    refine List.forall_mem_cons.2 ⟨(List.getElem?_eq_some_iff.1 line).1, fun a ha => ?_⟩
    rw [← List.length_set]
    exact ih a ha

end Replay

namespace Hook

variable {h : Hook} {lines new : Buffer} {index : Nat} {line : Text}

theorem sublist_insertAt (index : Nat) (new : List Text) (lines : Buffer) :
    lines.Sublist (insertAt index new lines) := by
  have hsub : (lines.take index ++ lines.drop index).Sublist (insertAt index new lines) :=
    (List.sublist_append_left _ _).append (List.Sublist.refl _)
  rwa [List.take_append_drop] at hsub

theorem mem_or_mem_of_insertAt (hline : line ∈ insertAt index new lines) :
    line ∈ lines ∨ line ∈ new := by
  rcases List.mem_append.1 hline with hline | hline
  · exact (List.mem_append.1 hline).imp_left List.mem_of_mem_take
  · exact .inl (List.mem_of_mem_drop hline)

theorem getLast?_insertAt (hindex : index < lines.length) (new : List Text) :
    (insertAt index new lines).getLast? = lines.getLast? := by
  have hne : lines.drop index ≠ [] := fun hnil =>
    absurd (List.drop_eq_nil_iff.1 hnil) (Nat.not_le.2 hindex)
  rw [insertAt, List.getLast?_append_of_ne_nil _ hne, List.getLast?_drop,
    if_neg (Nat.not_le.2 hindex)]

theorem addImport_cases (h : Hook) (lines : Buffer) :
    (h.addImport lines).2 = lines ∨
      (h.addImport lines).2 =
        insertAt (h.importIndex lines) [importLine h.hookName h.hookModule] lines := by
  unfold addImport
  split
  · exact .inl rfl
  · exact .inr rfl

theorem addBinding_cases (h : Hook) (lines : Buffer) :
    (h.addBinding lines).2 = lines ∨ ∃ index signature,
      (h.addBinding lines).2 = insertAt index (h.bindingLines signature) lines := by
  unfold addBinding
  split
  · exact .inl rfl
  · split
    · exact .inl rfl
    · exact .inr ⟨_, _, rfl⟩

theorem augment_snd (h : Hook) (lines : Buffer) :
    (h.augment lines).2 = (h.addBinding (h.addImport lines).2).2 := rfl

theorem sublist_augment (h : Hook) (lines : Buffer) : lines.Sublist (h.augment lines).2 := by
  have himport : lines.Sublist (h.addImport lines).2 := by
    rcases h.addImport_cases lines with heq | heq <;> rw [heq]
    exact sublist_insertAt _ _ _
  rw [augment_snd]
  rcases h.addBinding_cases (h.addImport lines).2 with heq | ⟨index, signature, heq⟩ <;> rw [heq]
  · exact himport
  · exact himport.trans (sublist_insertAt _ _ _)

theorem getLast?_importLine (hookName hookModule : Text) :
    (importLine hookName hookModule).getLast? = some ';' :=
  List.getLast?_append.trans Option.some_or

theorem getLast?_bindingStatement (translateFn hookName : Text) :
    (bindingStatement translateFn hookName).getLast? = some ';' :=
  List.getLast?_append.trans Option.some_or

theorem getLast?_of_mem_bindingLines {signature : Text} (hline : line ∈ h.bindingLines signature) :
    line.getLast? ≠ some '\n' := by
  simp only [bindingLines, List.mem_cons, List.not_mem_nil, or_false] at hline
  rcases hline with rfl | rfl
  · rw [List.getLast?_append, getLast?_bindingStatement]
    simp
  · nofun

theorem augment_getLast?_ne (h : Hook) (hlines : ∀ l ∈ lines, l.getLast? ≠ some '\n') :
    ∀ l ∈ (h.augment lines).2, l.getLast? ≠ some '\n' := by
  have himport : ∀ l ∈ (h.addImport lines).2, l.getLast? ≠ some '\n' := by
    rcases h.addImport_cases lines with heq | heq <;> rw [heq]
    · exact hlines
    · intro l hl
      rcases mem_or_mem_of_insertAt hl with hl | hl
      · exact hlines l hl
      · rw [List.mem_singleton.1 hl, getLast?_importLine]
        simp
  rw [augment_snd]
  rcases h.addBinding_cases (h.addImport lines).2 with heq | ⟨index, signature, heq⟩ <;> rw [heq]
  · exact himport
  · intro l hl
    exact (mem_or_mem_of_insertAt hl).elim (himport l) getLast?_of_mem_bindingLines

/-- The last of two lines or more stays the last one, unless the binding comes behind it; then the
last line is empty. -/
theorem getLast?_augment (h : Hook) (hlength : 1 < lines.length) :
    (h.augment lines).2.getLast? = lines.getLast? ∨ (h.augment lines).2.getLast? = some [] := by
  have hindex : h.importIndex lines ≤ 1 := by
    unfold importIndex
    split <;> omega
  have himport : (h.addImport lines).2.getLast? = lines.getLast? := by
    rcases h.addImport_cases lines with heq | heq <;> rw [heq]
    exact getLast?_insertAt (by omega) _
  rw [augment_snd]
  rcases h.addBinding_cases (h.addImport lines).2 with heq | ⟨index, signature, heq⟩ <;> rw [heq]
  · exact .inl himport
  · by_cases hlt : index < (h.addImport lines).2.length
    · exact .inl ((getLast?_insertAt hlt _).trans himport)
    · refine .inr ?_
      rw [insertAt, List.drop_eq_nil_of_le (Nat.le_of_not_lt hlt), List.append_nil,
        List.getLast?_append]
      rfl

end Hook

namespace Replay

variable {r : Replacer} {content : Text} {final : Buffer} {as : List Applied}

theorem getElem?_endedBy (h : Replay r (Text.lines content) as final) {ended : Bool} {i : Nat}
    {raw : Text} (hraw : (Text.rawLines content)[i]? = some raw)
    (hi : ∀ a ∈ as, a.replacement.lineIndex ≠ i)
    (hkeep : Text.keepsEnd (Text.ending content) ended raw = true) :
    (Text.endedBy (Text.ending content).text (Text.endsLine content) final)[i]? = some raw := by
  have hlf : Text.ending content = .lf → ¬ ['\r', '\n'] <:+: content := by
    intro he hin
    rw [Text.ending_of_infix hin] at he
    cases he
  rw [Text.getElem?_endedBy, h.getElem?_eq hi, h.length_eq, ← Text.getElem?_endedBy]
  refine Text.getElem?_endedBy_lines hlf hraw fun hends => ?_
  rw [Text.keepsEnd, if_pos hends] at hkeep
  exact List.isSuffixOf_iff_suffix.1 hkeep

theorem keptLines_sublist (h : Replay r (Text.lines content) as final) (ended : Bool) :
    (keptLines as content ended).Sublist
      (Text.endedBy (Text.ending content).text (Text.endsLine content) final) :=
  unedited_sublist fun _ _ => h.getElem?_endedBy

theorem keptLines_eq_nil (h : Replay r (Text.lines content) as final) (hbusy : as ≠ [])
    (hlength : final.length ≤ 1) (ended : Bool) : keptLines as content ended = [] := by
  refine List.sublist_nil.1 (unedited_sublist fun i raw hraw hi hkeep => ?_)
  obtain ⟨a, ha⟩ := List.exists_mem_of_ne_nil as hbusy
  have hlt := h.lineIndex_lt a ha
  have hplace := (List.getElem?_eq_some_iff.1 (h.getElem?_endedBy hraw hi hkeep)).1
  rw [Text.length_endedBy] at hplace
  rw [← h.length_eq] at hlt
  exact absurd (by omega) (hi a ha)

end Replay

namespace Localizer

variable {p : Localizer} {tree : FileTree} {path : Path} {content : Text} {issues : List Issue}

/-- The lines that are written for a file with this content if something in it was replaced. -/
def rewritten (p : Localizer) (content : Text) (issues : List Issue) : Buffer :=
  (p.hook.augment (p.settled content issues).2).2

theorem visit_writes (p : Localizer) (issues : List Issue)
    (hread : tree.readText path = .ok content)
    (hbusy : p.replaced content issues ≠ []) :
    ∃ tree', (p.visit false tree (path, issues)).2 = .ok tree' ∧
      tree'.readText path = .ok (SourceFile.joinedAs content (p.rewritten content issues)) := by
  obtain ⟨l, hholds⟩ := FileTree.holds_of_readText hread
  refine ⟨_, ?_, FileTree.readText_of_holds (FileTree.holds_put hholds _)⟩
  rw [visit_of_holds p false issues hholds, edit_ofContent, if_neg hbusy]
  simp only [SourceFile.flush_of_holds hholds]
  rfl

theorem replay_settled (p : Localizer) (content : Text) (issues : List Issue) :
    Replay p.replacer (Text.lines content) (p.replaced content issues)
      (p.settled content issues).2 :=
  p.replay_settleAll (Text.lines content) (bottomUp issues)

theorem settled_getLast?_ne (p : Localizer) (content : Text) (issues : List Issue) :
    ∀ l ∈ (p.settled content issues).2, l.getLast? ≠ some '\n' :=
  (p.replay_settled content issues).getLast?_ne fun _ hl hlast =>
    Text.lf_not_mem_of_mem_lines hl (List.mem_of_getLast? hlast)

theorem sublist_rewritten (p : Localizer) (content : Text) (issues : List Issue) :
    (p.settled content issues).2.Sublist (p.rewritten content issues) :=
  p.hook.sublist_augment _

/-- The file is written with a line end behind its last line if it had one, or if the binding was
added behind that line. -/
theorem endsLine_joinedAs_rewritten (hbusy : p.replaced content issues ≠ []) :
    Text.endsLine (SourceFile.joinedAs content (p.rewritten content issues)) = true ↔
      Text.endsLine content = true ∨ (p.rewritten content issues).getLast? = some [] := by
  obtain ⟨l, hl, hne⟩ := (p.replay_settled content issues).exists_ne_nil (.inl hbusy)
  have hmem := (p.sublist_rewritten content issues).subset hl
  rw [SourceFile.joinedAs, ← Text.flatten_endedBy (List.ne_nil_of_mem hmem)]
  exact Text.endsLine_flatten_endedBy ⟨l, hmem, hne⟩
    (p.hook.augment_getLast?_ne (p.settled_getLast?_ne content issues))

theorem keptLines_sublist_endedBy (hbusy : p.replaced content issues ≠ []) :
    (keptLines (p.replaced content issues) content
      (Text.endsLine (SourceFile.joinedAs content (p.rewritten content issues)))).Sublist
      (Text.endedBy (Text.ending content).text (Text.endsLine content)
        (p.rewritten content issues)) := by
  have hreplay := p.replay_settled content issues
  have hsub := p.sublist_rewritten content issues
  by_cases hlast : Text.endsLine content = true ∨
      (p.rewritten content issues).getLast? = (p.settled content issues).2.getLast?
  · exact (hreplay.keptLines_sublist _).trans (Text.endedBy_sublist hsub hlast)
  · rcases Nat.lt_or_ge 1 (p.settled content issues).2.length with hlength | hlength
    · -- The binding is behind the last line, which therefore is no kept line.
      have hbehind := (p.hook.getLast?_augment hlength).resolve_left (not_or.1 hlast).2
      rw [(endsLine_joinedAs_rewritten hbusy).2 (.inr hbehind)]
      rw [← List.filter_eq_self.2 fun _ => endsLine_of_mem_keptLines]
      exact ((hreplay.keptLines_sublist true).filter _).trans
        (Text.filter_endedBy_sublist hsub (p.settled_getLast?_ne content issues))
    · rw [hreplay.keptLines_eq_nil hbusy hlength]
      exact List.nil_sublist _

/-- Whatever line ends a file mixes, a run that writes it keeps the bytes of each line that it did
not edit, in order, if the file's line ending is the line's own; and it keeps a missing end of the
last line unless it adds the binding behind that line. -/
theorem unedited_lines_kept (p : Localizer) {tree : FileTree} {path : Path} {content : Text}
    {issues : List Issue} (hread : tree.readText path = .ok content)
    (hbusy : p.replaced content issues ≠ []) :
    ∃ tree' written, (p.visit false tree (path, issues)).2 = .ok tree' ∧
      tree'.readText path = .ok written ∧
      (Text.endsLine written = true ↔
        Text.endsLine content = true ∨ (p.rewritten content issues).getLast? = some []) ∧
      (keptLines (p.replaced content issues) content (Text.endsLine written)).Sublist
        (Text.rawLines written) := by
  obtain ⟨tree', hvisit, hwritten⟩ := p.visit_writes issues hread hbusy
  refine ⟨tree', _, hvisit, hwritten, endsLine_joinedAs_rewritten hbusy, ?_⟩
  obtain ⟨l, hl, -⟩ := (p.replay_settled content issues).exists_ne_nil (.inl hbusy)
  have hne := List.ne_nil_of_mem ((p.sublist_rewritten content issues).subset hl)
  have hsub := (keptLines_sublist_endedBy hbusy).flatMap Text.rawLines
  rw [← Text.rawLines_flatten_endedBy, Text.flatten_endedBy hne] at hsub
  rw [flatMap_rawLines_keptLines] at hsub
  exact hsub

def windowsPage : Text := "<div>\r\n<p>Save</p>\r\n</div>".toList

theorem unedited_lines_kept_windowsPage :
    let p := ofConfig {} ⟨[]⟩ (.ofJson saveMessages)
    (FileTree.oneFile windowsPage).readText ⟨"/a.tsx".toList⟩ = .ok windowsPage ∧
    p.replaced windowsPage [saveIssue 2] ≠ [] ∧
    ∃ tree' written,
      (p.visit false (.oneFile windowsPage) (⟨"/a.tsx".toList⟩, [saveIssue 2])).2 = .ok tree' ∧
      tree'.readText ⟨"/a.tsx".toList⟩ = .ok written ∧ Text.endsLine written = false ∧
      ["<div>\r\n".toList, "</div>".toList].Sublist (Text.rawLines written) := by
  intro p
  have hread := FileTree.readText_of_holds (FileTree.oneFile_holds windowsPage)
  have hbusy : p.replaced windowsPage [saveIssue 2] ≠ [] := by decide +kernel
  obtain ⟨tree', written, hvisit, hwritten, hends, hkept⟩ := p.unedited_lines_kept hread hbusy
  have hopen : Text.endsLine written = false :=
    Bool.eq_false_iff.2 (mt hends.1 (by decide +kernel))
  have hlines : keptLines (p.replaced windowsPage [saveIssue 2]) windowsPage false =
      ["<div>\r\n".toList, "</div>".toList] := by decide +kernel
  rw [hopen, hlines] at hkept
  exact ⟨hread, hbusy, tree', written, hvisit, hwritten, hopen, hkept⟩

/-- Mixed line ends. -/
def mixedPage : Text := "<div>\r\n<p>Save</p>\n</div>\n".toList

/-- The last line opens the body of a function, and no line end is behind it. -/
def oneLinePage : Text := "function Page() \x7b return <p>Save</p>; \x7d".toList

/-- A line that was not edited gets another end, and a file without a line end behind its last line
gets one. -/
theorem line_ends_changed :
    let p := ofConfig {} ⟨[]⟩ (.ofJson saveMessages)
    (∃ tree' written,
      (p.visit false (.oneFile mixedPage) (⟨"/a.tsx".toList⟩, [saveIssue 2])).2 = .ok tree' ∧
      tree'.readText ⟨"/a.tsx".toList⟩ = .ok written ∧
      unedited (p.replaced mixedPage [saveIssue 2]) (Text.rawLines mixedPage) =
        ["<div>\r\n".toList, "</div>\n".toList] ∧
      "</div>\n".toList ∉ Text.rawLines written) ∧
    (∃ tree' written,
      (p.visit false (.oneFile oneLinePage) (⟨"/a.tsx".toList⟩, [saveIssue 1])).2 = .ok tree' ∧
      tree'.readText ⟨"/a.tsx".toList⟩ = .ok written ∧
      Text.endsLine oneLinePage = false ∧ Text.endsLine written = true) := by
  intro p
  have hmixed := FileTree.readText_of_holds (FileTree.oneFile_holds mixedPage)
  have honeLine := FileTree.readText_of_holds (FileTree.oneFile_holds oneLinePage)
  obtain ⟨tree, hvisit, hwritten⟩ := p.visit_writes [saveIssue 2] hmixed (by decide +kernel)
  obtain ⟨tree', hvisit', hwritten'⟩ :=
    p.visit_writes [saveIssue 1] honeLine (by decide +kernel)
  exact ⟨⟨tree, _, hvisit, hwritten, by decide +kernel, by decide +kernel⟩,
    ⟨tree', _, hvisit', hwritten', by decide +kernel, by decide +kernel⟩⟩

end Localizer
end Localize

import Localize.Proofs.Course
import Localize.Proofs.Pieces

/-! The replacements in one file leave each other alone as long as none of them finds its string in
a call that an earlier one put there. Then each owns a span of the file as it was read, no two spans
overlap, and the result is the file with each span replaced by its call. -/

namespace Localize

/-- The lines can be cut into pieces such that each replacement has one span, on the line that it
names, and the final lines are the pieces with every span replaced by its own call. -/
def Undamaged (r : Replacer) (lines : Buffer) (as : List Applied) (final : Buffer) : Prop :=
  ∃ layout : List (List Piece),
    layout.map (·.flatMap Piece.old) = lines ∧ layout.map (·.flatMap (Piece.new r)) = final ∧
    ∀ i, ((layout[i]?.getD []).filterMap Piece.applied?).Perm
      (as.filter (·.replacement.lineIndex = i))

/-- No replacement found its string in text that one before it brought. -/
def StaysClear (r : Replacer) : List Marked → List Applied → Prop
  | _, [] => True
  | lines, a :: as =>
    (∀ c ∈ a.found (lines[a.replacement.lineIndex]?.getD []), c.2 = false) ∧
      StaysClear r (lines.modify a.replacement.lineIndex (a.mark r)) as

/-- In no text do the two overlap. -/
def Apart (call needle : Text) : Prop :=
  ∀ before after left right : Text, before ++ call ++ after = left ++ needle ++ right →
    before.length + call.length ≤ left.length ∨ left.length + needle.length ≤ before.length

/-- No string overlaps a call that was put on its line before. -/
def KeptApart (r : Replacer) (as : List Applied) : Prop :=
  as.Pairwise fun b a => b.replacement.lineIndex = a.replacement.lineIndex →
    Apart (b.braced r) a.issue.string

theorem apart_of_not_mem {call needle : Text} (hcall : call ≠ []) (hneedle : needle ≠ [])
    (h : ∀ c ∈ needle, c ∉ call) : Apart call needle := by
  intro before after left right heq
  have hc := List.length_pos_of_ne_nil hcall
  have hn := List.length_pos_of_ne_nil hneedle
  by_contra hoverlap
  -- the first place that both of them cover
  let n := max before.length left.length
  have hincall : (before ++ call ++ after)[n]? = call[n - before.length]? :=
    Text.getElem?_middle (by omega) (by omega)
  have hinneedle : (left ++ needle ++ right)[n]? = needle[n - left.length]? :=
    Text.getElem?_middle (by omega) (by omega)
  have hlt : n - left.length < needle.length := by omega
  rw [← heq, hincall, List.getElem?_eq_getElem hlt] at hinneedle
  exact h _ (List.getElem_mem hlt) (List.mem_of_getElem? hinneedle)

namespace Piece

variable {r : Replacer}

theorem exists_step {lines : Buffer} {layout : List (List Piece)} {a : Applied}
    (hlines : layout.map (·.flatMap (new r)) = lines)
    (hline : lines[a.replacement.lineIndex]? = some a.replacement.before)
    (hne : a.issue.string ≠ [])
    (hafter : Replacement.substitute? a.replacement.before a.issue.string (r.call a.key) =
      some a.replacement.after)
    (hclear : ∀ c ∈ a.found
      ((layout.map (·.flatMap (marked r)))[a.replacement.lineIndex]?.getD []), c.2 = false) :
    ∃ layout' : List (List Piece),
      layout'.map (·.flatMap old) = layout.map (·.flatMap old) ∧
      layout'.map (·.flatMap (new r)) =
        lines.set a.replacement.lineIndex a.replacement.after ∧
      layout'.map (·.flatMap (marked r)) =
        (layout.map (·.flatMap (marked r))).modify a.replacement.lineIndex (a.mark r) ∧
      ∀ i, ((layout'[i]?.getD []).filterMap applied?).Perm
        ([a].filter (·.replacement.lineIndex = i) ++
          (layout[i]?.getD []).filterMap applied?) := by
  rw [← hlines, List.getElem?_map, Option.map_eq_some_iff] at hline
  obtain ⟨ps, hps, hnew⟩ := hline
  rw [List.getElem?_map, hps] at hclear
  obtain ⟨qs, rs, rfl, hstart, hnew'⟩ := exists_of_substitute? hne hnew hafter hclear
  obtain ⟨hlt, hget⟩ := List.getElem?_eq_some_iff.1 hps
  refine ⟨layout.set a.replacement.lineIndex (qs ++ replaced a :: rs), ?_, ?_, ?_, fun i => ?_⟩
  · have hold : (qs ++ replaced a :: rs).flatMap old =
        (qs ++ (a.span.map kept ++ rs)).flatMap old := by
      rw [List.flatMap_append, List.flatMap_append, List.flatMap_append, flatMap_old_kept]
      rfl
    have hlt' : a.replacement.lineIndex < (layout.map (·.flatMap old)).length := by
      rwa [List.length_map]
    have hsame : (layout.map (·.flatMap old))[a.replacement.lineIndex] =
        (qs ++ (a.span.map kept ++ rs)).flatMap old := by rw [List.getElem_map, hget]
    rw [List.map_set, hold, ← hsame, List.set_getElem_self]
  · rw [List.map_set, hnew', hlines]
  · rw [List.map_set, List.modify_eq_set_getElem?, List.getElem?_map, hps]
    simp only [Option.map_some, Option.map_eq_map, Option.getD_some]
    rw [mark_flatMap_marked hstart]
  · by_cases hi : a.replacement.lineIndex = i
    · subst hi
      rw [List.getElem?_set_self hlt, hps]
      simp only [Option.getD_some, List.filterMap_append, filterMap_applied?_kept]
      simp [applied?]
    · simp [List.getElem?_set_ne hi, hi]

/-- A whole run in a buffer whose lines are in pieces. -/
theorem exists_layout {lines final : Buffer} {as : List Applied} (h : Replay r lines as final)
    {layout : List (List Piece)} (hlines : layout.map (·.flatMap (new r)) = lines)
    (hclear : StaysClear r (layout.map (·.flatMap (marked r))) as) :
    ∃ layout' : List (List Piece),
      layout'.map (·.flatMap old) = layout.map (·.flatMap old) ∧
      layout'.map (·.flatMap (new r)) = final ∧
      ∀ i, ((layout'[i]?.getD []).filterMap applied?).Perm
        (as.filter (·.replacement.lineIndex = i) ++
          (layout[i]?.getD []).filterMap applied?) := by
  induction h generalizing layout with
  | done => exact ⟨layout, rfl, hlines, fun i => .refl _⟩
  | @step lines final a as line nonempty holds after rest ih =>
    obtain ⟨hfound, hrest⟩ := hclear
    obtain ⟨next, hold, hnew, hmarked, hperm⟩ := exists_step hlines line nonempty after hfound
    obtain ⟨last, hold', hnew', hperm'⟩ := ih hnew (hmarked ▸ hrest)
    refine ⟨last, hold'.trans hold, hnew', fun i => (hperm' i).trans ?_⟩
    rw [← List.singleton_append, List.filter_append, List.append_assoc]
    exact ((hperm i).append_left _).trans (List.perm_append_comm_assoc _ _ _)

theorem clear_of_apart {ps : List Piece} {a : Applied}
    (hline : ps.flatMap (new r) = a.replacement.before)
    (hapart : ∀ b ∈ ps.filterMap applied?, Apart (b.braced r) a.issue.string) :
    ∀ c ∈ a.found (ps.flatMap (marked r)), c.2 = false := by
  intro c hc
  unfold Applied.found at hc
  split at hc
  · rename_i before after hcut
    obtain ⟨n, hn⟩ := List.mem_iff_getElem?.1 hc
    obtain ⟨hlt, -⟩ := List.getElem?_eq_some_iff.1 hn
    rw [List.length_take] at hlt
    rw [List.getElem?_take_of_lt (by omega), List.getElem?_drop] at hn
    by_contra hmark
    obtain ⟨qs, b, rs, rfl, hle, hlt'⟩ := exists_of_mark hn (eq_true_of_ne_false hmark)
    have hb := hapart b (List.mem_filterMap.2 ⟨replaced b, by simp, rfl⟩)
    have hsplit := hline.trans (Text.eq_of_cut? hcut)
    rw [List.flatMap_append, List.flatMap_cons, ← List.append_assoc] at hsplit
    have hover := hb _ _ _ _ hsplit
    omega
  · cases hc

/-- Where no string overlaps a call that comes before it on its line, no call is ever hit. -/
theorem staysClear_of_apart {lines final : Buffer} {as : List Applied}
    (h : Replay r lines as final) {layout : List (List Piece)}
    (hlines : layout.map (·.flatMap (new r)) = lines)
    (hbefore : ∀ a ∈ as, ∀ b ∈ (layout[a.replacement.lineIndex]?.getD []).filterMap applied?,
      Apart (b.braced r) a.issue.string)
    (hapart : KeptApart r as) :
    StaysClear r (layout.map (·.flatMap (marked r))) as := by
  induction h generalizing layout with
  | done => trivial
  | @step lines final a as line nonempty holds after rest ih =>
    obtain ⟨hfirst, hrest⟩ := List.pairwise_cons.1 hapart
    have hfound : ∀ c ∈ a.found
        ((layout.map (·.flatMap (marked r)))[a.replacement.lineIndex]?.getD []), c.2 = false := by
      rw [← hlines, List.getElem?_map, Option.map_eq_some_iff] at line
      obtain ⟨ps, hps, hnew⟩ := line
      rw [List.getElem?_map, hps]
      refine clear_of_apart hnew ?_
      simpa [hps] using hbefore a List.mem_cons_self
    obtain ⟨next, -, hnew, hmarked, hperm⟩ := exists_step hlines line nonempty after hfound
    refine ⟨hfound, hmarked ▸ ih hnew (fun b hb c hc => ?_) hrest⟩
    rcases List.mem_append.1 ((hperm _).mem_iff.1 hc) with hc | hc
    · obtain ⟨hc, hi⟩ := List.mem_filter.1 hc
      cases List.mem_singleton.1 hc
      exact hfirst b hb (of_decide_eq_true hi)
    · exact hbefore b (List.mem_cons_of_mem _ hb) c hc

end Piece

def startLayout (lines : Buffer) : List (List Piece) := lines.map (·.map Piece.kept)

theorem startLayout_new (r : Replacer) (lines : Buffer) :
    (startLayout lines).map (·.flatMap (Piece.new r)) = lines := by
  simp [startLayout, Function.comp_def, Piece.flatMap_new_kept]

theorem startLayout_old (lines : Buffer) :
    (startLayout lines).map (·.flatMap Piece.old) = lines := by
  simp [startLayout, Function.comp_def, Piece.flatMap_old_kept]

theorem startLayout_marked (r : Replacer) (lines : Buffer) :
    (startLayout lines).map (·.flatMap (Piece.marked r)) = lines.map Marked.ofLine := by
  simp [startLayout, Function.comp_def, Piece.flatMap_marked_kept]

theorem startLayout_applied (lines : Buffer) (i : Nat) :
    ((startLayout lines)[i]?.getD []).filterMap Piece.applied? = [] := by
  rw [startLayout, List.getElem?_map]
  cases lines[i]? with
  | none => rfl
  | some line => exact Piece.filterMap_applied?_kept line

namespace Replay

variable {r : Replacer} {lines final : Buffer} {as : List Applied}

theorem undamaged (h : Replay r lines as final)
    (hclear : StaysClear r (lines.map Marked.ofLine) as) : Undamaged r lines as final := by
  rw [← startLayout_marked r] at hclear
  obtain ⟨layout, hold, hnew, hperm⟩ := Piece.exists_layout h (startLayout_new r lines) hclear
  refine ⟨layout, hold.trans (startLayout_old lines), hnew, fun i => ?_⟩
  simpa [startLayout_applied] using hperm i

theorem staysClear (h : Replay r lines as final) (hapart : KeptApart r as) :
    StaysClear r (lines.map Marked.ofLine) as := by
  rw [← startLayout_marked r]
  refine Piece.staysClear_of_apart h (startLayout_new r lines) (fun a _ b hb => ?_) hapart
  rw [startLayout_applied] at hb
  cases hb

end Replay

namespace Localizer

/-- The replacements in a file leave each other alone where none of them finds its string in a call
that came before it, and that is so where no string overlaps an earlier call on its line. -/
theorem replacements_undamaged (p : Localizer) (content : Text) (issues : List Issue) :
    (StaysClear p.replacer ((Text.lines content).map Marked.ofLine) (p.replaced content issues) →
      Undamaged p.replacer (Text.lines content) (p.replaced content issues)
        (p.settled content issues).2) ∧
    (KeptApart p.replacer (p.replaced content issues) →
      StaysClear p.replacer ((Text.lines content).map Marked.ofLine)
        (p.replaced content issues)) := by
  have hreplay := p.replay_settleAll (Text.lines content) (bottomUp issues)
  exact ⟨hreplay.undamaged, hreplay.staysClear⟩

def saveOrOpen : Text := "<b title=\"Open\">Save</b>\n".toList

def saveOrOpenIssues : List Issue :=
  [⟨⟨"/app/src/a.tsx".toList⟩, 1, "Save".toList⟩, ⟨⟨"/app/src/a.tsx".toList⟩, 1, "Open".toList⟩]

/-- The keys are numbers, so no string overlaps a call. -/
def numberedKeys : Localizer :=
  ofConfig {} ⟨"/app".toList⟩
    (.ofJson (.object [("1".toList, .string "Save".toList), ("2".toList, .string "Open".toList)]))

theorem settled_saveOrOpen : numberedKeys.settled saveOrOpen saveOrOpenIssues =
    numberedKeys.settleAll (Text.lines saveOrOpen) saveOrOpenIssues := by
  rw [settled, bottomUp, List.mergeSort_of_pairwise (by decide)]

theorem undamaged_saveOrOpen :
    StaysClear numberedKeys.replacer ((Text.lines saveOrOpen).map Marked.ofLine)
      (numberedKeys.replaced saveOrOpen saveOrOpenIssues) ∧
    Undamaged numberedKeys.replacer (Text.lines saveOrOpen)
      (numberedKeys.replaced saveOrOpen saveOrOpenIssues)
      ["<b title=\x7bt(\"2\")\x7d>\x7bt(\"1\")\x7d</b>".toList] := by
  have hfinal : (numberedKeys.settled saveOrOpen saveOrOpenIssues).2 =
      ["<b title=\x7bt(\"2\")\x7d>\x7bt(\"1\")\x7d</b>".toList] := by
    rw [settled_saveOrOpen]
    decide
  have hcalls : (numberedKeys.replaced saveOrOpen saveOrOpenIssues).map
      (fun a => (a.braced numberedKeys.replacer, a.issue.string)) =
      [("\x7bt(\"1\")\x7d".toList, "Save".toList),
        ("\x7bt(\"2\")\x7d".toList, "Open".toList)] := by
    rw [replaced, settled_saveOrOpen]
    decide
  have hnone : "Open".toList.all (· ∉ "\x7bt(\"1\")\x7d".toList) = true := by decide
  have hapart : Apart "\x7bt(\"1\")\x7d".toList "Open".toList :=
    apart_of_not_mem (by decide) (by decide) fun c hc =>
      of_decide_eq_true (List.all_eq_true.1 hnone c hc)
  have hpairs : ((numberedKeys.replaced saveOrOpen saveOrOpenIssues).map
      fun a => (a.braced numberedKeys.replacer, a.issue.string)).Pairwise
      fun b a => Apart b.1 a.2 := by
    rw [hcalls]
    exact List.pairwise_pair.2 hapart
  have hkept : KeptApart numberedKeys.replacer
      (numberedKeys.replaced saveOrOpen saveOrOpenIssues) := by
    refine (List.pairwise_map.1 hpairs).imp ?_
    intro b a h _
    exact h
  obtain ⟨hundamaged, hstays⟩ := replacements_undamaged numberedKeys saveOrOpen saveOrOpenIssues
  have hclear := hstays hkept
  exact ⟨hclear, hfinal ▸ hundamaged hclear⟩

def saveTwice : Text := "<b>Save</b> <i>Save</i>\n".toList

def saveTwiceReport : Text :=
  "src/a.tsx\n  1: Hardcoded string: \"Save\"\n  1: Hardcoded string: \"Save\"\n".toList

def saveTwiceIssues : List Issue :=
  [⟨⟨"/app/src/a.tsx".toList⟩, 1, "Save".toList⟩, ⟨⟨"/app/src/a.tsx".toList⟩, 1, "Save".toList⟩]

def saveMessage : Json := .object [("Save".toList, .string "Save".toList)]

def saveUnderSave : Localizer := ofConfig {} ⟨"/app".toList⟩ (.ofJson saveMessage)

theorem settled_saveTwice : saveUnderSave.settled saveTwice saveTwiceIssues =
    saveUnderSave.settleAll (Text.lines saveTwice) saveTwiceIssues := by
  rw [settled, bottomUp, List.mergeSort_of_pairwise (by decide)]

/-- The second of two equal issues on a line finds its string in the call of the first. -/
theorem replacement_in_earlier_call :
    ¬ ∀ (c : Config) (projectRoot : Path) (messages : Json) (report content : Text), c.IsValid →
      let p := ofConfig c projectRoot (.ofJson messages)
      ∀ group ∈ Issue.groups (p.issues report),
        Undamaged p.replacer (Text.lines content) (p.replaced content group.2)
          (p.settled content group.2).2 := by
  intro h
  have hgroup : (⟨"/app/src/a.tsx".toList⟩, saveTwiceIssues) ∈
      Issue.groups (saveUnderSave.issues saveTwiceReport) := by decide
  obtain ⟨layout, hold, hnew, hperm⟩ :=
    h {} ⟨"/app".toList⟩ saveMessage saveTwiceReport saveTwice (by decide) _ hgroup
  change _ = (saveUnderSave.settled saveTwice saveTwiceIssues).2 at hnew
  have hcalls : ∀ a ∈ saveUnderSave.replaced saveTwice saveTwiceIssues,
      a.braced saveUnderSave.replacer = "\x7bt(\"Save\")\x7d".toList := by
    rw [replaced, settled_saveTwice]
    decide
  have hfinal : (saveUnderSave.settled saveTwice saveTwiceIssues).2 =
      ["<b>".toList ++ "\x7bt(\"\x7bt(\"Save\")\x7d\")\x7d</b> <i>Save</i>".toList] := by
    rw [settled_saveTwice]
    decide
  have hlines : Text.lines saveTwice = ["<b>".toList ++ "Save</b> <i>Save</i>".toList] := by
    decide
  obtain ⟨ps, rfl, hps⟩ := List.map_eq_singleton_iff.1 (hold.trans hlines)
  obtain ⟨qs, rfl, hqs⟩ :=
    Piece.exists_of_starts_with (by decide) (List.cons.inj (hnew.trans hfinal)).1
  rw [List.flatMap_append, Piece.flatMap_old_kept] at hps
  have hrest := List.append_cancel_left hps
  -- the file goes on with the string, and the result with a call that no replacement makes
  cases qs with
  | nil => exact absurd (congrArg List.head? hqs) (by decide)
  | cons piece qs =>
    cases piece with
    | kept c =>
      have hnewc : some c = some '{' := congrArg List.head? hqs
      have holdc : some c = some 'S' := congrArg List.head? hrest
      exact absurd (hnewc.symm.trans holdc) (by decide)
    | replaced a =>
      have ha : a ∈ saveUnderSave.replaced saveTwice saveTwiceIssues :=
        List.mem_of_mem_filter ((hperm 0).mem_iff.1 (by simp [Piece.applied?]))
      have hfifth : (a.braced saveUnderSave.replacer ++ qs.flatMap (Piece.new _))[4]? =
          some '{' := congrArg (·[4]?) hqs
      rw [hcalls a ha, List.getElem?_append_left (by decide)] at hfifth
      exact absurd hfifth (by decide)

end Localizer
end Localize

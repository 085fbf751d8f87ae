import Localize.Proofs.Encoding
import Localize.Proofs.UnstartedLinter
import Localize.Shell.Execution

/-! The launcher that the program is run with. A command that it refuses leaves the files alone, so
a run with such a lint command does nothing. What `echo` prints reaches the run as it was given, so
a run with that lint command is the run over these words. -/

namespace Localize

theorem Text.ne_dash_of_utf8EncodeChar {c : Char} (h : c ≠ '-') :
    ∀ bs, String.utf8EncodeChar c ≠ 45 :: bs := by
  intro bs hbytes
  have hread := decodeBytes_utf8EncodeChar c []
  have hdash : decodeBytes (45 :: (bs ++ [])) = '-' :: decodeBytes (bs ++ []) :=
    decodeBytes_cons (leadByte?_one 45 (by decide)) rfl
  rw [hbytes, List.cons_append, hdash] at hread
  exact h (List.cons.inj hread).1.symm

namespace Shell

namespace Raw

theorem toUInt8_ofNat (b : UInt8) : (Char.ofNat b.toNat).toNat.toUInt8 = b := by
  have hvalid : b.toNat.isValidChar := .inl (Nat.lt_trans b.toNat_lt (by decide))
  rw [Char.ofNat, dif_pos hvalid]
  exact UInt8.ofNat_toNat

theorem toBytes_ofBytes (bytes : ByteArray) : toBytes (ofBytes bytes) = bytes := by
  have hbytes : (ofBytes bytes).map (fun c => c.toNat.toUInt8) = bytes.data.toList := by
    rw [ofBytes, List.map_map, Text.toList_eq]
    exact (List.map_congr_left fun b _ => toUInt8_ofNat b).trans (List.map_id _)
  rw [toBytes, hbytes, Array.toArray_toList]

theorem toBytes_ofText (t : Text) : toBytes (ofText t) = Text.encode t := toBytes_ofBytes _

theorem ofText_eq (t : Text) :
    ofText t = (t.flatMap String.utf8EncodeChar).map fun b => Char.ofNat b.toNat := by
  rw [ofText, ofBytes, Text.toList_encode]

theorem ofText_append (s t : Text) : ofText (s ++ t) = ofText s ++ ofText t := by
  simp only [ofText_eq, List.flatMap_append, List.map_append]

theorem ofText_joined (ts : List Text) :
    Text.joined [' '] (ts.map ofText) = ofText (Text.joined [' '] ts) := by
  induction ts with
  | nil => exact (ofText_eq []).symm
  | cons t ts ih =>
    cases ts with
    | nil => simp [Text.joined_singleton]
    | cons t' ts =>
      rw [List.map_cons, List.map_cons, Text.joined_cons_cons, Text.joined_cons_cons,
        ← List.map_cons, ih, ofText_append, ofText_append, ofText_eq [' ']]
      rfl

end Raw

namespace Program

theorem not_isOption_ofText {t : Text} (h : t.head? ≠ some '-') :
    Echo.isOption (Raw.ofText t) = false := by
  rw [Raw.ofText_eq]
  cases t with
  | nil => rfl
  | cons c t =>
    rw [List.flatMap_cons]
    cases hbytes : String.utf8EncodeChar c with
    | nil => exact absurd hbytes String.utf8EncodeChar_ne_nil
    | cons b bs =>
      have hfirst : Char.ofNat b.toNat ≠ '-' := by
        intro hdash
        have hb : b = 45 := by rw [← Raw.toUInt8_ofNat b, hdash]; rfl
        exact Text.ne_dash_of_utf8EncodeChar (fun hc => h (congrArg some hc)) bs (hb ▸ hbytes)
      rw [Echo.isOption]
      intro x xs heq
      exact hfirst (List.cons.inj heq).1

theorem text_of_plain {args : List Text} (h : ∀ t ∈ args.head?, t.head? ≠ some '-') :
    Echo.text (args.map Raw.ofText) = Raw.ofText (Text.joined [' '] args ++ ['\n']) := by
  have hargs : Echo.arguments {} (args.map Raw.ofText) = ({}, args.map Raw.ofText) := by
    cases args with
    | nil => rfl
    | cons t ts =>
      rw [List.map_cons, Echo.arguments, not_isOption_ofText (h t rfl)]
      rfl
  rw [Echo.text, hargs]
  simp only [Raw.ofText_joined, Raw.ofText_append, Raw.ofText_eq ['\n']]
  rfl

end Program

theorem Act.run_get_bind {α : Type} (f : Machine → Act α) (m : Machine) :
    (get >>= f : Act α).run.run m = (f m).run.run m := rfl

variable {m : Machine} {id : Nat} {world : World}

theorem Act.run_write {stream : Nat} {t : Text} (hstream : m.descriptors.lookup stream = some id)
    (hne : t ≠ []) (hwrite : m.world.write? id t = some world) :
    (write stream t).run.run m = (.ok true, { m with world }) := by
  have hempty : t.isEmpty = false := by simpa using hne
  rw [write, run_get_bind]
  simp only [hempty, hstream, Option.bind_some, hwrite, Bool.false_eq_true, if_false]
  rfl

theorem run_echo {args : List Text} (hstream : m.descriptors.lookup 1 = some id)
    (hne : Program.Echo.text args ≠ [])
    (hwrite : m.world.write? id (Program.Echo.text args) = some world) :
    (Program.Echo.run args).run.run m = (.ok 0, { m with world }) := by
  rw [Program.Echo.run, ExceptT.run_bind, StateT.run_bind, Act.run_write hstream hne hwrite]
  rfl

variable {words args : List Text} {directory : Path} {tree tree' : FileTree} {e : FileError}

theorem tree_of_refused (h : launch words directory tree = (.refused e, tree')) :
    tree' = tree := by
  unfold launch at h
  split at h
  · cases h; rfl
  · dsimp only at h
    split at h
    · cases h; rfl
    · split at h
      · cases h; rfl
      · cases h

theorem launch_of_not_program {name : Text} (directory : Path) (tree : FileTree)
    (hnul : ∀ t ∈ name :: args, '\x00' ∉ t) (hplain : '/' ∉ name)
    (hnone : Program.named? name = none) :
    launch (name :: args) directory tree =
      (.refused (Program.refusal tree directory name), tree) := by
  have hwords : ((name :: args).any fun t => t.contains '\x00') = false := by
    simpa using hnul
  have hslash : name.contains '/' = false := by simpa using hplain
  simp only [launch, hwords, hslash, hnone, Bool.false_eq_true, if_false]

theorem runProgram_echo (n : Nat) (name : Text) (args : List Text) :
    runProgram (n + 1) .echo name args = (do return .code (← Program.Echo.run args)) := by
  rw [runProgram]

/-- Words of which the first is no option are printed with a blank between them. -/
theorem launch_echo (directory : Path) (tree : FileTree) (hnul : ∀ t ∈ args, '\x00' ∉ t)
    (hplain : ∀ t ∈ args.head?, t.head? ≠ some '-') :
    launch ("echo".toList :: args) directory tree =
      (.finished (Text.encode (Text.joined [' '] args ++ ['\n'])) .empty (.code 0), tree) := by
  have hwords : (("echo".toList :: args).any fun t => t.contains '\x00') = false := by
    simpa using hnul
  have hprogram : (if "echo".toList.contains '/' then Program.at? "echo".toList
      else Program.named? "echo".toList) = some .echo := by decide
  have htext := Program.text_of_plain hplain
  have hne : Program.Echo.text (args.map Raw.ofText) ≠ [] := by
    rw [htext, Raw.ofText_append]
    exact List.append_ne_nil_of_right_ne_nil _ (by rw [Raw.ofText_eq]; exact List.cons_ne_nil _ _)
  unfold launch
  dsimp only
  rw [hwords, hprogram]
  simp only [Bool.false_eq_true, if_false]
  -- the first of the steps is all that `echo` needs
  rw [stepLimit, runProgram_echo 99999, ExceptT.run_bind, StateT.run_bind, run_echo rfl hne rfl]
  change (Launch.finished (.empty ++ Raw.toBytes (Program.Echo.text (args.map Raw.ofText))) .empty
    (.code 0), tree) = _
  rw [htext, Raw.toBytes_ofText, ByteArray.empty_append]

end Shell

theorem LintOutput.combine_encode (t : Text) : combine (Text.encode t) .empty = t := by
  have hempty : Text.decodeLossy .empty = [] := Text.decodeLossy_encode []
  rw [combine, Text.decodeLossy_encode, hempty]
  rfl

namespace Localizer

variable {p : Localizer} {args : List Text} {name : Text} {tree tree' : FileTree}

/-- A lint command that prints words is as good as a report of these words. -/
theorem run_of_echo (hcommand : p.lintCommand = "echo".toList :: args)
    (hnul : ∀ t ∈ args, '\x00' ∉ t) (hplain : ∀ t ∈ args.head?, t.head? ≠ some '-')
    (dryRun : Bool) :
    let report := Text.joined [' '] args ++ ['\n']
    let r := p.run Shell.launch .linter dryRun tree
    r.lint.map (·.output.status) = some .success ∧ r.reportText = report ∧
      r.course = (p.run Shell.launch (.text report) dryRun tree).course := by
  intro report r
  have hlaunch := Shell.launch_echo p.projectRoot tree hnul hplain
  have htext : LintOutput.combine (Text.encode report) .empty = report :=
    LintOutput.combine_encode report
  simp only [r, run, hcommand, lint, hlaunch, LintRun.output, LintOutput.ofLaunch]
  exact ⟨rfl, htext, congrArg (p.process dryRun · tree) htext⟩

/-- A lint command that is refused does nothing if its words are on one line. -/
theorem run_of_refused_launch {e : FileError} (hne : p.lintCommand ≠ [])
    (hlf : ∀ t ∈ p.lintCommand, '\n' ∉ t)
    (hrefused : Shell.launch p.lintCommand p.projectRoot tree = (.refused e, tree'))
    (dryRun : Bool) : (p.run Shell.launch .linter dryRun tree).course = ⟨[], none, tree⟩ := by
  obtain rfl := Shell.tree_of_refused hrefused
  obtain ⟨lint, -, hrun⟩ := run_of_refused dryRun hne hrefused
  rw [hrun]
  refine process_of_issues_eq_nil dryRun (Report.parse_eq_nil_iff.2 ?_)
  rw [LintOutput.lines_refusal hlf]
  exact List.pairwise_singleton _ _

theorem run_of_not_program (hcommand : p.lintCommand = name :: args)
    (hnul : ∀ t ∈ name :: args, '\x00' ∉ t) (hlf : ∀ t ∈ name :: args, '\n' ∉ t)
    (hplain : '/' ∉ name) (hnone : Shell.Program.named? name = none) (dryRun : Bool) :
    (p.run Shell.launch .linter dryRun tree).course = ⟨[], none, tree⟩ := by
  have hrefused := Shell.launch_of_not_program p.projectRoot tree hnul hplain hnone
  rw [← hcommand] at hlf hrefused
  exact run_of_refused_launch (by rw [hcommand]; exact List.cons_ne_nil _ _) hlf hrefused dryRun

end Localizer
end Localize

import Localize.Proofs.Printing
import Localize.Proofs.Slices

/-! Where two texts part. Their common start is the longest text that both start with. Counted in
bytes, it ends where the first characters that differ begin, or with the smaller text where none
differ; that is an edge of both texts, so the slices up to there have a result. The caret below a
replaced line stands behind as many columns as the common start of the two lines fills. Where these
are more than the limit there is no caret, and printing breaks off. -/

namespace Localize

/-- The characters of a text, each with the byte at which it begins, counted from `first`. -/
def Text.charIndices (first : Nat) : Text → List (Nat × Char)
  | [] => []
  | c :: cs => (first, c) :: charIndices (first + c.utf8Size) cs

namespace Console

/-- The byte of `a` at which the first character begins that is not the one of `b` in its place. -/
def parting? (first : Nat) (a b : Text) : Option Nat :=
  (((Text.charIndices first a).zip b).find? fun ((_, c), d) => c != d).map fun ((i, _), _) => i

/-- The byte up to which two texts are the same: where they part, or else the size of the smaller
one. -/
def commonEnd (a b : Text) : Nat :=
  (parting? 0 a b).getD (min (Text.byteSize a) (Text.byteSize b))

def gutterLine (width : Nat) (mark : Char) (line : Text) : Text :=
  List.replicate (width - 1) ' ' ++ mark :: ' ' :: '|' :: ' ' :: (line ++ ['\n'])

def placeLines (width : Nat) (path : Text) (number : Nat) : Text :=
  "  --> ".toList ++ path ++ ':' :: (Text.ofNat number ++ '\n' ::
    (List.replicate width ' ' ++ " |\n".toList))

/-- The place of a replacement, the line as it was, and as it is. -/
def comparison (width : Nat) (path : Text) (r : Replacement) : Text :=
  placeLines width path (r.lineIndex + 1) ++
    (gutterLine width '-' r.before ++ gutterLine width '+' r.after)

def caretLines (width column : Nat) (key : Text) : Text :=
  gutterLine width ' ' (List.replicate column ' ' ++ '^' :: ' ' :: key) ++ ['\n']

/-- Replacements as they are shown, each with a caret where the change begins, and the text behind
them. The first one without room for its caret is the last that is shown. -/
def shown (width : Nat) (path behind : Text) : List Applied → Text
  | [] => behind
  | x :: xs =>
    let column := Text.width (commonStart x.replacement.before x.replacement.after)
    comparison width path x.replacement ++
      if column ≤ widthLimit then caretLines width column x.key ++ shown width path behind xs
      else []

variable {a b t : Text} {width : Nat}

theorem commonStart_nil_left (b : Text) : commonStart [] b = [] := rfl

theorem commonStart_nil_right (a : Text) : commonStart a [] = [] := by
  cases a <;> rfl

theorem isPrefix_commonStart_iff : t <+: commonStart a b ↔ t <+: a ∧ t <+: b := by
  induction a generalizing b t with
  | nil =>
    rw [commonStart_nil_left, List.prefix_nil, iff_self_and]
    rintro rfl
    exact List.nil_prefix
  | cons c a ih =>
    cases b with
    | nil =>
      rw [commonStart_nil_right, List.prefix_nil, iff_and_self]
      rintro rfl
      exact List.nil_prefix
    | cons d b =>
      cases t with
      | nil => simp
      | cons e t =>
        rw [commonStart]
        by_cases hcd : c = d
        · rw [if_pos hcd, ← hcd, List.cons_prefix_cons, List.cons_prefix_cons,
            List.cons_prefix_cons, ih, and_and_left]
        · rw [if_neg hcd, List.prefix_nil]
          refine iff_of_false (List.cons_ne_nil e t) fun ⟨ha, hb⟩ => hcd ?_
          exact (List.cons_prefix_cons.1 ha).1.symm.trans (List.cons_prefix_cons.1 hb).1

theorem commonStart_isPrefix_left (a b : Text) : commonStart a b <+: a :=
  (isPrefix_commonStart_iff.1 List.prefix_rfl).1

theorem commonStart_isPrefix_right (a b : Text) : commonStart a b <+: b :=
  (isPrefix_commonStart_iff.1 List.prefix_rfl).2

theorem commonStart_comm (a b : Text) : commonStart a b = commonStart b a := by
  have hle (a b : Text) : commonStart a b <+: commonStart b a :=
    isPrefix_commonStart_iff.2 ⟨commonStart_isPrefix_right a b, commonStart_isPrefix_left a b⟩
  exact (hle a b).eq_of_length_le (hle b a).length_le

theorem commonStart_append (t a b : Text) :
    commonStart (t ++ a) (t ++ b) = t ++ commonStart a b := by
  induction t with
  | nil => rfl
  | cons c t ih => rw [List.cons_append, List.cons_append, commonStart, if_pos rfl, ih,
      List.cons_append]

/-- The bytes before the place where the texts part are those of their common start. -/
theorem parting?_getD (first : Nat) (a b : Text) :
    (parting? first a b).getD (first + min (Text.byteSize a) (Text.byteSize b)) =
      first + Text.byteSize (commonStart a b) := by
  -- `first` is the size of what both texts have had in common so far
  induction a generalizing first b with
  | nil => simp [parting?, Text.charIndices, commonStart_nil_left, Text.byteSize]
  | cons c a ih =>
    cases b with
    | nil => simp [parting?, commonStart_nil_right, Text.byteSize]
    | cons d b =>
      by_cases hcd : c = d
      · subst hcd
        have hskip : parting? first (c :: a) (c :: b) = parting? (first + c.utf8Size) a b := by
          simp [parting?, Text.charIndices]
        rw [hskip, commonStart, if_pos rfl, Text.byteSize_cons, Text.byteSize_cons,
          Text.byteSize_cons, Nat.add_min_add_left, ← Nat.add_assoc, ih, Nat.add_assoc]
      · have hstop : parting? first (c :: a) (d :: b) = some first := by
          simp [parting?, Text.charIndices, hcd]
        rw [hstop, commonStart, if_neg hcd]
        rfl

theorem commonEnd_eq (a b : Text) : commonEnd a b = Text.byteSize (commonStart a b) := by
  have h := parting?_getD 0 a b
  rwa [Nat.zero_add, Nat.zero_add] at h

theorem isEdge_commonEnd (a b : Text) : Text.isEdge a (commonEnd a b) = true := by
  obtain ⟨back, hback⟩ := commonStart_isPrefix_left a b
  exact Text.isEdge_iff.2 ⟨commonStart a b, back, hback.symm, (commonEnd_eq a b).symm⟩

theorem sliceTo?_commonEnd (a b : Text) :
    Text.sliceTo? a (commonEnd a b) = some (commonStart a b) := by
  obtain ⟨back, hback⟩ := commonStart_isPrefix_left a b
  exact Text.sliceTo?_eq_some_iff.2 ⟨back, hback.symm, (commonEnd_eq a b).symm⟩

theorem replicate_pred_append (h : 1 ≤ width) (t : Text) :
    List.replicate (width - 1) ' ' ++ ' ' :: t = List.replicate width ' ' ++ t := by
  obtain ⟨n, rfl⟩ := Nat.exists_eq_add_of_le' h
  rw [Nat.add_sub_cancel, List.replicate_succ', List.append_assoc, List.singleton_append]

theorem one_le_gutter (c : FileChange) : 1 ≤ gutter c := by
  unfold gutter
  cases hmax : (c.replacements.map fun a =>
      (Text.ofNat (a.replacement.lineIndex + 1)).length).max? with
  | none => exact Nat.le_refl 1
  | some n =>
    obtain ⟨a, -, rfl⟩ := List.mem_map.1 (List.max?_mem hmax)
    exact List.length_pos_iff.2 (Text.ofNat_ne_nil _)

-- stated, as `simp` takes seconds to find this equation itself
theorem placeLines_eq (width : Nat) (path : Text) (number : Nat) :
    placeLines width path number =
      "  --> ".toList ++ path ++ ':' :: (Text.ofNat number ++ '\n' ::
        (List.replicate width ' ' ++ " |\n".toList)) := rfl

/-- A replacement is shown, and what is written behind it if there is room for its caret. -/
theorem written_replacementLines (hpos : 1 ≤ width) (h : width ≤ widthLimit) (path : Text)
    (x : Applied) (ws : List Write) :
    paint false (written (replacementLines path width x ++ ws)) =
      comparison width path x.replacement ++
        if caretColumn x.replacement ≤ widthLimit then
          caretLines width (caretColumn x.replacement) x.key ++ paint false (written ws)
        else [] := by
  split
  · rename_i hcolumn
    simp [replacementLines, markedLine, caretLine, written, paint, padLeft?_of_le h,
      padLeft?_of_le hcolumn, comparison, placeLines_eq, gutterLine, caretLines, Piece.text, plain,
      styled, newline, replicate_pred_append hpos]
  · rename_i hcolumn
    have hnone : caretLine width x = none :=
      caretLine_eq_none_iff.2 (.inr (Nat.lt_of_not_le hcolumn))
    simp [replacementLines, markedLine, hnone, written, paint, padLeft?_of_le h, comparison,
      placeLines_eq, gutterLine, Piece.text, plain, styled, newline]

theorem written_flatMap_replacementLines (hpos : 1 ≤ width) (h : width ≤ widthLimit) (path : Text)
    (xs : List Applied) (ws : List Write) :
    paint false (written (xs.flatMap (replacementLines path width) ++ ws)) =
      shown width path (paint false (written ws)) xs := by
  induction xs with
  | nil => rfl
  | cons x xs ih =>
    rw [List.flatMap_cons, List.append_assoc, written_replacementLines hpos h, ih]
    rfl

/-- Both texts start with their common start and with nothing longer, whichever of them comes first.
Its end in bytes is an edge of the text, so the slice up to there has a result, and it is the common
start. In the report of a change the caret stands behind as many columns as the common start of the
line before the change and after it fills. Only where these are more than the limit there is no
caret, and printing breaks off. -/
theorem common_start_longest (a b : Text) :
    Text.isEdge a (commonEnd a b) = true ∧
    Text.sliceTo? a (commonEnd a b) = some (commonStart a b) ∧
    (∀ t, t <+: commonStart a b ↔ t <+: a ∧ t <+: b) ∧
    Text.sliceTo? b (commonEnd b a) = Text.sliceTo? a (commonEnd a b) ∧
    ∀ projectRoot c, (∀ x ∈ c.replacements, x.replacement.lineIndex < Text.wordLimit) →
      let path := shownPath projectRoot c.path
      paint false (written (changeLines projectRoot c)) =
        shown (gutter c) path (paint false (augmentationLines path c.augmentation))
          c.replacements ∧
      (breaksOff (changeLines projectRoot c) = true ↔ ∃ x ∈ c.replacements,
        widthLimit < Text.width (commonStart x.replacement.before x.replacement.after)) := by
  refine ⟨isEdge_commonEnd a b, sliceTo?_commonEnd a b, fun t => isPrefix_commonStart_iff, ?_, ?_⟩
  · rw [sliceTo?_commonEnd, sliceTo?_commonEnd, commonStart_comm]
  · intro projectRoot c hindex path
    have hgutter := gutter_le_widthLimit hindex
    constructor
    · rw [changeLines, written_flatMap_replacementLines (one_le_gutter c) hgutter,
        written_singleton]
    · rw [breaksOff_iff, none_mem_changeLines]
      simp only [Nat.not_lt.2 hgutter, false_or]
      rfl

def wideReplacement : Applied :=
  ⟨⟨⟨"/p/src/a.tsx".toList⟩, 12, "Save".toList⟩, "save".toList,
    ⟨11, "<p>日本 Save</p>".toList, "<p>日本 \x7bt(\"save\")\x7d</p>".toList⟩⟩

def farReplacement (n : Nat) : Replacement :=
  ⟨0, List.replicate n 'x' ++ "Save".toList,
    List.replicate n 'x' ++ "\x7bt(\"save\")\x7d".toList⟩

theorem width_farReplacement (n : Nat) :
    Text.width (commonStart (farReplacement n).before (farReplacement n).after) = n := by
  have hcommon : commonStart (farReplacement n).before (farReplacement n).after =
      List.replicate n 'x' := by
    rw [farReplacement, commonStart_append]
    exact List.append_nil _
  rw [hcommon, Text.width_of_printable, List.length_replicate]
  intro c hc
  rw [List.eq_of_mem_replicate hc]
  decide

/-- The first caret stands below the brace, and there is no room for the second one. -/
theorem common_start_longest_two_carets :
    let path : Text := "src/a.tsx".toList
    let far : Applied := { wideReplacement with replacement := farReplacement 65536 }
    let c : FileChange := ⟨⟨"/p/src/a.tsx".toList⟩, [wideReplacement, far], ⟨true, false⟩⟩
    (∀ x ∈ c.replacements, x.replacement.lineIndex < Text.wordLimit) ∧
      paint false (written (changeLines ⟨"/p".toList⟩ c)) =
        comparison 2 path wideReplacement.replacement ++ (caretLines 2 8 "save".toList ++
          comparison 2 path (farReplacement 65536)) ∧
      breaksOff (changeLines ⟨"/p".toList⟩ c) = true := by
  intro path far c
  have hindex : ∀ x ∈ c.replacements, x.replacement.lineIndex < Text.wordLimit := by
    have hrows : wideReplacement.replacement.lineIndex = 11 ∧ far.replacement.lineIndex = 0 :=
      ⟨rfl, rfl⟩
    simp [c, hrows, Text.wordLimit]
  obtain ⟨-, -, -, -, hshown⟩ := common_start_longest [] []
  obtain ⟨htext, hbreaks⟩ := hshown ⟨"/p".toList⟩ c hindex
  have hwide : Text.width (commonStart wideReplacement.replacement.before
      wideReplacement.replacement.after) = 8 := by decide +kernel
  have hfar := width_farReplacement 65536
  refine ⟨hindex, ?_, hbreaks.2 ⟨far, .tail _ (.head _), ?_⟩⟩
  · have hpath : shownPath ⟨"/p".toList⟩ c.path = path := by decide
    have hgutter : gutter c = 2 := by decide +kernel
    rw [htext, hpath, hgutter, shown, hwide, if_pos (by decide), shown, hfar, if_neg (by decide),
      List.append_nil]
    rfl
  · rw [hfar]
    decide

/-- The characters that both texts start with have three bytes each. -/
example : commonEnd "日本語".toList "日本".toList = 6 ∧
    commonStart "日本語".toList "日本".toList = "日本".toList := by decide

end Console
end Localize

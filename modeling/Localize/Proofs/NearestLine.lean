import Mathlib.Data.Nat.Dist
import Localize.Proofs.Replacement

/-! The line that a string is looked for on is the nearest one to the claimed line that holds it, and
the later of two at one distance; where none is near enough it is the first one of all. The search
goes outwards from the claimed line by offsets. The offsets that it leaves out lead to no line, and
neither do sums that are too large for 64 bits, so nothing is missed. -/

namespace Localize.Replacement

variable {lines : Buffer} {claimed radius i : Nat} {needle : Text}

/-- How far the line with this index is from the claimed one, which counts from one. -/
def distance (claimed i : Nat) : Nat := Nat.dist (i + 1) claimed

/-- No line that holds the needle is nearer, and none at the same distance comes later. -/
structure Nearest (lines : Buffer) (claimed : Nat) (needle : Text) (i : Nat) : Prop where
  holds : Holds lines needle i
  nearest : ∀ j, Holds lines needle j → distance claimed i ≤ distance claimed j
  latest : ∀ j, Holds lines needle j → distance claimed j = distance claimed i → j ≤ i

/-- The nearest line within the radius, or else the first one of all. -/
inductive Chosen (lines : Buffer) (claimed : Nat) (needle : Text) (radius i : Nat) : Prop
  | near (nearest : Nearest lines claimed needle i) (within : distance claimed i ≤ radius)
  | first (holds : Holds lines needle i) (first : ∀ j, Holds lines needle j → i ≤ j)
      (far : ∀ j, Holds lines needle j → radius < distance claimed j)

/-- The lines at one distance from the claimed one, the later of the two first. -/
def around (lines : Buffer) (claimed : Nat) (needle : Text) (offset : Nat) : Option Nat :=
  hit? lines needle (claimed + offset) <|> hit? lines needle (claimed - offset)

/-- The claimed line is the one at offset zero. -/
def near? (lines : Buffer) (claimed : Nat) (needle : Text) (radius : Nat) : Option Nat :=
  (0 :: offsets lines.length claimed radius).findSome? (around lines claimed needle)

/-- The sum of two numbers that are held in 64 bits, if it fits. -/
def sum? (a b : Nat) : Option Nat := if a + b < Text.wordLimit then some (a + b) else none

def difference? (a b : Nat) : Option Nat := if b ≤ a then some (a - b) else none

/-- The search with numbers that are held in 64 bits: what cannot be computed is of no line. -/
def locateInWords? (lines : Buffer) (claimed : Nat) (needle : Text) (radius : Nat) : Option Nat :=
  if needle = [] then none
  else hit? lines needle claimed <|>
    (offsets lines.length claimed radius).findSome? (fun offset =>
      (sum? claimed offset).bind (hit? lines needle) <|>
        (difference? claimed offset).bind (hit? lines needle)) <|>
    lines.findIdx? (Text.includes · needle)

theorem Chosen.holds (h : Chosen lines claimed needle radius i) : Holds lines needle i := by
  cases h with
  | near nearest => exact nearest.holds
  | first holds => exact holds

theorem hit?_eq_none_iff {number : Nat} :
    hit? lines needle number = none ↔ ∀ j, Holds lines needle j → number ≠ j + 1 := by
  rw [Option.eq_none_iff_forall_ne_some]
  simp only [ne_eq, hit?_eq_some, not_and]
  exact forall_congr' fun j => ⟨fun h hj hn => h hn hj, fun h hn hj => h hj hn⟩

theorem around_eq_none_iff {offset : Nat} :
    around lines claimed needle offset = none ↔
      ∀ j, Holds lines needle j → distance claimed j ≠ offset := by
  simp only [around, Option.orElse_eq_orElse, Option.orElse_eq_or, Option.or_eq_none_iff,
    hit?_eq_none_iff, ← forall_and, distance, Nat.dist]
  refine forall_congr' fun j => imp_congr_right fun hj => ?_
  omega

theorem of_around_eq_some {offset : Nat} (h : around lines claimed needle offset = some i) :
    Holds lines needle i ∧ distance claimed i = offset ∧
      ∀ j, Holds lines needle j → distance claimed j = offset → j ≤ i := by
  simp only [around, Option.orElse_eq_orElse, Option.orElse_eq_or, Option.or_eq_some_iff,
    hit?_eq_some, hit?_eq_none_iff] at h
  simp only [distance, Nat.dist]
  rcases h with ⟨hnumber, hi⟩ | ⟨hafter, hnumber, hi⟩
  · refine ⟨hi, by omega, fun j hj hdist => ?_⟩
    omega
  · refine ⟨hi, by omega, fun j hj hdist => ?_⟩
    -- A later line at this distance would be the one behind the claimed line.
    have hnone := hafter j hj
    omega

/-- Within the radius no offset is left out at which there is a line. -/
theorem distance_mem_offsets (hi : i < lines.length) (hradius : distance claimed i ≤ radius) :
    distance claimed i ∈ 0 :: offsets lines.length claimed radius := by
  simp only [distance, Nat.dist] at hradius ⊢
  rw [List.mem_cons, offsets, List.mem_range'_1]
  omega

theorem le_radius_of_mem_offsets {size offset : Nat} (h : offset ∈ 0 :: offsets size claimed radius) :
    offset ≤ radius := by
  rw [List.mem_cons, offsets, List.mem_range'_1] at h
  omega

theorem pairwise_offsets (size claimed radius : Nat) :
    (0 :: offsets size claimed radius).Pairwise (· < ·) := by
  refine List.pairwise_cons.2 ⟨fun offset h => ?_, List.pairwise_lt_range' 1⟩
  rw [offsets, List.mem_range'_1] at h
  omega

theorem length_offsets_le (size claimed radius : Nat) :
    (offsets size claimed radius).length ≤ size + 1 := by
  rw [offsets, List.length_range']
  omega

theorem Nearest.unique {j : Nat} (hi : Nearest lines claimed needle i)
    (hj : Nearest lines claimed needle j) : i = j := by
  have hdist : distance claimed i = distance claimed j :=
    Nat.le_antisymm (hi.nearest j hj.holds) (hj.nearest i hi.holds)
  exact Nat.le_antisymm (hj.latest i hi.holds hdist) (hi.latest j hj.holds hdist.symm)

theorem near?_eq_none_iff :
    near? lines claimed needle radius = none ↔
      ∀ j, Holds lines needle j → radius < distance claimed j := by
  simp only [near?, List.findSome?_eq_none_iff, around_eq_none_iff]
  constructor
  · intro h j hj
    by_contra hnear
    exact h _ (distance_mem_offsets hj.lt_length (Nat.le_of_not_lt hnear)) j hj rfl
  · intro h offset hmem j hj hdist
    have hfar := h j hj
    have hle := le_radius_of_mem_offsets hmem
    omega

theorem nearest_of_near? (h : near? lines claimed needle radius = some i) :
    Nearest lines claimed needle i ∧ distance claimed i ≤ radius := by
  obtain ⟨before, offset, after, hsplit, hfound, hbefore⟩ := List.findSome?_eq_some_iff.1 h
  obtain ⟨hi, rfl, hlatest⟩ := of_around_eq_some hfound
  have hoffset : distance claimed i ∈ 0 :: offsets lines.length claimed radius := by
    rw [hsplit]
    exact List.mem_append_right before List.mem_cons_self
  have hradius := le_radius_of_mem_offsets hoffset
  refine ⟨⟨hi, fun j hj => ?_, hlatest⟩, hradius⟩
  by_contra hlt
  -- A smaller distance is tried before, as the offsets ascend.
  have hmem : distance claimed j ∈ 0 :: offsets lines.length claimed radius :=
    distance_mem_offsets hj.lt_length (by omega)
  have hsorted := pairwise_offsets lines.length claimed radius
  rw [hsplit] at hmem hsorted
  rcases List.mem_append.1 hmem with hmem | hmem
  · exact around_eq_none_iff.1 (hbefore _ hmem) j hj rfl
  · have hle : distance claimed i ≤ distance claimed j := by
      rcases List.mem_cons.1 hmem with heq | hmem
      · exact Nat.le_of_eq heq.symm
      · exact Nat.le_of_lt ((List.pairwise_cons.1 (List.pairwise_append.1 hsorted).2.1).1 _ hmem)
    exact hlt hle

theorem near?_eq_some_iff :
    near? lines claimed needle radius = some i ↔
      Nearest lines claimed needle i ∧ distance claimed i ≤ radius := by
  refine ⟨nearest_of_near?, fun ⟨hnearest, hradius⟩ => ?_⟩
  cases hnear : near? lines claimed needle radius with
  | none =>
    have hfar := near?_eq_none_iff.1 hnear i hnearest.holds
    omega
  | some j => rw [(nearest_of_near? hnear).1.unique hnearest]

theorem findIdx?_includes_eq_none_iff :
    lines.findIdx? (Text.includes · needle) = none ↔ ∀ j, ¬ Holds lines needle j := by
  simp only [List.findIdx?_eq_none_iff, Bool.eq_false_iff, ne_eq, Text.includes_iff]
  constructor
  · rintro h j ⟨line, hline, hin⟩
    exact h line (List.mem_of_getElem? hline) hin
  · intro h line hmem hin
    obtain ⟨j, hj⟩ := List.mem_iff_getElem?.1 hmem
    exact h j ⟨line, hj, hin⟩

theorem findIdx?_includes_eq_some_iff :
    lines.findIdx? (Text.includes · needle) = some i ↔
      Holds lines needle i ∧ ∀ j, Holds lines needle j → i ≤ j := by
  rw [List.findIdx?_eq_some_iff_getElem]
  simp only [Text.includes_iff]
  constructor
  · rintro ⟨hi, hin, hbefore⟩
    refine ⟨⟨lines[i], List.getElem?_eq_getElem hi, hin⟩, ?_⟩
    rintro j ⟨line, hline, hj⟩
    by_contra hlt
    obtain ⟨hlength, rfl⟩ := List.getElem?_eq_some_iff.1 hline
    exact hbefore j (by omega) hj
  · rintro ⟨⟨line, hline, hin⟩, hfirst⟩
    obtain ⟨hi, rfl⟩ := List.getElem?_eq_some_iff.1 hline
    refine ⟨hi, hin, fun j hji hj => ?_⟩
    have hle := hfirst j ⟨lines[j], List.getElem?_eq_getElem (by omega), hj⟩
    omega

theorem locate?_eq : locate? lines claimed needle radius =
    if needle = [] then none
    else near? lines claimed needle radius <|> lines.findIdx? (Text.includes · needle) := by
  have hclaimed : around lines claimed needle 0 = hit? lines needle claimed := by
    cases h : hit? lines needle claimed <;> simp [around, h]
  rw [locate?, near?, List.findSome?_cons, hclaimed]
  cases hit? lines needle claimed <;> rfl

theorem locate?_eq_none_iff :
    locate? lines claimed needle radius = none ↔ needle = [] ∨ ∀ j, ¬ Holds lines needle j := by
  rw [locate?_eq]
  by_cases hne : needle = []
  · simp [hne]
  · rw [if_neg hne]
    simp only [hne, false_or, Option.orElse_eq_orElse, Option.orElse_eq_or,
      Option.or_eq_none_iff, near?_eq_none_iff, findIdx?_includes_eq_none_iff]
    exact ⟨fun h => h.2, fun h => ⟨fun j hj => absurd hj (h j), h⟩⟩

theorem locate?_eq_some_iff :
    locate? lines claimed needle radius = some i ↔
      needle ≠ [] ∧ Chosen lines claimed needle radius i := by
  rw [locate?_eq]
  by_cases hne : needle = []
  · simp [hne]
  · rw [if_neg hne]
    simp only [ne_eq, hne, not_false_eq_true, true_and, Option.orElse_eq_orElse,
      Option.orElse_eq_or, Option.or_eq_some_iff, near?_eq_some_iff, near?_eq_none_iff,
      findIdx?_includes_eq_some_iff]
    constructor
    · rintro (⟨hnearest, hwithin⟩ | ⟨hfar, hi, hfirst⟩)
      · exact .near hnearest hwithin
      · exact .first hi hfirst hfar
    · rintro (⟨hnearest, hwithin⟩ | ⟨hi, hfirst, hfar⟩)
      · exact .inl ⟨hnearest, hwithin⟩
      · exact .inr ⟨hfar, hi, hfirst⟩

theorem holds_of_locate? (h : locate? lines claimed needle radius = some i) :
    needle ≠ [] ∧ Holds lines needle i := by
  obtain ⟨hne, hchosen⟩ := locate?_eq_some_iff.1 h
  exact ⟨hne, hchosen.holds⟩

/-- A sum that does not fit is larger than the number of every line. -/
theorem bind_sum? (hlength : lines.length < Text.wordLimit) (offset : Nat) :
    (sum? claimed offset).bind (hit? lines needle) = hit? lines needle (claimed + offset) := by
  by_cases hfits : claimed + offset < Text.wordLimit
  · rw [sum?, if_pos hfits, Option.bind_some]
  · rw [sum?, if_neg hfits, Option.bind_none, eq_comm, hit?_eq_none_iff]
    intro j hj
    have hlt := hj.lt_length
    omega

theorem bind_difference? (offset : Nat) :
    (difference? claimed offset).bind (hit? lines needle) = hit? lines needle (claimed - offset) := by
  by_cases hle : offset ≤ claimed
  · rw [difference?, if_pos hle, Option.bind_some]
  · rw [difference?, if_neg hle, Option.bind_none, Nat.sub_eq_zero_of_le (by omega)]
    rfl

theorem locateInWords?_eq (hlength : lines.length < Text.wordLimit) :
    locateInWords? lines claimed needle radius = locate? lines claimed needle radius := by
  simp only [locateInWords?, locate?, bind_sum? hlength, bind_difference?]

/-- The search gives nothing exactly if the needle is empty or on no line. Otherwise it gives the
nearest line within the radius, the later one of two, and the first line of all if there is none.
It tries no more than one offset for each line and one more, and the offsets and all that is computed
with them fit in 64 bits or are of no line. -/
theorem located_line_is_nearest (lines : Buffer) (claimed : Nat) (needle : Text) (radius : Nat) :
    (locate? lines claimed needle radius = none ↔ needle = [] ∨ ∀ j, ¬ Holds lines needle j) ∧
    (∀ i, locate? lines claimed needle radius = some i ↔
      needle ≠ [] ∧ Chosen lines claimed needle radius i) ∧
    (offsets lines.length claimed radius).length ≤ lines.length + 1 ∧
    (lines.length < Text.wordLimit → radius < Text.wordLimit →
      (∀ offset ∈ offsets lines.length claimed radius, offset < Text.wordLimit) ∧
      locateInWords? lines claimed needle radius = locate? lines claimed needle radius) := by
  refine ⟨locate?_eq_none_iff, fun i => locate?_eq_some_iff, length_offsets_le _ _ _,
    fun hlength hradius => ⟨fun offset hmem => ?_, locateInWords?_eq hlength⟩⟩
  have hle := le_radius_of_mem_offsets (List.mem_cons_of_mem 0 hmem)
  omega

def threeLines : Buffer := ["<p>Hi</p>".toList, "<div />".toList, "<i>Hi</i>".toList]

/-- From the last line that can be claimed, the search has to go all the way back to the end. -/
theorem located_line_behind_the_end :
    threeLines.length < Text.wordLimit ∧ Text.wordLimit - 1 < Text.wordLimit ∧
      locateInWords? threeLines (Text.wordLimit - 1) "Hi".toList (Text.wordLimit - 1) = some 2 ∧
      Chosen threeLines (Text.wordLimit - 1) "Hi".toList (Text.wordLimit - 1) 2 := by
  have hlength : threeLines.length < Text.wordLimit := by decide
  have hradius : Text.wordLimit - 1 < Text.wordLimit := by decide
  have hlocated : locate? threeLines (Text.wordLimit - 1) "Hi".toList (Text.wordLimit - 1) =
      some 2 := by decide +kernel
  obtain ⟨-, hsome, -, hwords⟩ := located_line_is_nearest threeLines (Text.wordLimit - 1)
    "Hi".toList (Text.wordLimit - 1)
  exact ⟨hlength, hradius, (hwords hlength hradius).2.trans hlocated,
    ((hsome 2).1 hlocated).2⟩

end Localize.Replacement

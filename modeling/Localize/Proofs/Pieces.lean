import Localize.Proofs.Settling

/-! A line in pieces: the characters that were kept and the calls that were put in. A string that is
found in no call is found in kept characters, and so its own call breaks no other. -/

namespace Localize

/-- A line in pieces: a character that was kept, or a span with a call in its place. -/
inductive Piece where
  | kept (c : Char)
  | replaced (a : Applied)

/-- What a replacement takes out of its line: its string, with the double quotes around it where it
is a whole attribute value. -/
def Applied.span (a : Applied) : Text :=
  match Text.cut? a.issue.string a.replacement.before with
  | some (before, _) =>
    if Replacement.opensAttribute before then '"' :: a.issue.string ++ ['"'] else a.issue.string
  | none => a.issue.string

def Applied.start (a : Applied) : Nat :=
  match Text.cut? a.issue.string a.replacement.before with
  | some (before, _) =>
    if Replacement.opensAttribute before then before.length - 1 else before.length
  | none => 0

def Applied.braced (r : Replacer) (a : Applied) : Text := Replacement.braced (r.call a.key)

namespace Piece

def old : Piece → Text
  | kept c => [c]
  | replaced a => a.span

def new (r : Replacer) : Piece → Text
  | kept c => [c]
  | replaced a => a.braced r

def applied? : Piece → Option Applied
  | kept _ => none
  | replaced a => some a

end Piece

/-- The characters of a line, each with whether a call brought it. -/
abbrev Marked := List (Char × Bool)

def Marked.ofLine (line : Text) : Marked := line.map (·, false)

/-- The part of a line in which the string of a replacement was found. -/
def Applied.found (a : Applied) (line : Marked) : Marked :=
  match Text.cut? a.issue.string a.replacement.before with
  | some (before, _) => (line.drop before.length).take a.issue.string.length
  | none => []

/-- The line with the call in place of the span. -/
def Applied.mark (r : Replacer) (a : Applied) (line : Marked) : Marked :=
  line.take a.start ++ (a.braced r).map (·, true) ++ line.drop (a.start + a.span.length)

namespace Piece

def marked (r : Replacer) : Piece → Marked
  | kept c => [(c, false)]
  | replaced a => (a.braced r).map (·, true)

theorem fst_marked (r : Replacer) (p : Piece) : (p.marked r).map Prod.fst = p.new r := by
  cases p with
  | kept c => rfl
  | replaced a => simp [marked, new, Function.comp_def]

theorem fst_flatMap_marked (r : Replacer) (ps : List Piece) :
    (ps.flatMap (marked r)).map Prod.fst = ps.flatMap (new r) := by
  rw [List.map_flatMap]
  exact congrArg (ps.flatMap ·) (funext (fst_marked r))

theorem length_flatMap_marked (r : Replacer) (ps : List Piece) :
    (ps.flatMap (marked r)).length = (ps.flatMap (new r)).length := by
  rw [← fst_flatMap_marked, List.length_map]

theorem marked_true {a : Applied} {c : Char × Bool} (r : Replacer)
    (h : c ∈ (replaced a).marked r) : c.2 = true := by
  obtain ⟨_, -, rfl⟩ := List.mem_map.1 h
  rfl

theorem flatMap_kept {α : Type} {f : Piece → List α} {g : Char → α}
    (hf : ∀ c, f (kept c) = [g c]) (t : Text) : (t.map kept).flatMap f = t.map g := by
  induction t with
  | nil => rfl
  | cons c t ih => rw [List.map_cons, List.flatMap_cons, hf, ih]; rfl

theorem flatMap_old_kept (t : Text) : (t.map kept).flatMap old = t :=
  (flatMap_kept (fun _ => rfl) t).trans (List.map_id t)

theorem flatMap_new_kept (r : Replacer) (t : Text) : (t.map kept).flatMap (new r) = t :=
  (flatMap_kept (fun _ => rfl) t).trans (List.map_id t)

theorem flatMap_marked_kept (r : Replacer) (t : Text) :
    (t.map kept).flatMap (marked r) = Marked.ofLine t :=
  flatMap_kept (fun _ => rfl) t

theorem filterMap_applied?_kept (t : Text) : (t.map kept).filterMap applied? = [] := by
  induction t with
  | nil => rfl
  | cons c t ih => exact ih

variable {r : Replacer}

theorem exists_of_clear_prefix {ps : List Piece} {clear rest : Marked}
    (h : ps.flatMap (marked r) = clear ++ rest) (hclear : ∀ c ∈ clear, c.2 = false) :
    ∃ back, ps = (clear.map Prod.fst).map kept ++ back ∧ back.flatMap (marked r) = rest := by
  induction clear generalizing ps with
  | nil => exact ⟨ps, rfl, h⟩
  | cons c clear ih =>
    cases ps with
    | nil => cases h
    | cons p ps =>
      cases p with
      | kept d =>
        obtain ⟨hd, htail⟩ := List.cons.inj h
        obtain ⟨back, rfl, hback⟩ := ih htail fun c hc => hclear c (List.mem_cons_of_mem _ hc)
        exact ⟨back, by rw [← hd]; rfl, hback⟩
      | replaced a =>
        have hc := (List.cons.inj h).1
        have hfalse := hclear c List.mem_cons_self
        rw [← hc] at hfalse
        cases hfalse

theorem exists_of_clear {ps : List Piece} {front clear back : Marked} (hne : clear ≠ [])
    (h : ps.flatMap (marked r) = front ++ (clear ++ back)) (hclear : ∀ c ∈ clear, c.2 = false) :
    ∃ qs rs, ps = qs ++ ((clear.map Prod.fst).map kept ++ rs) ∧
      qs.flatMap (marked r) = front ∧ rs.flatMap (marked r) = back := by
  induction ps generalizing front with
  | nil =>
    simp [hne] at h
  | cons p ps ih =>
    rcases List.append_eq_append_iff.1 (List.flatMap_cons.symm.trans h) with
      ⟨w, rfl, hrest⟩ | ⟨w, hw, hrest⟩
    · obtain ⟨qs, rs, rfl, rfl, hback⟩ := ih hrest
      exact ⟨p :: qs, rs, rfl, List.flatMap_cons, hback⟩
    · cases p with
      | kept d =>
        cases front with
        | nil =>
          have hstart : (kept d :: ps).flatMap (marked r) = clear ++ back := h
          obtain ⟨rs, hrs, hback⟩ := exists_of_clear_prefix hstart hclear
          exact ⟨[], rs, hrs, rfl, hback⟩
        | cons c front =>
          obtain ⟨rfl, htail⟩ := List.cons.inj h
          obtain ⟨qs, rs, rfl, rfl, hback⟩ := ih htail
          exact ⟨kept d :: qs, rs, rfl, rfl, hback⟩
      | replaced a =>
        cases w with
        | nil =>
          rw [List.append_nil] at hw
          have hstart : ps.flatMap (marked r) = [] ++ (clear ++ back) := hrest.symm
          obtain ⟨qs, rs, rfl, hqs, hback⟩ := ih hstart
          exact ⟨replaced a :: qs, rs, rfl, by rw [List.flatMap_cons, hqs, hw, List.append_nil],
            hback⟩
        | cons c w =>
          -- the first unmarked character would be one of the call
          have htrue : c.2 = true :=
            marked_true r (hw ▸ List.mem_append_right front List.mem_cons_self)
          cases clear with
          | nil => exact absurd rfl hne
          | cons d clear =>
            have hd := hclear d List.mem_cons_self
            rw [(List.cons.inj hrest).1, htrue] at hd
            cases hd

theorem exists_of_mark {ps : List Piece} {n : Nat} {c : Char × Bool}
    (h : (ps.flatMap (marked r))[n]? = some c) (hc : c.2 = true) :
    ∃ qs a rs, ps = qs ++ replaced a :: rs ∧ (qs.flatMap (new r)).length ≤ n ∧
      n < (qs.flatMap (new r)).length + (a.braced r).length := by
  induction ps generalizing n with
  | nil => cases h
  | cons p ps ih =>
    rw [List.flatMap_cons, List.getElem?_append] at h
    split at h
    · rename_i hlt
      cases p with
      | kept d =>
        rw [List.mem_singleton.1 (List.mem_of_getElem? h)] at hc
        cases hc
      | replaced a =>
        refine ⟨[], a, ps, rfl, Nat.zero_le n, ?_⟩
        simpa [marked] using hlt
    · rename_i hge
      obtain ⟨qs, a, rs, rfl, hle, hlt⟩ := ih h
      have hlength : (p.marked r).length = (p.new r).length := by
        rw [← fst_marked, List.length_map]
      refine ⟨p :: qs, a, rs, rfl, ?_, ?_⟩ <;>
        rw [List.flatMap_cons, List.length_append] <;> omega

/-- A quote at the end of a line was kept: a call ends in a brace. -/
theorem exists_of_ends_in_quote {ps : List Piece} {t : Text}
    (h : ps.flatMap (new r) = t ++ ['"']) :
    ∃ qs, ps = qs ++ [kept '"'] ∧ qs.flatMap (new r) = t := by
  rcases List.eq_nil_or_concat' ps with rfl | ⟨qs, p, rfl⟩
  · simp at h
  · rw [List.flatMap_append, List.flatMap_singleton] at h
    cases p with
    | kept c =>
      obtain ⟨hqs, hc⟩ := List.append_inj' h rfl
      cases hc
      exact ⟨qs, rfl, hqs⟩
    | replaced a =>
      have hlast : (qs.flatMap (new r) ++ '{' :: r.call a.key) ++ ['}'] = t ++ ['"'] := by
        rw [List.append_assoc]
        exact h
      cases (List.append_inj' hlast rfl).2

/-- Text at the start of a line was kept as far as it has no brace: a call starts with one. -/
theorem exists_of_starts_with {ps : List Piece} {t rest : Text} (ht : '{' ∉ t)
    (h : ps.flatMap (new r) = t ++ rest) :
    ∃ qs, ps = t.map kept ++ qs ∧ qs.flatMap (new r) = rest := by
  induction t generalizing ps with
  | nil => exact ⟨ps, rfl, h⟩
  | cons c t ih =>
    cases ps with
    | nil => cases h
    | cons p ps =>
      cases p with
      | kept d =>
        obtain ⟨rfl, htail⟩ := List.cons.inj h
        obtain ⟨qs, rfl, hqs⟩ := ih (fun hmem => ht (List.mem_cons_of_mem _ hmem)) htail
        exact ⟨qs, rfl, hqs⟩
      | replaced a =>
        have hbrace : '{' = c := (List.cons.inj h).1
        exact absurd (hbrace ▸ List.mem_cons_self) ht

/-- A string that was found in unmarked text stands in kept text. -/
theorem exists_of_found {ps : List Piece} {a : Applied} {before after : Text}
    (hne : a.issue.string ≠ []) (hline : ps.flatMap (new r) = a.replacement.before)
    (hcut : Text.cut? a.issue.string a.replacement.before = some (before, after))
    (hclear : ∀ c ∈ a.found (ps.flatMap (marked r)), c.2 = false) :
    ∃ qs rs, ps = qs ++ (a.issue.string.map kept ++ rs) ∧
      qs.flatMap (new r) = before ∧ rs.flatMap (new r) = after := by
  have hfst : (ps.flatMap (marked r)).map Prod.fst = before ++ (a.issue.string ++ after) := by
    rw [fst_flatMap_marked, hline, Text.eq_of_cut? hcut, List.append_assoc]
  obtain ⟨front, rest, hparts, hfront, hrest⟩ := List.map_eq_append_iff.1 hfst
  obtain ⟨clear, back, rfl, hfound, hback⟩ := List.map_eq_append_iff.1 hrest
  have hsame : a.found (ps.flatMap (marked r)) = clear := by
    rw [Applied.found, hcut, hparts, ← hfront, ← hfound]
    simp
  rw [hsame] at hclear
  have hne' : clear ≠ [] := fun h => hne (by rw [← hfound, h]; rfl)
  obtain ⟨qs, rs, hps, hqs, hrs⟩ := exists_of_clear hne' hparts hclear
  refine ⟨qs, rs, by rw [hps, hfound], ?_, ?_⟩
  · rw [← fst_flatMap_marked, hqs, hfront]
  · rw [← fst_flatMap_marked, hrs, hback]

/-- The whole span of such a replacement stands in kept text, and its call takes the place. -/
theorem exists_of_substitute? {ps : List Piece} {a : Applied} (hne : a.issue.string ≠ [])
    (hline : ps.flatMap (new r) = a.replacement.before)
    (hafter : Replacement.substitute? a.replacement.before a.issue.string (r.call a.key) =
      some a.replacement.after)
    (hclear : ∀ c ∈ a.found (ps.flatMap (marked r)), c.2 = false) :
    ∃ qs rs, ps = qs ++ (a.span.map kept ++ rs) ∧ (qs.flatMap (new r)).length = a.start ∧
      (qs ++ replaced a :: rs).flatMap (new r) = a.replacement.after := by
  obtain ⟨before, after, hcut, hcases⟩ := Replacement.cut?_of_substitute? hafter
  obtain ⟨qs, rs, rfl, hqs, hrs⟩ := exists_of_found hne hline hcut hclear
  rcases hcases with ⟨hopens, hafter⟩ | ⟨hopens, rest, rfl, hafter⟩
  · have hspan : a.span = a.issue.string := by simp [Applied.span, hcut, hopens]
    refine ⟨qs, rs, by rw [hspan], by simp [Applied.start, hcut, hopens, hqs], ?_⟩
    rw [hafter, List.flatMap_append, List.flatMap_cons, hqs, hrs]
    simp [new, Applied.braced]
  · have hspan : a.span = '"' :: a.issue.string ++ ['"'] := by simp [Applied.span, hcut, hopens]
    obtain ⟨name, rfl⟩ := Replacement.exists_of_opensAttribute hopens
    obtain ⟨qs, rfl, rfl⟩ := exists_of_ends_in_quote hqs
    obtain ⟨rs, rfl, rfl⟩ := exists_of_starts_with (t := ['"']) (by decide) hrs
    refine ⟨qs, rs, by simp [hspan], by simp [Applied.start, hcut, hopens], ?_⟩
    rw [hafter]
    simp [new, Applied.braced]

theorem mark_flatMap_marked {qs rs : List Piece} {a : Applied}
    (hstart : (qs.flatMap (new r)).length = a.start) :
    a.mark r ((qs ++ (a.span.map kept ++ rs)).flatMap (marked r)) =
      (qs ++ replaced a :: rs).flatMap (marked r) := by
  have hlength : (qs.flatMap (marked r)).length = a.start := by
    rw [length_flatMap_marked, hstart]
  rw [Applied.mark, List.flatMap_append, List.flatMap_append, flatMap_marked_kept,
    List.take_left' hlength, ← List.append_assoc,
    List.drop_left' (by simp [Marked.ofLine, hlength]), List.flatMap_append, List.flatMap_cons,
    List.append_assoc]
  rfl

end Piece
end Localize

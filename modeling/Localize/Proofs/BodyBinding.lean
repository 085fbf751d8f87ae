import Localize.Proofs.HookBinding

/-! Where the binding of the message function comes. It belongs at the top of the body of the first
function, whose brace follows the parenthesis that closes the parameters. The line behind which it
is put is found by its text instead, as the first one from the signature on that holds a parenthesis
and a brace; the two agree exactly if the first such line is the one that opens the body. -/

namespace Localize.Hook

/-- How reading on from behind an opening bracket ends: so many brackets inside it are open, or it
was closed and the rest stands behind it. -/
inductive Scan where
  | within (depth : Nat)
  | behind (rest : Text)
  deriving DecidableEq, Repr

def scan (opening closing : Char) : Nat → Text → Scan
  | depth, [] => .within depth
  | depth, c :: cs =>
    if c = opening then scan opening closing (depth + 1) cs
    else if c = closing then
      match depth with
      | 0 => .behind cs
      | depth + 1 => scan opening closing depth cs
    else scan opening closing depth cs

namespace Signature

def pattern : Signature → Pattern
  | .declaration => declarationPattern
  | .arrow => arrowPattern

/-- The first of the lines at whose end just the body is open. The parameters are open before the
first line; what closes them opens the body, or there is none. -/
def bodyOffset? (kind : Signature) : Nat → List Text → Option Nat
  | _, [] => none
  | depth, line :: lines =>
    match scan '(' ')' depth line with
    | .within depth => (bodyOffset? kind depth lines).map (· + 1)
    | .behind rest =>
      match kind.blockOpen.isPrefixOf? (')' :: rest) with
      | some body => if scan '{' '}' 0 body = .within 0 then some 0 else none
      | none => none

end Signature

structure Head where
  index : Nat
  line : Text
  kind : Signature
  params : Text

/-- The signature is the first one of the buffer. -/
structure Head.Leads (s : Head) (lines : Buffer) : Prop where
  line : lines[s.index]? = some s.line
  kind : Signature.ofLine? s.line = some s.kind
  params : (s.kind.pattern s.line).head? = some s.params
  first : ∀ l ∈ lines.take s.index, Signature.ofLine? l = none

/-- The body of the function opens so many lines below the signature. -/
def Head.Opens (s : Head) (lines : Buffer) (offset : Nat) : Prop :=
  s.kind.bodyOffset? 0 (s.params :: lines.drop (s.index + 1)) = some offset

/-- So many lines below the signature is the first line, from the signature on, that holds what
opens a body. -/
structure Head.Meets (s : Head) (lines : Buffer) (offset : Nat) : Prop where
  line : ∃ l, (lines.drop s.index)[offset]? = some l ∧ s.kind.blockOpen <:+: l
  first : ∀ l ∈ (lines.drop s.index).take offset, ¬ s.kind.blockOpen <:+: l

/-- The binding is put at the top of the body of the first function. -/
def BindsInBody (h : Hook) (lines : Buffer) : Prop :=
  ∃ (s : Head) (offset : Nat), s.Leads lines ∧ s.Opens lines offset ∧
    (h.addBinding lines).2 = insertAt (s.index + offset + 1) (h.bindingLines s.line) lines

theorem suffix_of_scan {opening closing : Char} {depth : Nat} {t rest : Text}
    (h : scan opening closing depth t = .behind rest) : closing :: rest <:+ t := by
  fun_induction scan opening closing depth t with
  | case1 depth => cases h
  | case2 depth cs ih => exact (ih h).trans (List.suffix_cons _ _)
  | case3 cs hopening =>
    cases h
    exact List.suffix_refl _
  | case4 cs hopening depth ih => exact (ih h).trans (List.suffix_cons _ _)
  | case5 depth c cs hopening hclosing ih => exact (ih h).trans (List.suffix_cons _ _)

theorem exists_of_bodyOffset? {kind : Signature} {depth offset : Nat} {lines : List Text}
    (h : kind.bodyOffset? depth lines = some offset) :
    ∃ l, lines[offset]? = some l ∧ kind.blockOpen <:+: l := by
  induction lines generalizing depth offset with
  | nil => cases h
  | cons line lines ih =>
    rw [Signature.bodyOffset?] at h
    split at h
    · obtain ⟨offset, hoffset, rfl⟩ := Option.map_eq_some_iff.1 h
      exact ih hoffset
    · rename_i rest hrest
      split at h
      · rename_i body hbody
        split at h
        · cases h
          have hopens : kind.blockOpen <+: ')' :: rest :=
            ⟨body, List.isPrefixOf?_eq_some_iff_append_eq.1 hbody⟩
          exact ⟨line, rfl, hopens.isInfix.trans (suffix_of_scan hrest).isInfix⟩
        · cases h
      · cases h

/-- The parameters may stand on lines of their own. -/
example : Signature.declaration.bodyOffset? 0
    ["\x7b".toList, "  title,".toList, "\x7d: Props) \x7b".toList] = some 2 := by decide

@[simp] theorem leavesEnd_keyword (w : String) : (keyword w).LeavesEnd := .seq (by simp)

@[simp] theorem leavesEnd_identifier : identifier.LeavesEnd := .seq (by simp)

theorem leavesEnd_pattern (kind : Signature) : kind.pattern.LeavesEnd := by
  cases kind with
  | declaration => exact .seq (by simp)
  | arrow => exact .seq (by simp)

theorem findIdx?_eq_some_iff_take {p : Text → Bool} {lines : List Text} {i : Nat} :
    lines.findIdx? p = some i ↔
      (∃ l, lines[i]? = some l ∧ p l = true) ∧ ∀ l ∈ lines.take i, p l = false := by
  rw [List.findIdx?_eq_some_iff_getElem]
  constructor
  · rintro ⟨hi, hp, hbefore⟩
    refine ⟨⟨lines[i], List.getElem?_eq_getElem hi, hp⟩, fun l hl => ?_⟩
    obtain ⟨j, hj, rfl⟩ := List.mem_take_iff_getElem.1 hl
    exact Bool.eq_false_iff.2 (hbefore j (by omega))
  · rintro ⟨⟨l, hl, hp⟩, hbefore⟩
    obtain ⟨hi, rfl⟩ := List.getElem?_eq_some_iff.1 hl
    refine ⟨hi, hp, fun j hj => Bool.eq_false_iff.1 (hbefore _ ?_)⟩
    exact List.mem_take_iff_getElem.2 ⟨j, by omega, rfl⟩

theorem Head.Leads.findIdx?_eq {s : Head} {lines : Buffer} (h : s.Leads lines) :
    lines.findIdx? (fun line => (Signature.ofLine? line).isSome) = some s.index := by
  refine findIdx?_eq_some_iff_take.2 ⟨⟨s.line, h.line, ?_⟩, fun l hl => ?_⟩
  · rw [h.kind]
    rfl
  · rw [h.first l hl]
    rfl

theorem Head.Leads.unique {s s' : Head} {lines : Buffer} (h : s.Leads lines)
    (h' : s'.Leads lines) : s' = s := by
  obtain ⟨index, line, kind, params⟩ := s
  obtain ⟨index', line', kind', params'⟩ := s'
  obtain rfl : index' = index := Option.some.inj (h'.findIdx?_eq.symm.trans h.findIdx?_eq)
  obtain rfl : line' = line := Option.some.inj (h'.line.symm.trans h.line)
  obtain rfl : kind' = kind := Option.some.inj (h'.kind.symm.trans h.kind)
  obtain rfl : params' = params := Option.some.inj (h'.params.symm.trans h.params)
  rfl

theorem exists_leads {lines : Buffer} {index : Nat}
    (h : lines.findIdx? (fun line => (Signature.ofLine? line).isSome) = some index) :
    ∃ s : Head, s.Leads lines := by
  obtain ⟨⟨line, hline, hsome⟩, hfirst⟩ := findIdx?_eq_some_iff_take.1 h
  obtain ⟨kind, hkind⟩ := Option.isSome_iff_exists.1 hsome
  have hstarts : Pattern.atStart kind.pattern line = true := by
    unfold Signature.ofLine? at hkind
    split at hkind
    · cases hkind
      assumption
    · split at hkind
      · cases hkind
        assumption
      · cases hkind
  obtain ⟨rest, hrest⟩ := Pattern.atStart_iff.1 hstarts
  obtain ⟨params, others, hparams⟩ := List.exists_cons_of_ne_nil (List.ne_nil_of_mem hrest)
  refine ⟨⟨index, line, kind, params⟩, hline, hkind, ?_, fun l hl => ?_⟩
  · change (kind.pattern line).head? = some params
    rw [hparams]
    rfl
  · exact Option.isNone_iff_eq_none.1 (Option.isSome_eq_false_iff.1 (hfirst l hl))

variable {s : Head} {lines : Buffer} {offset : Nat}

theorem Head.meets_iff : s.Meets lines offset ↔
    (lines.drop s.index).findIdx? (Text.includes · s.kind.blockOpen) = some offset := by
  simp only [findIdx?_eq_some_iff_take, Bool.eq_false_iff, ne_eq, Text.includes_iff]
  exact ⟨fun h => ⟨h.line, h.first⟩, fun h => ⟨h.1, h.2⟩⟩

theorem Head.Leads.firstBody?_eq (hs : s.Leads lines) :
    firstBody? lines = ((lines.drop s.index).findIdx? (Text.includes · s.kind.blockOpen)).map
      fun offset => (s.index, s.line, s.index + offset) := by
  rw [firstBody?, hs.findIdx?_eq]
  simp only [Option.bind_eq_bind, Option.bind_some, hs.line, hs.kind]
  cases (lines.drop s.index).findIdx? (Text.includes · s.kind.blockOpen) <;> rfl

theorem addBinding_of_meets {h : Hook} (hfree : h.hasBinding lines = false) (hs : s.Leads lines)
    (hmeets : s.Meets lines offset) :
    h.addBinding lines =
      (true, insertAt (s.index + offset + 1) (h.bindingLines s.line) lines) := by
  rw [addBinding, hfree, if_neg Bool.false_ne_true, hs.firstBody?_eq, Head.meets_iff.1 hmeets]
  rfl

theorem firstBody?_eq_some_iff {index opening : Nat} {signature : Text} :
    firstBody? lines = some (index, signature, opening) ↔ ∃ (s : Head) (offset : Nat),
      s.Leads lines ∧ s.Meets lines offset ∧ s.index = index ∧ s.line = signature ∧
        s.index + offset = opening := by
  constructor
  · intro hbody
    obtain ⟨i, hi, -⟩ := Option.bind_eq_some_iff.1 hbody
    obtain ⟨s, hs⟩ := exists_leads hi
    rw [hs.firstBody?_eq] at hbody
    obtain ⟨offset, hoffset, hplace⟩ := Option.map_eq_some_iff.1 hbody
    cases hplace
    exact ⟨s, offset, hs, Head.meets_iff.2 hoffset, rfl, rfl, rfl⟩
  · rintro ⟨s, offset, hs, hmeets, rfl, rfl, rfl⟩
    rw [hs.firstBody?_eq, Head.meets_iff.1 hmeets]
    rfl

theorem firstBody?_eq_none_iff : firstBody? lines = none ↔
    ¬ ∃ (s : Head) (offset : Nat), s.Leads lines ∧ s.Meets lines offset := by
  constructor
  · rintro hnone ⟨s, offset, hs, hmeets⟩
    have hbody := firstBody?_eq_some_iff.2 ⟨s, offset, hs, hmeets, rfl, rfl, rfl⟩
    rw [hnone] at hbody
    cases hbody
  · intro hnone
    cases hbody : firstBody? lines with
    | none => rfl
    | some place =>
      obtain ⟨s, offset, hs, hmeets, -, -, -⟩ := firstBody?_eq_some_iff.1 hbody
      exact absurd ⟨s, offset, hs, hmeets⟩ hnone

/-- The binding is there, or has no place, and the buffer is kept; or it is put below the line that
is taken for the opening of the body. -/
theorem addBinding_outcome (h : Hook) (lines : Buffer) :
    (h.hasBinding lines = true ∨ firstBody? lines = none) ∧ h.addBinding lines = (false, lines) ∨
    ∃ index signature opening, h.hasBinding lines = false ∧
      firstBody? lines = some (index, signature, opening) ∧
      h.addBinding lines = (true, insertAt (opening + 1) (h.bindingLines signature) lines) := by
  cases hbinding : h.hasBinding lines with
  | true =>
    refine .inl ⟨.inl rfl, ?_⟩
    rw [addBinding, if_pos hbinding]
  | false =>
    cases hbody : firstBody? lines with
    | none =>
      refine .inl ⟨.inr rfl, ?_⟩
      rw [addBinding, hbinding, hbody]
      rfl
    | some place =>
      obtain ⟨index, signature, opening⟩ := place
      refine .inr ⟨index, signature, opening, rfl, rfl, ?_⟩
      rw [addBinding, hbinding, hbody]
      rfl

theorem fst_addBinding_iff {h : Hook} :
    (h.addBinding lines).1 = true ↔ h.hasBinding lines = false ∧
      ∃ (s : Head) (offset : Nat), s.Leads lines ∧ s.Meets lines offset := by
  constructor
  · intro hadded
    rcases h.addBinding_outcome lines with ⟨-, hkept⟩ | ⟨_, _, _, hfree, hbody, -⟩
    · rw [hkept] at hadded
      cases hadded
    · obtain ⟨s, offset, hs, hmeets, -, -, -⟩ := firstBody?_eq_some_iff.1 hbody
      exact ⟨hfree, s, offset, hs, hmeets⟩
  · rintro ⟨hfree, s, offset, hs, hmeets⟩
    rw [addBinding_of_meets hfree hs hmeets]

/-- A body that opens is met there, unless an earlier line is taken for its opening. -/
theorem Head.Opens.meets (hopens : s.Opens lines offset) (hs : s.Leads lines)
    (hfirst : ∀ l ∈ (lines.drop s.index).take offset, ¬ s.kind.blockOpen <:+: l) :
    s.Meets lines offset := by
  refine ⟨?_, hfirst⟩
  obtain ⟨hindex, hline⟩ := List.getElem?_eq_some_iff.1 hs.line
  rw [List.drop_eq_getElem_cons hindex, hline]
  obtain ⟨l, hl, htoken⟩ := exists_of_bodyOffset? hopens
  cases offset with
  | succ offset => exact ⟨l, hl, htoken⟩
  | zero =>
    cases hl
    have hparams := leavesEnd_pattern s.kind s.line s.params (List.mem_of_head? hs.params)
    exact ⟨s.line, rfl, htoken.trans hparams.isInfix⟩

theorem getElem?_insertAt {i : Nat} (hi : i ≤ lines.length) (new : Text) (more : List Text) :
    (insertAt i (new :: more) lines)[i]? = some new := by
  have hlength : (lines.take i).length = i := List.length_take_of_le hi
  rw [insertAt, List.append_assoc, List.getElem?_append_right (Nat.le_of_eq hlength), hlength,
    Nat.sub_self]
  rfl

theorem getElem?_insertAt_of_lt {i j : Nat} (hlt : i < j) (hj : j ≤ lines.length)
    (new : List Text) : (insertAt j new lines)[i]? = lines[i]? := by
  rw [insertAt, List.append_assoc, List.getElem?_append_left (by simp; omega),
    List.getElem?_take_of_lt hlt]

/-- A line that is not in the buffer tells where it was put. -/
theorem eq_of_insertAt_eq {i j : Nat} {new : Text} {more : List Text} (hi : i ≤ lines.length)
    (hj : j ≤ lines.length) (hnew : new ∉ lines)
    (h : insertAt i (new :: more) lines = insertAt j (new :: more) lines) : i = j := by
  have hle {i j : Nat} (hi : i ≤ lines.length) (hj : j ≤ lines.length)
      (h : insertAt i (new :: more) lines = insertAt j (new :: more) lines) : j ≤ i := by
    by_contra hlt
    have hget := getElem?_insertAt hi new more
    rw [h, getElem?_insertAt_of_lt (Nat.lt_of_not_le hlt) hj] at hget
    exact hnew (List.mem_of_getElem? hget)
  exact Nat.le_antisymm (hle hj hi h.symm) (hle hi hj h)

theorem Head.Meets.lt_length (h : s.Meets lines offset) : s.index + offset < lines.length := by
  obtain ⟨⟨l, hl, -⟩, -⟩ := h
  rw [List.getElem?_drop] at hl
  exact (List.getElem?_eq_some_iff.1 hl).1

theorem Head.Opens.lt_length (h : s.Opens lines offset) (hs : s.Leads lines) :
    s.index + offset < lines.length := by
  obtain ⟨l, hl, -⟩ := exists_of_bodyOffset? h
  have hlength := (List.getElem?_eq_some_iff.1 hl).1
  have hindex := (List.getElem?_eq_some_iff.1 hs.line).1
  rw [List.length_cons, List.length_drop] at hlength
  omega

/-- The binding is added exactly if there is none and some line, from the first signature on, holds
what opens a body. Where the body of the signature opens without an earlier such line, it comes at
the top of that body. It never comes elsewhere exactly if the first such line is always the one that
opens the body. -/
theorem binding_in_body_iff (h : Hook) (lines : Buffer) :
    ((h.addBinding lines).1 = true ↔ h.hasBinding lines = false ∧
      ∃ (s : Head) (offset : Nat), s.Leads lines ∧ s.Meets lines offset) ∧
    (∀ (s : Head) (offset : Nat), s.Leads lines → s.Opens lines offset →
      (∀ l ∈ (lines.drop s.index).take offset, ¬ s.kind.blockOpen <:+: l) →
      h.hasBinding lines = false → h.addBinding lines =
        (true, insertAt (s.index + offset + 1) (h.bindingLines s.line) lines)) ∧
    (((h.addBinding lines).1 = true → h.BindsInBody lines) ↔
      h.hasBinding lines = true ∨ ∀ (s : Head) (offset : Nat), s.Leads lines →
        s.Meets lines offset → s.Opens lines offset) := by
  refine ⟨fst_addBinding_iff, fun s offset hs hopens hfirst hfree =>
    addBinding_of_meets hfree hs (hopens.meets hs hfirst), fun hlaw => ?_, fun hmeets hadded => ?_⟩
  · by_cases hfree : h.hasBinding lines = true
    · exact .inl hfree
    rw [Bool.not_eq_true] at hfree
    refine .inr fun s offset hs hmeets => ?_
    have hadded := addBinding_of_meets hfree hs hmeets
    obtain ⟨s', offset', hs', hopens, hput⟩ := hlaw (by rw [hadded])
    obtain rfl := hs.unique hs'
    -- No line of the buffer is the binding, so it is in one place only.
    have hnew : s'.line.takeWhile Text.isBlank ++ [' ', ' '] ++
        bindingStatement h.translateFn h.hookName ∉ lines := by
      intro hmem
      rw [hasBinding_of_mem hmem] at hfree
      cases hfree
    rw [hadded] at hput
    have hplace := eq_of_insertAt_eq hmeets.lt_length (hopens.lt_length hs) hnew hput
    obtain rfl : offset = offset' := by omega
    exact hopens
  · obtain ⟨hfree, s, offset, hs, hfound⟩ := fst_addBinding_iff.1 hadded
    have hopens := (hmeets.resolve_left (by simp [hfree])) s offset hs hfound
    exact ⟨s, offset, hs, hopens, by rw [addBinding_of_meets hfree hs hfound]⟩

/-- A page that returns early. Its return type follows its parameters. -/
def typedPage : Buffer :=
  ["function Page(props: Props): Element \x7b".toList, "  if (props.busy) \x7b".toList,
    "    return null;".toList, "  \x7d".toList, "  return <p>Save</p>;".toList, "\x7d".toList]

def shortPage : Buffer := ["function Page() \x7b return <p>Save</p>; \x7d".toList]

theorem typedPage_leads : Head.Leads ⟨0, "function Page(props: Props): Element \x7b".toList,
    .declaration, "props: Props): Element \x7b".toList⟩ typedPage :=
  ⟨rfl, by decide +kernel, by decide +kernel, nofun⟩

theorem shortPage_leads : Head.Leads ⟨0, "function Page() \x7b return <p>Save</p>; \x7d".toList,
    .declaration, ") \x7b return <p>Save</p>; \x7d".toList⟩ shortPage :=
  ⟨rfl, by decide +kernel, by decide +kernel, nofun⟩

/-- The binding comes inside a condition, and behind the whole function. -/
theorem binding_outside_body :
    ({} : Config).IsValid ∧
    (ofConfig {}).addBinding typedPage =
      (true, insertAt 2 ["  const \x7b t \x7d = useTranslation();".toList, []] typedPage) ∧
    ¬ (ofConfig {}).BindsInBody typedPage ∧
    (ofConfig {}).addBinding shortPage =
      (true, shortPage ++ ["  const \x7b t \x7d = useTranslation();".toList, []]) ∧
    ¬ (ofConfig {}).BindsInBody shortPage := by
  refine ⟨by decide, by decide +kernel, ?_, by decide +kernel, ?_⟩
  · rintro ⟨s, offset, hs, hopens, -⟩
    obtain rfl := typedPage_leads.unique hs
    have hnever : Signature.declaration.bodyOffset? 0 ("props: Props): Element \x7b".toList ::
        typedPage.drop 1) = none := by decide
    cases hnever.symm.trans hopens
  · rintro ⟨s, offset, hs, hopens, -⟩
    obtain rfl := shortPage_leads.unique hs
    have hnever : Signature.declaration.bodyOffset? 0
        (") \x7b return <p>Save</p>; \x7d".toList :: shortPage.drop 1) = none := by decide
    cases hnever.symm.trans hopens

end Localize.Hook

import Localize.Proofs.BodyBinding

/-! What augmenting adds to a buffer, and where. The import comes below a directive on the first line
or at the top, and no signature stands above it, so the lines from the first signature on are where
they were but for one line. Below the line that is taken for the opening of the body comes the
binding. Nothing else is added, and nothing is taken away. Where the binding was to be added, it is
there or has no place, and a second attempt adds nothing. -/

namespace Localize

/-- A buffer taken apart to be added to: below `top` comes the import, below `middle` the binding. -/
structure Additions where
  top : Buffer
  imports : List Text
  middle : Buffer
  bindings : List Text
  bottom : Buffer

namespace Additions

def before (x : Additions) : Buffer := x.top ++ (x.middle ++ x.bottom)

def after (x : Additions) : Buffer := x.top ++ x.imports ++ (x.middle ++ x.bindings ++ x.bottom)

end Additions

namespace Hook

variable {h : Hook} {lines front : Buffer} {line : Text}

/-- The line holds one of the directives in quotes and, but for a semicolon behind it and blanks,
nothing else. -/
inductive DirectiveLine (directives : List Text) : Text → Prop
  | intro {gap directive gap' semicolon gap'' : Text} {q : Char}
      (blanks : ∀ c ∈ gap, Text.isBlank c = true)
      (quote : isQuote q = true)
      (listed : directive ∈ directives)
      (blanks' : ∀ c ∈ gap', Text.isBlank c = true)
      (optional : semicolon = [] ∨ semicolon = [';'])
      (blanks'' : ∀ c ∈ gap'', Text.isBlank c = true) :
      DirectiveLine directives (gap ++ q :: (directive ++ q :: (gap' ++ (semicolon ++ gap''))))

/-- What stands above the import: a directive on the first line, or nothing if there is none. -/
def IsTop (h : Hook) (lines top : Buffer) : Prop :=
  (∃ l, top = [l] ∧ DirectiveLine h.directives l) ∨
    top = [] ∧ ∀ l ∈ lines.head?, ¬ DirectiveLine h.directives l

/-- The lines are added where they belong, and the augmentation says which. -/
structure Adds (h : Hook) (a : Augmentation) (x : Additions) : Prop where
  top : h.IsTop x.before x.top
  imports : x.imports = if a.importAdded then [importLine h.hookName h.hookModule] else []
  kept : a.bindingAdded = false → x.bindings = []
  added : a.bindingAdded = true → ∃ (s : Head) (offset : Nat), s.Leads x.before ∧
    s.Meets x.before offset ∧ (x.top ++ x.middle).length = s.index + offset + 1 ∧
    x.bindings = h.bindingLines s.line

theorem mem_inQuotes {directives : List Text} {q : Char} {t rest : Text} :
    rest ∈ Pattern.seq [.char q, .alt (directives.map .lit), .char q] t ↔
      ∃ directive ∈ directives, t = q :: (directive ++ q :: rest) := by
  simp only [Pattern.mem_seq_cons, Pattern.mem_seq_nil, Pattern.mem_char, Pattern.mem_alt,
    List.mem_map]
  constructor
  · rintro ⟨_, rfl, _, ⟨_, ⟨directive, hlisted, rfl⟩, hmid⟩, _, rfl, rfl⟩
    exact ⟨directive, hlisted, by rw [Pattern.mem_lit.1 hmid]⟩
  · rintro ⟨directive, hlisted, rfl⟩
    exact ⟨_, rfl, _, ⟨_, ⟨directive, hlisted, rfl⟩, Pattern.mem_lit.2 rfl⟩, rest, rfl, rfl⟩

theorem mem_quoted {directives : List Text} {t rest : Text} :
    rest ∈ Pattern.alt [.seq [.char '"', .alt (directives.map .lit), .char '"'],
        .seq [.char '\'', .alt (directives.map .lit), .char '\'']] t ↔
      ∃ q, isQuote q = true ∧ ∃ directive ∈ directives, t = q :: (directive ++ q :: rest) := by
  have hquote (q : Char) : isQuote q = true ↔ q = '"' ∨ q = '\'' := by simp [isQuote]
  simp only [Pattern.mem_alt, List.mem_cons, List.not_mem_nil, or_false, exists_eq_or_imp,
    exists_eq_left, mem_inQuotes, hquote]

theorem isDirective_iff : h.isDirective line = true ↔ DirectiveLine h.directives line := by
  unfold isDirective directivePattern
  simp only [Pattern.atStart_iff, Pattern.mem_seq_cons, Pattern.mem_seq_nil, Pattern.mem_blanks,
    mem_quoted, Pattern.mem_opt, Pattern.mem_char, Pattern.mem_eot]
  constructor
  · rintro ⟨_, _, ⟨gap, hgap, rfl⟩, _, ⟨q, hquote, directive, hlisted, rfl⟩, _, ⟨gap', hgap', rfl⟩,
      behind, hsemicolon, _, ⟨gap'', hgap'', rfl⟩, _, ⟨rfl, rfl⟩, rfl⟩
    rw [List.append_nil] at hsemicolon
    rcases hsemicolon with rfl | rfl
    · exact .intro hgap hquote hlisted hgap' (.inr rfl) hgap''
    · exact .intro hgap hquote hlisted hgap' (.inl rfl) hgap''
  · rintro ⟨hgap, hquote, hlisted, hgap', hsemicolon, hgap''⟩
    refine ⟨[], _, ⟨_, hgap, rfl⟩, _, ⟨_, hquote, _, hlisted, rfl⟩, _, ⟨_, hgap', rfl⟩, _, ?_, _,
      ⟨_, hgap'', (List.append_nil _).symm⟩, _, ⟨rfl, rfl⟩, rfl⟩
    rcases hsemicolon with rfl | rfl
    · exact .inr rfl
    · exact .inl rfl

def signatureLetters : List Char := ['e', 'd', 'a', 'f', 'c', 'l']

theorem exists_head?_trimStart {cs : List Char} {ps : List Pattern}
    (hps : Pattern.BeginsWith cs (.seq ps)) (hcs : ∀ c ∈ cs, Text.isBlank c = false)
    (hmatch : Pattern.atStart (.seq (.blanks :: ps)) line = true) :
    ∃ c ∈ (Text.trimStart line).head?, c ∈ cs := by
  obtain ⟨rest, hrest⟩ := Pattern.atStart_iff.1 hmatch
  obtain ⟨mid, hmid, hbehind⟩ := Pattern.mem_seq_cons.1 hrest
  obtain ⟨gap, hgap, rfl⟩ := Pattern.mem_blanks.1 hmid
  obtain ⟨c, hc, hmem⟩ := hps mid rest hbehind
  have hstart : Text.trimStart (gap ++ mid) = mid := by
    apply Text.dropWhile_isBlank_append hgap
    intro d hd
    rw [Option.mem_unique hd hc]
    exact hcs c hmem
  exact ⟨c, by rwa [hstart], hmem⟩

theorem exists_signatureLetter (hsome : (Signature.ofLine? line).isSome = true) :
    ∃ c ∈ (Text.trimStart line).head?, c ∈ signatureLetters := by
  have hblank : ∀ c ∈ signatureLetters, Text.isBlank c = false := by
    simp only [signatureLetters, List.forall_mem_cons, List.not_mem_nil, false_implies, implies_true,
      and_true]
    decide
  have hword (w : String) {c : Char} (hw : w.toList.head? = some c) (hc : c ∈ signatureLetters) :
      Pattern.BeginsWith signatureLetters (keyword w) := .seq (.word hw hc)
  unfold Signature.ofLine? at hsome
  split at hsome
  · rename_i hmatch
    refine exists_head?_trimStart ?_ hblank hmatch
    apply Pattern.BeginsWith.seq_opt (hword "export" rfl (by decide))
    apply Pattern.BeginsWith.seq_opt (hword "default" rfl (by decide))
    apply Pattern.BeginsWith.seq_opt (hword "async" rfl (by decide))
    exact .seq (.word (c := 'f') rfl (by decide))
  · split at hsome
    · rename_i hmatch
      refine exists_head?_trimStart ?_ hblank hmatch
      apply Pattern.BeginsWith.seq_opt (hword "export" rfl (by decide))
      apply Pattern.BeginsWith.seq
      apply Pattern.BeginsWith.alt
      intro p hp
      rcases List.mem_pair.1 hp with rfl | rfl
      · exact hword "const" rfl (by decide)
      · exact hword "let" rfl (by decide)
    · cases hsome

theorem ofLine?_eq_none (h : ∀ c ∈ (Text.trimStart line).head?, c ∉ signatureLetters) :
    Signature.ofLine? line = none := by
  by_contra hsome
  obtain ⟨c, hc, hmem⟩ := exists_signatureLetter (Option.isSome_iff_ne_none.2 hsome)
  exact h c hc hmem

theorem ofLine?_importLine (hookName hookModule : Text) :
    Signature.ofLine? (importLine hookName hookModule) = none := by
  apply ofLine?_eq_none
  intro c hc
  cases hc
  decide

theorem not_mem_signatureLetters {q : Char} (hquote : isQuote q = true) :
    Text.isBlank q = false ∧ q ∉ signatureLetters := by
  simp only [isQuote, Bool.or_eq_true, beq_iff_eq] at hquote
  rcases hquote with rfl | rfl
  · decide
  · decide

theorem DirectiveLine.ofLine?_eq_none {directives : List Text}
    (hline : DirectiveLine directives line) : Signature.ofLine? line = none := by
  obtain ⟨hgap, hquote, -, -, -, -⟩ := hline
  obtain ⟨hblank, hletter⟩ := not_mem_signatureLetters hquote
  apply Hook.ofLine?_eq_none
  intro c hc
  rw [Text.trimStart, Text.dropWhile_isBlank_append hgap (by simp [hblank])] at hc
  cases hc
  exact hletter

theorem IsTop.ofLine?_eq_none {top : Buffer} (htop : h.IsTop lines top) :
    ∀ l ∈ top, Signature.ofLine? l = none := by
  intro l hl
  rcases htop with ⟨l', rfl, hline⟩ | ⟨rfl, -⟩
  · rw [List.mem_singleton.1 hl]
    exact hline.ofLine?_eq_none
  · cases hl

/-- Lines without a signature in front leave the body where it is among the others. -/
theorem firstBody?_append (hfront : ∀ l ∈ front, Signature.ofLine? l = none) (lines : Buffer) :
    firstBody? (front ++ lines) = (firstBody? lines).map fun (index, signature, opening) =>
      (index + front.length, signature, opening + front.length) := by
  have hnone : front.findIdx? (fun l => (Signature.ofLine? l).isSome) = none := by
    rw [List.findIdx?_eq_none_iff]
    intro l hl
    rw [hfront l hl]
    rfl
  unfold firstBody?
  rw [List.findIdx?_append, hnone]
  cases lines.findIdx? (fun l => (Signature.ofLine? l).isSome) with
  | none => rfl
  | some index =>
    have hle : front.length ≤ index + front.length := Nat.le_add_left _ _
    have hget : (front ++ lines)[index + front.length]? = lines[index]? := by
      rw [List.getElem?_append_right hle, Nat.add_sub_cancel]
    have hdrop : (front ++ lines).drop (index + front.length) = lines.drop index := by
      rw [List.drop_append, List.drop_eq_nil_iff.2 hle, List.nil_append, Nat.add_sub_cancel]
    simp only [Option.none_or, Option.map_some, Option.bind_eq_bind, Option.bind_some, hget, hdrop]
    cases lines[index]? with
    | none => rfl
    | some signature =>
      simp only [Option.bind_some]
      cases Signature.ofLine? signature with
      | none => rfl
      | some kind =>
        simp only [Option.bind_some]
        cases (lines.drop index).findIdx? (Text.includes · kind.blockOpen) with
        | none => rfl
        | some offset => simp [Nat.add_right_comm]

theorem insertAt_append (front lines : Buffer) (new : List Text) (n : Nat) :
    insertAt (n + front.length) new (front ++ lines) = front ++ insertAt n new lines := by
  unfold insertAt
  rw [Nat.add_comm, List.take_length_add_append, List.drop_length_add_append]
  simp only [List.append_assoc]

/-- Where the binding is added, it is found. Where it is not, the buffer is as it was, and it holds
the binding or has no place for it. After that the binding is never added again. -/
theorem addBinding_settles (h : Hook) (lines : Buffer) :
    ((h.addBinding lines).1 = true → h.hasBinding (h.addBinding lines).2 = true) ∧
    ((h.addBinding lines).1 = false → (h.addBinding lines).2 = lines ∧ (h.hasBinding lines = true ∨
      ¬ ∃ (s : Head) (offset : Nat), s.Leads lines ∧ s.Meets lines offset)) ∧
    h.addBinding (h.addBinding lines).2 = (false, (h.addBinding lines).2) := by
  rcases h.addBinding_outcome lines with ⟨hcase, hkept⟩ | ⟨index, signature, opening, -, hbody, hput⟩
  · rw [hkept]
    exact ⟨nofun, fun _ => ⟨rfl, hcase.imp_right firstBody?_eq_none_iff.1⟩, hkept⟩
  · have hfound : h.hasBinding (h.addBinding lines).2 = true := by
      have hmem : signature.takeWhile Text.isBlank ++ [' ', ' '] ++
          bindingStatement h.translateFn h.hookName ∈
          insertAt (opening + 1) (h.bindingLines signature) lines := by
        apply List.mem_append_left
        apply List.mem_append_right
        exact List.mem_cons_self
      rw [hput]
      exact hasBinding_of_mem hmem
    refine ⟨fun _ => hfound, fun hkept => ?_, ?_⟩
    · rw [hput] at hkept
      cases hkept
    · rw [addBinding, if_pos hfound]

theorem exists_top (h : Hook) (lines : Buffer) : ∃ top rest : Buffer,
    lines = top ++ rest ∧ h.importIndex lines = top.length ∧ h.IsTop lines top := by
  unfold importIndex
  split
  · rename_i hdirective
    obtain ⟨l, hl, hline⟩ := (Option.any_eq_true _ _).1 hdirective
    obtain ⟨rest, rfl⟩ := List.head?_eq_some_iff.1 hl
    exact ⟨[l], rest, rfl, rfl, .inl ⟨l, rfl, isDirective_iff.1 hline⟩⟩
  · rename_i hnone
    refine ⟨[], lines, rfl, rfl, .inr ⟨rfl, fun l hl hline => hnone ?_⟩⟩
    exact (Option.any_eq_true _ _).2 ⟨l, hl, isDirective_iff.2 hline⟩

theorem exists_addImport (h : Hook) (lines : Buffer) : ∃ top imports rest : Buffer,
    lines = top ++ rest ∧ (h.addImport lines).2 = top ++ imports ++ rest ∧ h.IsTop lines top ∧
    (imports = if (h.addImport lines).1 then [importLine h.hookName h.hookModule] else []) ∧
    ∀ l ∈ top ++ imports, Signature.ofLine? l = none := by
  obtain ⟨top, rest, hlines, hindex, hplace⟩ := h.exists_top lines
  refine ⟨top, _, rest, hlines, ?_, hplace, rfl, ?_⟩
  · unfold addImport
    split
    · simp [hlines]
    · have hput := insertAt_append top rest [importLine h.hookName h.hookModule] 0
      rw [Nat.zero_add, ← hlines, ← hindex] at hput
      rw [hput]
      simp [insertAt]
  · intro l hl
    rcases List.mem_append.1 hl with hl | hl
    · exact hplace.ofLine?_eq_none l hl
    · split at hl
      · rw [List.mem_singleton.1 hl]
        exact ofLine?_importLine _ _
      · cases hl

/-- The import neither opens a place for the binding nor takes one. -/
theorem exists_place_addImport (h : Hook) (lines : Buffer) :
    (∃ (s : Head) (offset : Nat),
      s.Leads (h.addImport lines).2 ∧ s.Meets (h.addImport lines).2 offset) ↔
    ∃ (s : Head) (offset : Nat), s.Leads lines ∧ s.Meets lines offset := by
  obtain ⟨top, imports, rest, rfl, himport, htop, -, hfront⟩ := h.exists_addImport lines
  rw [himport, ← not_iff_not, ← firstBody?_eq_none_iff, ← firstBody?_eq_none_iff,
    firstBody?_append hfront, firstBody?_append htop.ofLine?_eq_none, Option.map_eq_none_iff,
    Option.map_eq_none_iff]

/-- The binding comes where the buffer without the import has the opening of the body. -/
theorem exists_addBinding (h : Hook) {front' : Buffer} (rest : Buffer)
    (hfront : ∀ l ∈ front, Signature.ofLine? l = none)
    (hfront' : ∀ l ∈ front', Signature.ofLine? l = none) :
    ∃ middle bindings bottom : Buffer, rest = middle ++ bottom ∧
      (h.addBinding (front' ++ rest)).2 = front' ++ (middle ++ bindings ++ bottom) ∧
      ((h.addBinding (front' ++ rest)).1 = false → bindings = []) ∧
      ((h.addBinding (front' ++ rest)).1 = true → ∃ (s : Head) (offset : Nat),
        s.Leads (front ++ rest) ∧ s.Meets (front ++ rest) offset ∧
        (front ++ middle).length = s.index + offset + 1 ∧ bindings = h.bindingLines s.line) := by
  rcases h.addBinding_outcome (front' ++ rest) with
    ⟨-, hkept⟩ | ⟨index', signature, opening', -, hbody', hput⟩
  · refine ⟨rest, [], [], (List.append_nil _).symm, ?_, fun _ => rfl, fun hadded => ?_⟩
    · rw [hkept]
      simp
    · rw [hkept] at hadded
      cases hadded
  · rw [firstBody?_append hfront'] at hbody'
    obtain ⟨⟨index, _, opening⟩, hbody, hplace⟩ := Option.map_eq_some_iff.1 hbody'
    cases hplace
    have hwhole : firstBody? (front ++ rest) =
        some (index + front.length, signature, opening + front.length) := by
      rw [firstBody?_append hfront, hbody]
      rfl
    obtain ⟨s, offset, hs, hmeets, -, rfl, hopening⟩ := firstBody?_eq_some_iff.1 hwhole
    refine ⟨rest.take (opening + 1), _, rest.drop (opening + 1), (List.take_append_drop _ _).symm,
      ?_, fun hkept => ?_, fun _ => ⟨s, offset, hs, hmeets, ?_, rfl⟩⟩
    · rw [hput, Nat.add_right_comm, insertAt_append]
      rfl
    · rw [hput] at hkept
      cases hkept
    · have hlt := hmeets.lt_length
      rw [List.length_append] at hlt ⊢
      rw [List.length_take]
      omega

theorem Adds.length_eq {a : Augmentation} {x : Additions} (hx : h.Adds a x) :
    x.after.length = x.before.length + a.importAdded.toNat + 2 * a.bindingAdded.toNat := by
  have himports : x.imports.length = a.importAdded.toNat := by
    rw [hx.imports]
    cases a.importAdded <;> rfl
  have hbindings : x.bindings.length = 2 * a.bindingAdded.toNat := by
    cases hadded : a.bindingAdded with
    | false =>
      rw [hx.kept hadded]
      rfl
    | true =>
      obtain ⟨s, offset, -, -, -, hpair⟩ := hx.added hadded
      rw [hpair]
      rfl
  unfold Additions.after Additions.before
  simp only [List.length_append, himports, hbindings]
  omega

theorem Adds.head?_eq {a : Augmentation} {x : Additions} (hx : h.Adds a x) {l : Text}
    (hl : l ∈ x.before.head?) (hline : DirectiveLine h.directives l) : x.after.head? = some l := by
  rcases hx.top with ⟨l', htop, -⟩ | ⟨-, hnone⟩
  · unfold Additions.before at hl
    unfold Additions.after
    rw [htop] at hl ⊢
    exact hl
  · exact absurd hline (hnone l hl)

theorem exists_adds (h : Hook) (lines : Buffer) : ∃ x : Additions,
    x.before = lines ∧ x.after = (h.augment lines).2 ∧ h.Adds (h.augment lines).1 x := by
  obtain ⟨top, imports, rest, rfl, himport, htop, himports, hfront⟩ := h.exists_addImport lines
  obtain ⟨middle, bindings, bottom, rfl, hbinding, hkept, hadded⟩ :=
    h.exists_addBinding rest htop.ofLine?_eq_none hfront
  rw [← himport] at hbinding hkept hadded
  exact ⟨⟨top, imports, middle, bindings, bottom⟩, rfl, hbinding.symm, htop, himports, hkept, hadded⟩

theorem fst_addImport_iff : (h.addImport lines).1 = true ↔ h.hasImport lines = false := by
  unfold addImport
  cases h.hasImport lines <;> simp

/-- Augmenting puts the import below a directive on the first line, or at the top, if none is found,
and the binding with an empty line below the first line, from the first signature on, that holds what
opens a body, if there is such a line and no binding is found. It adds nothing else, takes nothing
away, and says what it added. -/
theorem augment_only_adds (h : Hook) (lines : Buffer) :
    (∃ x : Additions, x.before = lines ∧ x.after = (h.augment lines).2 ∧
      h.Adds (h.augment lines).1 x) ∧
    ((h.augment lines).1.importAdded = true ↔ h.hasImport lines = false) ∧
    ((h.augment lines).1.bindingAdded = true ↔ h.hasBinding (h.addImport lines).2 = false ∧
      ∃ (s : Head) (offset : Nat), s.Leads lines ∧ s.Meets lines offset) ∧
    (h.augment lines).2.length = lines.length + (h.augment lines).1.importAdded.toNat +
      2 * (h.augment lines).1.bindingAdded.toNat ∧
    ∀ l ∈ lines.head?, DirectiveLine h.directives l → (h.augment lines).2.head? = some l := by
  have hbinding : (h.augment lines).1.bindingAdded = true ↔
      h.hasBinding (h.addImport lines).2 = false ∧
        ∃ (s : Head) (offset : Nat), s.Leads lines ∧ s.Meets lines offset := by
    rw [← exists_place_addImport]
    exact fst_addBinding_iff
  obtain ⟨x, rfl, hafter, hx⟩ := h.exists_adds lines
  refine ⟨⟨x, rfl, hafter, hx⟩, fst_addImport_iff, hbinding, ?_, ?_⟩
  · rw [← hafter]
    exact hx.length_eq
  · intro l hl hline
    rw [← hafter]
    exact hx.head?_eq hl hline

/-- The parameters stand on lines of their own, and so does what opens the body. -/
example : (Hook.ofConfig {}).augment ["'use client'".toList, "export function Page(\x7b".toList,
    "  title,".toList, "\x7d: Props) \x7b".toList] = (⟨true, true⟩,
    ["'use client'".toList, "import \x7b useTranslation \x7d from \"react-i18next\";".toList,
      "export function Page(\x7b".toList, "  title,".toList, "\x7d: Props) \x7b".toList,
      "  const \x7b t \x7d = useTranslation();".toList, []]) := by decide +kernel

end Hook
end Localize

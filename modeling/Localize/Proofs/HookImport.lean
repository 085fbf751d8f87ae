import Mathlib.Logic.Function.Iterate
import Localize.Proofs.Config
import Localize.Proofs.Pattern
import Localize.Proofs.Text
import Localize.Run

/-! The import of the hook is added once. What the search for an import accepts is said without the
search; the line that is added is accepted if the name begins and ends in word characters, and if it
is the only line it is accepted in no other case. -/

namespace Localize
namespace Hook

variable {name hookModule t rest : Text}

def mentionsHere (name : Text) (prev : Char) (t : Text) : List Text :=
  match name.isPrefixOf? t with
  | some rest =>
    if isBoundary (some prev) t.head? &&
        isBoundary (some (name.getLast?.getD prev)) rest.head? then [rest] else []
  | none => []

theorem mentions_nil (prev : Char) : mentions name prev [] = mentionsHere name prev [] := by
  rw [mentions]
  rfl

theorem mentions_cons (prev c : Char) (cs : Text) :
    mentions name prev (c :: cs) =
      mentionsHere name prev (c :: cs) ++ if c = '}' then [] else mentions name c cs := by
  rw [mentions]
  rfl

theorem mem_mentionsHere {prev : Char} :
    rest ∈ mentionsHere name prev t ↔ t = name ++ rest ∧
      isBoundary (some prev) t.head? = true ∧
      isBoundary (some (name.getLast?.getD prev)) rest.head? = true := by
  unfold mentionsHere
  split
  · rename_i rest' hrest
    have ht : name ++ rest' = t := List.isPrefixOf?_eq_some_iff_append_eq.1 hrest
    split
    · rename_i hbounds
      rw [Bool.and_eq_true] at hbounds
      rw [List.mem_singleton]
      constructor
      · rintro rfl
        exact ⟨ht.symm, hbounds⟩
      · rintro ⟨h, -⟩
        exact List.append_cancel_left (h.symm.trans ht.symm)
    · rename_i hbounds
      rw [Bool.and_eq_true] at hbounds
      constructor
      · intro h
        cases h
      · rintro ⟨h, hboth⟩
        obtain rfl : rest = rest' := List.append_cancel_left (h.symm.trans ht.symm)
        exact absurd hboth hbounds
  · rename_i hnone
    constructor
    · intro h
      cases h
    · rintro ⟨h, -⟩
      rw [List.isPrefixOf?_eq_some_iff_append_eq.2 h.symm] at hnone
      cases hnone

/-- The name is mentioned wherever it stands between boundaries and no `}` comes before it. -/
theorem mem_mentions {prev : Char} :
    rest ∈ mentions name prev t ↔ ∃ left : Text, '}' ∉ left ∧ t = left ++ (name ++ rest) ∧
      isBoundary (some (left.getLast?.getD prev)) (name ++ rest).head? = true ∧
      isBoundary (some (name.getLast?.getD (left.getLast?.getD prev))) rest.head? = true := by
  induction t generalizing prev with
  | nil =>
    rw [mentions_nil, mem_mentionsHere]
    constructor
    · rintro ⟨h, hopen, hclose⟩
      exact ⟨[], nofun, h, h ▸ hopen, hclose⟩
    · rintro ⟨left, -, h, hopen, hclose⟩
      obtain ⟨rfl, hnil⟩ := List.nil_eq_append_iff.1 h
      exact ⟨hnil.symm, hnil ▸ hopen, hclose⟩
  | cons c cs ih =>
    rw [mentions_cons, List.mem_append, mem_mentionsHere]
    constructor
    · rintro (⟨h, hopen, hclose⟩ | h)
      · exact ⟨[], nofun, h, h ▸ hopen, hclose⟩
      · split at h
        · cases h
        · rename_i hbrace
          obtain ⟨left, hleft, rfl, hopen, hclose⟩ := ih.1 h
          refine ⟨c :: left, ?_, rfl, ?_, ?_⟩
          · simpa using ⟨Ne.symm hbrace, hleft⟩
          · rwa [List.getLast?_cons, Option.getD_some]
          · rwa [List.getLast?_cons, Option.getD_some]
    · rintro ⟨left, hleft, h, hopen, hclose⟩
      cases left with
      | nil =>
        rw [List.nil_append] at h
        exact .inl ⟨h, h ▸ hopen, hclose⟩
      | cons d left =>
        rw [List.cons_append, List.cons.injEq] at h
        obtain ⟨rfl, rfl⟩ := h
        rw [List.mem_cons, not_or] at hleft
        rw [List.getLast?_cons, Option.getD_some] at hopen hclose
        rw [if_neg (Ne.symm hleft.1)]
        exact .inr (ih.2 ⟨left, hleft.2, rfl, hopen, hclose⟩)

/-- The text starts with an import of the name from the module, and `rest` comes behind it. -/
inductive ImportAt (name hookModule : Text) : Text → Text → Prop
  | intro {gap left right gap' gap'' rest : Text} {q q' : Char}
      (blanks : ∀ c ∈ gap, Text.isBlank c = true)
      (before : '}' ∉ left)
      (opens : isBoundary (some (left.getLast?.getD '{')) (name ++ (right ++ ['}'])).head? = true)
      (closes : isBoundary (some (name.getLast?.getD (left.getLast?.getD '{')))
        (right ++ ['}']).head? = true)
      (behind : '}' ∉ right)
      (blanks' : ∀ c ∈ gap', Text.isBlank c = true)
      (blanks'' : ∀ c ∈ gap'', Text.isBlank c = true)
      (quote : isQuote q = true)
      (quote' : isQuote q' = true) :
      ImportAt name hookModule ("import".toList ++ (gap ++ '{' :: (left ++ (name ++ (right ++ '}' ::
        (gap' ++ ("from".toList ++ (gap'' ++ q :: (hookModule ++ q' :: rest))))))))) rest

theorem head?_append_cons (as bs : Text) (c : Char) :
    (as ++ c :: bs).head? = (as ++ [c]).head? := by
  cases as <;> rfl

theorem head?_append_append_cons (as bs cs : Text) (c : Char) :
    (as ++ (bs ++ c :: cs)).head? = (as ++ (bs ++ [c])).head? := by
  cases as with
  | nil => exact head?_append_cons bs cs c
  | cons a as => rfl

theorem mem_importPattern :
    rest ∈ importPattern name hookModule t ↔ ImportAt name hookModule t rest := by
  simp only [importPattern, Pattern.mem_seq_cons, Pattern.mem_seq_nil, Pattern.mem_word,
    Pattern.mem_blanks, Pattern.mem_char, mem_mentions, Pattern.mem_many_ne, Pattern.mem_lit,
    Pattern.mem_one]
  constructor
  · rintro ⟨_, rfl, _, ⟨gap, hgap, rfl⟩, _, rfl, _, ⟨left, hleft, rfl, hopen, hclose⟩, _,
      ⟨right, hright, rfl⟩, _, rfl, _, ⟨gap', hgap', rfl⟩, _, rfl, _, ⟨gap'', hgap'', rfl⟩, _,
      ⟨q, hq, rfl⟩, _, rfl, _, ⟨q', hq', rfl⟩, rfl⟩
    rw [head?_append_append_cons] at hopen
    rw [head?_append_cons] at hclose
    exact .intro hgap hleft hopen hclose hright hgap' hgap'' hq hq'
  · rintro ⟨hgap, hleft, hopen, hclose, hright, hgap', hgap'', hq, hq'⟩
    refine ⟨_, rfl, _, ⟨_, hgap, rfl⟩, _, rfl, _, ⟨_, hleft, rfl, ?_, ?_⟩, _, ⟨_, hright, rfl⟩, _,
      rfl, _, ⟨_, hgap', rfl⟩, _, rfl, _, ⟨_, hgap'', rfl⟩, _, ⟨_, hq, rfl⟩, _, rfl, _,
      ⟨_, hq', rfl⟩, rfl⟩
    · rwa [head?_append_append_cons]
    · rwa [head?_append_cons]

theorem hasImport_iff {h : Hook} {lines : Buffer} :
    h.hasImport lines = true ↔ ∃ before after rest,
      Text.joined ['\n'] lines = before ++ after ∧ ImportAt h.hookName h.hookModule after rest := by
  simp only [hasImport, Pattern.anywhere_iff, mem_importPattern]

/-- Blanks around the name are boundaries of it. -/
def BoundedByWords (name : Text) : Prop :=
  name.head?.any Text.isWord = true ∧ name.getLast?.any Text.isWord = true

theorem importLine_eq (name hookModule : Text) :
    importLine name hookModule = "import".toList ++ ([' '] ++ '{' :: ([' '] ++ (name ++ ([' '] ++
      '}' :: ([' '] ++ ("from".toList ++ ([' '] ++ '"' :: (hookModule ++ ['"', ';'])))))))) := by
  unfold importLine
  rewrite [List.append_assoc, List.append_assoc, List.append_assoc]
  rfl

theorem isBoundary_of_forall_left {before : Option Char} (h : ∀ c ∈ before, Text.isWord c = false)
    (after : Option Char) : isBoundary before after = after.any Text.isWord := by
  cases before with
  | none => cases after <;> simp [isBoundary]
  | some c => cases after <;> simp [isBoundary, h c rfl]

theorem isBoundary_of_forall_right {after : Option Char} (h : ∀ c ∈ after, Text.isWord c = false)
    (before : Option Char) : isBoundary before after = before.any Text.isWord := by
  cases after with
  | none => cases before <;> simp [isBoundary]
  | some c => cases before <;> simp [isBoundary, h c rfl]

theorem isBoundary_blank_left (after : Option Char) :
    isBoundary (some ' ') after = after.any Text.isWord :=
  isBoundary_of_forall_left (by rintro _ ⟨⟩; rfl) after

theorem isBoundary_blank_right (before : Option Char) :
    isBoundary before (some ' ') = before.any Text.isWord :=
  isBoundary_of_forall_right (by rintro _ ⟨⟩; rfl) before

theorem importAt_importLine (h : BoundedByWords name) (hookModule after : Text) :
    ImportAt name hookModule (importLine name hookModule ++ after) (';' :: after) := by
  obtain ⟨hfirst, hlast⟩ := h
  have hblank : ∀ c ∈ [' '], Text.isBlank c = true := List.forall_mem_singleton.2 rfl
  have hbrace : '}' ∉ [' '] := by decide
  have hopens : isBoundary (some ' ') (name ++ ([' '] ++ ['}'])).head? = true := by
    cases name with
    | nil => cases hfirst
    | cons c cs => rwa [isBoundary_blank_left]
  have hcloses : isBoundary (some (name.getLast?.getD ' ')) ([' '] ++ ['}']).head? = true := by
    cases hname : name.getLast? with
    | none => rw [hname] at hlast; cases hlast
    | some c => rw [hname] at hlast; exact (isBoundary_blank_right _).trans hlast
  have hquote : isQuote '"' = true := rfl
  rw [importLine_eq]
  simp only [List.append_assoc, List.cons_append, List.nil_append]
  exact .intro hblank hbrace hopens hcloses hbrace hblank hblank hquote hquote

/-- An added line that is bounded by words is found again, whatever surrounds it. -/
theorem hasImport_of_mem {h : Hook} {lines : Buffer} (hname : BoundedByWords h.hookName)
    (hmem : importLine h.hookName h.hookModule ∈ lines) : h.hasImport lines = true := by
  obtain ⟨before, after, heq⟩ := Text.infix_joined_of_mem hmem
  rw [hasImport_iff]
  refine ⟨before, importLine h.hookName h.hookModule ++ after, ';' :: after, ?_,
    importAt_importLine hname _ after⟩
  rw [← heq, List.append_assoc]

theorem eq_nil_of_importAt {before after : Text}
    (heq : importLine name hookModule = before ++ after)
    (himport : ImportAt name hookModule after rest) : before = [] := by
  have hword : "import".toList.length = 6 := rfl
  have hfrom : "from".toList.length = 4 := rfl
  have hstart : after.head? = some 'i' ∧ name.length + hookModule.length + 14 ≤ after.length := by
    obtain ⟨-, -, -, -, -, -, -, -, -⟩ := himport
    refine ⟨rfl, ?_⟩
    simp only [List.length_append, List.length_cons, hword, hfrom]
    omega
  rw [importLine_eq, ← List.append_assoc] at heq
  have hle : before.length ≤ 6 := by
    have hlength := congrArg List.length heq
    simp only [List.length_append, List.length_cons, List.length_nil, hword, hfrom] at hlength
    omega
  have hget : ("import".toList ++ [' '])[before.length]? = some 'i' := by
    rw [← List.getElem?_append_left (by simpa [hword] using Nat.lt_succ_of_le hle), heq,
      List.getElem?_append_right (Nat.le_refl _), Nat.sub_self, ← List.head?_eq_getElem?]
    exact hstart.1
  have honly : ∀ n, n ≤ 6 → ("import".toList ++ [' '])[n]? = some 'i' → n = 0 := by decide
  exact List.eq_nil_of_length_eq_zero (honly _ hle hget)

theorem eq_blanks_of_append_eq {left right : Text} (hne : name ≠ []) (hblank : ' ' ∉ name)
    (h : left ++ (name ++ right) = [' '] ++ (name ++ [' '])) : left = [' '] ∧ right = [' '] := by
  cases left with
  | nil =>
    obtain ⟨c, cs, rfl⟩ := List.exists_cons_of_ne_nil hne
    rw [List.nil_append, List.cons_append, List.singleton_append, List.cons.injEq] at h
    exact absurd (h.1 ▸ List.mem_cons_self) hblank
  | cons c left =>
    rw [List.cons_append, List.singleton_append, List.cons.injEq, ← List.append_assoc] at h
    obtain ⟨rfl, h⟩ := h
    rcases List.eq_nil_or_concat right with rfl | ⟨right, d, rfl⟩
    · have hlast := congrArg List.getLast? h
      rw [List.append_nil, List.getLast?_append_of_ne_nil _ hne, List.getLast?_concat] at hlast
      exact absurd (List.mem_of_getLast? hlast) hblank
    · rw [List.concat_eq_append, ← List.append_assoc] at h
      obtain ⟨hname, hd⟩ := List.append_inj' h rfl
      have hlength := congrArg List.length hname
      simp only [List.length_append] at hlength
      obtain rfl := List.eq_nil_of_length_eq_zero (l := left) (by omega)
      obtain rfl := List.eq_nil_of_length_eq_zero (l := right) (by omega)
      exact ⟨rfl, hd⟩

/-- Alone, the added line is an import only if its name is bounded by words. -/
theorem boundedByWords_of_importAt {before after : Text} (hne : name ≠ []) (hblank : ' ' ∉ name)
    (hbrace : '}' ∉ name) (heq : importLine name hookModule = before ++ after)
    (himport : ImportAt name hookModule after rest) : BoundedByWords name := by
  obtain rfl := eq_nil_of_importAt heq himport
  rw [List.nil_append] at heq
  subst heq
  generalize hline : importLine name hookModule = line at himport
  rw [importLine_eq] at hline
  obtain ⟨hgap, hleft, hopens, hcloses, hright, -, -, -, -⟩ := himport
  rename_i gap left right _ _ _ _
  rw [List.append_cancel_left_eq] at hline
  have hgap : '{' ∉ gap := fun h => absurd (hgap '{' h) (by decide)
  obtain ⟨-, hline⟩ := Text.eq_of_append_cons_eq (by decide) hgap hline
  have hnames : ∀ as bs : Text, '}' ∉ as → '}' ∉ bs → '}' ∉ as ++ (name ++ bs) := by
    simp only [List.mem_append, not_or]
    exact fun as bs has hbs => ⟨has, hbrace, hbs⟩
  have hshape : ∀ as bs cs : Text,
      as ++ (name ++ (bs ++ '}' :: cs)) = as ++ (name ++ bs) ++ '}' :: cs := by simp
  rw [hshape, hshape] at hline
  have hcut := (Text.eq_of_append_cons_eq (hnames _ _ (by decide) (by decide))
    (hnames _ _ hleft hright) hline).1
  obtain ⟨rfl, rfl⟩ := eq_blanks_of_append_eq hne hblank hcut.symm
  constructor
  · obtain ⟨c, cs, rfl⟩ := List.exists_cons_of_ne_nil hne
    exact (isBoundary_blank_left _).symm.trans hopens
  · have hlast := (isBoundary_blank_right _).symm.trans hcloses
    cases hname : name.getLast? with
    | none => exact absurd (List.getLast?_eq_none_iff.1 hname) hne
    | some c => rwa [hname] at hlast

theorem mem_insertAt (index : Nat) (line : Text) (lines : Buffer) :
    line ∈ insertAt index [line] lines :=
  List.mem_append_left _ (List.mem_append_right _ List.mem_cons_self)

/-- The import is in place: it is found, and no further attempt to add it does anything. -/
structure ImportSettled (h : Hook) (lines : Buffer) : Prop where
  found : h.hasImport lines = true
  kept : h.addImport lines = (false, lines)
  never : ∀ n, (fun b => (h.addImport b).2)^[n] lines = lines

theorem importSettled_of_hasImport {h : Hook} {lines : Buffer} (hfound : h.hasImport lines = true) :
    h.ImportSettled lines := by
  have hkept : h.addImport lines = (false, lines) := if_pos hfound
  exact ⟨hfound, hkept, fun n => Function.iterate_fixed (congrArg Prod.snd hkept) n⟩

theorem hasImport_addImport {h : Hook} (hname : BoundedByWords h.hookName) (lines : Buffer) :
    h.hasImport (h.addImport lines).2 = true := by
  unfold addImport
  split
  · assumption
  · exact hasImport_of_mem hname (mem_insertAt _ _ _)

theorem not_hasImport_nil (h : Hook) : h.hasImport [] = false := by
  rw [Bool.eq_false_iff, ne_eq, hasImport_iff]
  rintro ⟨before, after, rest, heq, himport⟩
  obtain ⟨-, rfl⟩ := List.nil_eq_append_iff.1 heq
  cases himport

theorem addImport_nil (h : Hook) :
    h.addImport [] = (true, [importLine h.hookName h.hookModule]) := by
  rw [addImport, not_hasImport_nil]
  rfl

theorem boundedByWords_iff {name : Text} (h : Config.isIdentifier name = true) :
    BoundedByWords name ↔ name.head? ≠ some '$' ∧ name.getLast? ≠ some '$' := by
  have hend : ∀ end? : Option Char, end? ≠ none → (∀ c, end? = some c → c ∈ name) →
      (end?.any Text.isWord = true ↔ end? ≠ some '$') := by
    intro end? hsome hmem
    cases end? with
    | none => exact absurd rfl hsome
    | some c =>
      rw [Option.any_some]
      constructor
      · rintro hword heq
        obtain rfl := Option.some.inj heq
        exact absurd hword (by decide)
      · intro hne
        exact Config.isWord_of_mem_identifier h (hmem c rfl) fun he => hne (he ▸ rfl)
  have hne := Config.ne_nil_of_isIdentifier h
  exact and_congr
    (hend _ (mt List.head?_eq_none_iff.1 hne) fun c hc => List.mem_of_head? hc)
    (hend _ (mt List.getLast?_eq_none_iff.1 hne) fun c hc => List.mem_of_getLast? hc)

theorem hasImport_importLine_iff {h : Hook} (hid : Config.isIdentifier h.hookName = true) :
    h.hasImport [importLine h.hookName h.hookModule] = true ↔ BoundedByWords h.hookName := by
  constructor
  · intro hfound
    rw [hasImport_iff, Text.joined_singleton] at hfound
    obtain ⟨before, after, rest, heq, himport⟩ := hfound
    have hblank : ' ' ∉ h.hookName := Config.not_mem_identifier hid (by decide) (by decide)
    have hbrace : '}' ∉ h.hookName := Config.not_mem_identifier hid (by decide) (by decide)
    exact boundedByWords_of_importAt (Config.ne_nil_of_isIdentifier hid) hblank hbrace heq himport
  · intro hname
    exact hasImport_of_mem hname List.mem_cons_self

theorem addImport_again {h : Hook} (hid : Config.isIdentifier h.hookName = true)
    (hname : ¬ BoundedByWords h.hookName) :
    h.addImport [importLine h.hookName h.hookModule] =
      (true, [importLine h.hookName h.hookModule, importLine h.hookName h.hookModule]) := by
  rw [addImport, if_neg (mt (hasImport_importLine_iff hid).1 hname)]
  unfold importIndex
  split <;> rfl

/-- Under a usable configuration the import is in place in every file to which it was added, for
good, exactly if the name of the hook does not begin or end in a dollar sign. -/
theorem addImport_settles_iff {c : Config} (h : c.IsValid) :
    (∀ lines, (ofConfig c).ImportSettled ((ofConfig c).addImport lines).2) ↔
      c.hookName.head? ≠ some '$' ∧ c.hookName.getLast? ≠ some '$' := by
  obtain ⟨-, -, -, -, hid, -⟩ := Config.isValid_iff.1 h
  rw [← boundedByWords_iff hid]
  constructor
  · intro hsettled
    have hfound := (hsettled []).found
    rw [addImport_nil] at hfound
    exact (hasImport_importLine_iff hid).1 hfound
  · intro hname lines
    exact importSettled_of_hasImport (hasImport_addImport hname lines)

/-- The name of the hook as it is if nothing is configured. -/
theorem addImport_settles_by_default :
    ({} : Config).IsValid ∧
      ∀ lines, (ofConfig {}).ImportSettled ((ofConfig {}).addImport lines).2 := by
  have hvalid : ({} : Config).IsValid := by decide
  exact ⟨hvalid, (addImport_settles_iff hvalid).2 (by decide)⟩

/-- With `$t` as the name of the hook, an empty file gets its import twice. -/
theorem import_added_twice :
    ({ hookName := "$t".toList } : Config).IsValid ∧
      let hook := ofConfig { hookName := "$t".toList }
      let line := "import \x7b $t \x7d from \"react-i18next\";".toList
      hook.addImport [] = (true, [line]) ∧ hook.hasImport [line] = false ∧
        hook.addImport [line] = (true, [line, line]) := by
  have hid : Config.isIdentifier "$t".toList = true := by decide
  have hname : ¬ BoundedByWords "$t".toList := by
    rw [boundedByWords_iff hid]
    decide
  refine ⟨by decide, addImport_nil _, ?_, addImport_again hid hname⟩
  rw [Bool.eq_false_iff]
  exact mt (hasImport_importLine_iff hid).1 hname

end Hook
end Localize

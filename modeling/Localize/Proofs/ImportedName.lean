import Localize.Proofs.HookImport

/-! Which imports bind the name of the hook. An import lists specifiers between commas, and one binds
the name if it is the name or renames something to it. The search for an import is content with the
name as a word of its own anywhere in the list, so a specifier that renames the hook, a longer name
with a dollar sign and a comment are found as well. Where they are all that is found, the import is
not added and the name stays unbound. -/

namespace Localize.Hook

/-- The text holds an import of `list` from the module. -/
inductive ImportsFrom (hookModule list : Text) : Text → Prop
  | intro (before rest : Text) {gap gap' gap'' : Text} {q q' : Char}
      (blanks : ∀ c ∈ gap, Text.isBlank c = true)
      (single : '}' ∉ list)
      (blanks' : ∀ c ∈ gap', Text.isBlank c = true)
      (blanks'' : ∀ c ∈ gap'', Text.isBlank c = true)
      (quote : isQuote q = true)
      (quote' : isQuote q' = true) :
      ImportsFrom hookModule list (before ++ ("import".toList ++ (gap ++ '{' :: (list ++ '}' ::
        (gap' ++ ("from".toList ++ (gap'' ++ q :: (hookModule ++ q' :: rest))))))))

def specifiers (list : Text) : List Text := Text.fields ',' list

/-- The specifier is the name, or it ends in `as` and the name. -/
def Binds (name specifier : Text) : Prop :=
  Text.trim specifier = name ∨ ∃ front gap : Text, gap ≠ [] ∧ (∀ c ∈ gap, Text.isBlank c = true) ∧
    Text.trim specifier = front ++ ("as".toList ++ (gap ++ name))

/-- The name stands in the text as a word of its own. -/
def HasWord (name t : Text) : Prop :=
  ∃ left right, t = left ++ (name ++ right) ∧ isBoundary left.getLast? name.head? = true ∧
    isBoundary name.getLast? right.head? = true

/-- An import from the hook's module has a specifier of which `p` holds. -/
def ImportsWith (h : Hook) (p : Text → Prop) (lines : Buffer) : Prop :=
  ∃ list, ImportsFrom h.hookModule list (Text.joined ['\n'] lines) ∧ ∃ s ∈ specifiers list, p s

/-- The buffer imports something from the hook's module under the name of the hook. -/
def Imported (h : Hook) (lines : Buffer) : Prop := h.ImportsWith (Binds h.hookName) lines

/-- An import from the hook's module mentions the name of the hook. -/
def Mentioned (h : Hook) (lines : Buffer) : Prop := h.ImportsWith (HasWord h.hookName) lines

variable {name hookModule list t left right : Text}

theorem isBoundary_getLast?_append {front : Text} (h : ∀ c ∈ front.getLast?, Text.isWord c = false)
    (after : Option Char) :
    isBoundary (front ++ left).getLast? after = isBoundary left.getLast? after := by
  rw [List.getLast?_append]
  cases left.getLast? with
  | some c => rfl
  | none =>
    cases hlast : front.getLast? with
    | none => rfl
    | some c => simp [isBoundary, h c hlast]

theorem isBoundary_head?_append {back : Text} (h : ∀ c ∈ back.head?, Text.isWord c = false)
    (before : Option Char) :
    isBoundary before (right ++ back).head? = isBoundary before right.head? := by
  rw [List.head?_append]
  cases right.head? with
  | some c => rfl
  | none =>
    cases hhead : back.head? with
    | none => rfl
    | some c => simp [isBoundary, h c hhead]

/-- A word that holds no comma is a word of one specifier. -/
theorem hasWord_iff_exists_specifier (hcomma : ',' ∉ name) :
    HasWord name list ↔ ∃ s ∈ specifiers list, HasWord name s := by
  have hword : ∀ c, c = ',' → Text.isWord c = false := by
    rintro c rfl
    rfl
  constructor
  · rintro ⟨left, right, rfl, hopens, hcloses⟩
    obtain ⟨before, left, right, after, rfl, rfl, hmem, hbefore, hafter⟩ :=
      Text.exists_field_around hcomma left right
    -- A comma is no word character, so the boundaries in the list are those in the specifier.
    rw [isBoundary_getLast?_append fun c hc => hword c (hbefore c hc)] at hopens
    rw [isBoundary_head?_append fun c hc => hword c (hafter c hc)] at hcloses
    exact ⟨_, hmem, left, right, rfl, hopens, hcloses⟩
  · rintro ⟨s, hs, left, right, rfl, hopens, hcloses⟩
    obtain ⟨-, before, after, rfl, hbefore, hafter⟩ := Text.mem_fields_iff.1 hs
    refine ⟨before ++ left, right ++ after, by simp, ?_, ?_⟩
    · rwa [isBoundary_getLast?_append fun c hc => hword c (hbefore c hc)]
    · rwa [isBoundary_head?_append fun c hc => hword c (hafter c hc)]

theorem isBoundary_brace_left (after : Option Char) :
    isBoundary (some (left.getLast?.getD '{')) after = isBoundary left.getLast? after := by
  cases left.getLast? with
  | some c => rfl
  | none =>
    have hbrace : Text.isWord '{' = false := rfl
    simp [isBoundary, hbrace]

theorem isBoundary_brace_right (before : Option Char) :
    isBoundary before (right ++ ['}']).head? = isBoundary before right.head? :=
  isBoundary_head?_append (by simp; rfl) before

theorem head?_append_of_ne_nil (hne : name ≠ []) (t : Text) : (name ++ t).head? = name.head? := by
  cases name with
  | nil => exact absurd rfl hne
  | cons c cs => rfl

/-- The search finds the imports with the name as a word in their lists. -/
theorem exists_importAt_iff (hne : name ≠ []) (hbrace : '}' ∉ name) :
    (∃ before after rest, t = before ++ after ∧ ImportAt name hookModule after rest) ↔
      ∃ list, ImportsFrom hookModule list t ∧ HasWord name list := by
  obtain ⟨last, hlast⟩ := Option.isSome_iff_exists.1 (List.getLast?_isSome.2 hne)
  constructor
  · rintro ⟨before, _, rest, rfl, ⟨hgap, hleft, hopens, hcloses, hright, hgap', hgap'', hq, hq'⟩⟩
    rename_i gap left right gap' gap'' q q'
    rw [isBoundary_brace_left, head?_append_of_ne_nil hne] at hopens
    rw [hlast, Option.getD_some, isBoundary_brace_right, ← hlast] at hcloses
    refine ⟨left ++ (name ++ right), ?_, left, right, rfl, hopens, hcloses⟩
    have himport : ImportsFrom hookModule (left ++ (name ++ right)) _ :=
      .intro before rest hgap (by simp [hleft, hbrace, hright]) hgap' hgap'' hq hq'
    simpa only [List.append_assoc] using himport
  · rintro ⟨_, ⟨before, rest, hgap, hsingle, hgap', hgap'', hq, hq'⟩, left, right, rfl, hopens,
      hcloses⟩
    rename_i gap gap' gap'' q q'
    simp only [List.mem_append, not_or] at hsingle
    rw [← head?_append_of_ne_nil hne (right ++ ['}']), ← isBoundary_brace_left] at hopens
    rw [hlast, ← isBoundary_brace_right] at hcloses
    refine ⟨before, _, rest, rfl, ?_⟩
    simp only [List.append_assoc]
    refine .intro hgap hsingle.1 hopens ?_ hsingle.2.2 hgap' hgap'' hq hq'
    rwa [hlast, Option.getD_some]

theorem hasImport_iff_mentioned {h : Hook} {lines : Buffer} (hne : h.hookName ≠ [])
    (hbrace : '}' ∉ h.hookName) (hcomma : ',' ∉ h.hookName) :
    h.hasImport lines = true ↔ h.Mentioned lines := by
  rw [hasImport_iff, exists_importAt_iff hne hbrace]
  simp only [Mentioned, ImportsWith, ← hasWord_iff_exists_specifier hcomma]

theorem ImportsFrom.list_eq {before list' behind : Text} (h : ImportsFrom hookModule list t)
    (ht : t = before ++ '{' :: (list' ++ '}' :: behind)) (hbefore : '{' ∉ before)
    (hbehind : '{' ∉ list' ++ '}' :: behind) (hlist : '}' ∉ list') : list = list' := by
  obtain ⟨front, rest, -, hsingle, -, -, -, -⟩ := h
  rw [← List.append_assoc, ← List.append_assoc] at ht
  obtain ⟨-, hinner⟩ := Text.eq_of_append_cons_eq_of_not_mem hbefore hbehind ht
  exact (Text.eq_of_append_cons_eq hsingle hlist hinner).1

theorem Binds.isSuffix {s : Text} (h : Binds name s) : name <:+ Text.trim s := by
  rcases h with heq | ⟨front, gap, -, -, heq⟩
  · rw [heq]
  · exact ⟨front ++ ("as".toList ++ gap), by rw [heq]; simp⟩

theorem HasWord.isInfix (h : HasWord name t) : name <:+: t := by
  obtain ⟨left, right, rfl, -, -⟩ := h
  exact ⟨left, right, List.append_assoc _ _ _⟩

/-- What binds a name that is bounded by words mentions it. -/
theorem hasWord_of_binds {s : Text} (hname : BoundedByWords name) (h : Binds name s) :
    HasWord name s := by
  obtain ⟨front, back, hfront, hback, hs⟩ := Text.exists_trim s
  have hcloses : isBoundary name.getLast? back.head? = true := by
    rw [isBoundary_of_forall_right fun c hc => Text.isWord_of_isBlank <|
      hback c (List.mem_of_head? hc)]
    exact hname.2
  have hopens : ∀ gap : Text, (∀ c ∈ gap.getLast?, Text.isBlank c = true) →
      isBoundary gap.getLast? name.head? = true := by
    intro gap hgap
    rw [isBoundary_of_forall_left fun c hc => Text.isWord_of_isBlank (hgap c hc)]
    exact hname.1
  rcases h with heq | ⟨before, gap, hne, hgap, heq⟩
  · rw [heq] at hs
    exact ⟨front, back, hs, hopens front fun c hc => hfront c (List.mem_of_getLast? hc), hcloses⟩
  · rw [heq] at hs
    refine ⟨front ++ (before ++ ("as".toList ++ gap)), back, by simpa using hs, ?_, hcloses⟩
    rw [← List.append_assoc, ← List.append_assoc, List.getLast?_append_of_ne_nil _ hne]
    exact hopens gap fun c hc => hgap c (List.mem_of_getLast? hc)

theorem Mentioned.of_imported {h : Hook} {lines : Buffer} (hname : BoundedByWords h.hookName)
    (himported : h.Imported lines) : h.Mentioned lines := by
  obtain ⟨list, himport, s, hs, hbinds⟩ := himported
  exact ⟨list, himport, s, hs, hasWord_of_binds hname hbinds⟩

theorem imported_of_mem {h : Hook} {lines : Buffer} (hid : Config.isIdentifier h.hookName = true)
    (hmem : importLine h.hookName h.hookModule ∈ lines) : h.Imported lines := by
  obtain ⟨before, after, hjoined⟩ : importLine h.hookName h.hookModule <:+:
    Text.joined ['\n'] lines := Text.infix_joined_of_mem hmem
  have hblank : ∀ c ∈ [' '], Text.isBlank c = true := List.forall_mem_singleton.2 rfl
  have hbrace : '}' ∉ h.hookName := Config.not_mem_identifier hid (by decide) (by decide)
  have hcomma : ',' ∉ h.hookName := Config.not_mem_identifier hid (by decide) (by decide)
  have hquote : isQuote '"' = true := rfl
  refine ⟨[' '] ++ (h.hookName ++ [' ']), ?_, [' '] ++ (h.hookName ++ [' ']), ?_, .inl ?_⟩
  · have himport : ImportsFrom h.hookModule ([' '] ++ (h.hookName ++ [' '])) _ :=
      .intro before (';' :: after) hblank (by simp [hbrace]) hblank hblank hquote hquote
    rw [← hjoined, importLine_eq]
    simpa using himport
  · rw [specifiers, Text.fields_of_not_mem (by simp [hcomma])]
    exact List.mem_singleton_self _
  · exact Text.trim_append_append hblank hblank
      (fun c hc => Config.isBlank_of_mem_identifier hid (List.mem_of_head? hc))
      (fun c hc => Config.isBlank_of_mem_identifier hid (List.mem_of_getLast? hc))

theorem fst_addImport {h : Hook} {lines : Buffer} :
    (h.addImport lines).1 = false ↔ h.hasImport lines = true := by
  unfold addImport
  split <;> simp_all

/-- The search finds exactly the imports that mention the name of the hook as a word. It adds nothing
where the name is bound, unless the name begins or ends in a dollar sign, and where it adds nothing
the name is bound as long as each specifier that mentions it binds it. Once the import was to be
added the name is bound, unless some import mentions it and none binds it. -/
theorem import_bound_unless_mentioned {c : Config} (h : c.IsValid) (lines : Buffer) :
    let hook := ofConfig c
    (hook.hasImport lines = true ↔ hook.Mentioned lines) ∧
    ((c.hookName.head? ≠ some '$' ∧ c.hookName.getLast? ≠ some '$') → hook.Imported lines →
      hook.addImport lines = (false, lines)) ∧
    ((∀ list, ImportsFrom c.hookModule list (Text.joined ['\n'] lines) → ∀ s ∈ specifiers list,
      HasWord c.hookName s → Binds c.hookName s) →
      (hook.addImport lines).1 = false → hook.Imported lines) ∧
    (hook.Imported (hook.addImport lines).2 ↔ (hook.Mentioned lines → hook.Imported lines)) := by
  intro hook
  obtain ⟨-, -, -, -, hid, -⟩ := Config.isValid_iff.1 h
  have hfound : hook.hasImport lines = true ↔ hook.Mentioned lines :=
    hasImport_iff_mentioned (Config.ne_nil_of_isIdentifier hid)
      (Config.not_mem_identifier hid (by decide) (by decide))
      (Config.not_mem_identifier hid (by decide) (by decide))
  refine ⟨hfound, fun hdollar himported => ?_, fun hplain hkept => ?_, ?_⟩
  · have hname : BoundedByWords hook.hookName := (boundedByWords_iff hid).2 hdollar
    exact if_pos (hfound.2 (.of_imported hname himported))
  · obtain ⟨list, himport, s, hs, hword⟩ := hfound.1 (fst_addImport.1 hkept)
    exact ⟨list, himport, s, hs, hplain list himport s hs hword⟩
  · by_cases hmentioned : hook.Mentioned lines
    · rw [addImport, if_pos (hfound.2 hmentioned)]
      exact ⟨fun h _ => h, fun h => h hmentioned⟩
    · rw [addImport, if_neg (mt hfound.1 hmentioned)]
      exact ⟨fun _ h => absurd h hmentioned,
        fun _ => imported_of_mem hid (mem_insertAt _ _ _)⟩

def importOf (list : String) : Text :=
  "import \x7b".toList ++ list.toList ++ "\x7d from \"react-i18next\";".toList

theorem importsFrom_importOf {list' : String} (h : ImportsFrom hookModule list (importOf list'))
    (hopening : '{' ∉ list'.toList) (hclosing : '}' ∉ list'.toList) : list = list'.toList := by
  have hshape : importOf list' = "import ".toList ++ '{' :: (list'.toList ++ '}' ::
      " from \"react-i18next\";".toList) := by
    unfold importOf
    rewrite [List.append_assoc]
    rfl
  refine h.list_eq hshape (by decide) ?_ hclosing
  rw [List.mem_append, not_or]
  exact ⟨hopening, by decide⟩

def severalNames : Buffer :=
  ["import \x7b".toList, "  Trans as T,".toList, "  useTranslation,".toList,
    "\x7d from \"react-i18next\";".toList]

theorem import_bound_severalNames :
    ({} : Config).IsValid ∧ (ofConfig {}).Imported severalNames ∧
      (ofConfig {}).addImport severalNames = (false, severalNames) := by
  have hvalid : ({} : Config).IsValid := by decide
  have hdollar : ({} : Config).hookName.head? ≠ some '$' ∧
      ({} : Config).hookName.getLast? ≠ some '$' := by decide
  have hkept : ((ofConfig {}).addImport severalNames).1 = false := by decide +kernel
  obtain ⟨-, hsettled, hbound, -⟩ := import_bound_unless_mentioned hvalid severalNames
  have himported : (ofConfig {}).Imported severalNames := by
    refine hbound (fun list himport s hs hword => ?_) hkept
    have hjoined : Text.joined ['\n'] severalNames =
        importOf "\n  Trans as T,\n  useTranslation,\n" := by decide
    rw [hjoined] at himport
    rw [importsFrom_importOf himport (by decide) (by decide)] at hs
    have hlist : specifiers "\n  Trans as T,\n  useTranslation,\n".toList =
        ["\n  Trans as T".toList, "\n  useTranslation".toList, "\n".toList] := by decide
    simp only [hlist, List.mem_cons, List.not_mem_nil, or_false] at hs
    rcases hs with rfl | rfl | rfl
    · exact absurd hword.isInfix (by decide)
    · exact .inl (by decide)
    · exact absurd hword.isInfix (by decide)
  exact ⟨hvalid, himported, hsettled hdollar himported⟩

/-- The hook under another name, another hook whose name is longer, and a comment. -/
def onlyMentions : List String :=
  [" useTranslation as useT ", " useTranslation$ ", " Trans /* useTranslation */ "]

/-- An import that only mentions the name is taken for one that binds it. -/
theorem mentioned_name_not_bound :
    ({} : Config).IsValid ∧ ∀ list ∈ onlyMentions,
      (ofConfig {}).hasImport [importOf list] = true ∧
      (ofConfig {}).addImport [importOf list] = (false, [importOf list]) ∧
      ¬ (ofConfig {}).Imported [importOf list] := by
  have hfound : ∀ list ∈ onlyMentions, (ofConfig {}).hasImport [importOf list] = true := by
    decide +kernel
  refine ⟨by decide, fun list hmem => ⟨hfound list hmem, if_pos (hfound list hmem), ?_⟩⟩
  rintro ⟨list', himport, s, hs, hbinds⟩
  have hbraces : ∀ list ∈ onlyMentions, '{' ∉ list.toList ∧ '}' ∉ list.toList := by decide
  have hnone : ∀ list ∈ onlyMentions, ∀ s ∈ specifiers list.toList,
      ¬ ({} : Config).hookName <:+ Text.trim s := by decide
  rw [Text.joined_singleton] at himport
  rw [importsFrom_importOf himport (hbraces list hmem).1 (hbraces list hmem).2] at hs
  -- What binds the name ends in it, and none of these specifiers does.
  exact hnone list hmem s hs hbinds.isSuffix

end Localize.Hook

import Localize.Hook
import Localize.Proofs.Config
import Localize.Proofs.Pattern
import Localize.Proofs.Text

/-! Which declarations bind the message function. A declaration takes elements between commas out of
what the hook gives, and one binds the function if an element is its name and nothing else. The
search for a binding allows for elements before the name and behind it, which end and begin in a
comma; that is the same. The statement that is added is found, whatever stands around it. -/

namespace Localize.Hook

/-- The text starts with a declaration that takes the function out of what the hook gives, and `rest`
comes behind the parenthesis. Elements may stand before and behind the function. -/
inductive BindingAt (translateFn hookName : Text) : Text → Text → Prop
  | intro {keyword gap left gap₁ gap₂ right gap₃ gap₄ gap₅ rest : Text}
      (declares : keyword ∈ ["const".toList, "let".toList, "var".toList])
      (blanks : ∀ c ∈ gap, Text.isBlank c = true)
      (before : '}' ∉ left)
      (before' : ∀ c ∈ left.getLast?, c = ',')
      (blanks₁ : ∀ c ∈ gap₁, Text.isBlank c = true)
      (blanks₂ : ∀ c ∈ gap₂, Text.isBlank c = true)
      (behind : '}' ∉ right)
      (behind' : ∀ c ∈ right.head?, c = ',')
      (blanks₃ : ∀ c ∈ gap₃, Text.isBlank c = true)
      (blanks₄ : ∀ c ∈ gap₄, Text.isBlank c = true)
      (blanks₅ : ∀ c ∈ gap₅, Text.isBlank c = true) :
      BindingAt translateFn hookName (keyword ++ (gap ++ '{' :: (left ++ (gap₁ ++ (translateFn ++
        (gap₂ ++ (right ++ '}' :: (gap₃ ++ '=' :: (gap₄ ++ (hookName ++ (gap₅ ++ '(' ::
          rest))))))))))) rest

variable {translateFn hookName name t rest : Text}

theorem mem_opt_elements : rest ∈ Pattern.opt elements t ↔
    ∃ left : Text, '}' ∉ left ∧ (∀ c ∈ left.getLast?, c = ',') ∧ t = left ++ rest := by
  simp only [Pattern.mem_opt, elements, Pattern.mem_seq_cons, Pattern.mem_seq_nil,
    Pattern.mem_many_ne, Pattern.mem_char]
  constructor
  · rintro (⟨_, ⟨front, hfront, rfl⟩, _, rfl, rfl⟩ | rfl)
    · exact ⟨front ++ [','], by simp [hfront], by simp, by simp⟩
    · exact ⟨[], List.not_mem_nil, nofun, rfl⟩
  · rintro ⟨left, hleft, hlast, rfl⟩
    rcases List.eq_nil_or_concat left with rfl | ⟨front, c, rfl⟩
    · exact .inr rfl
    · rw [List.concat_eq_append] at hleft hlast ⊢
      obtain rfl := hlast c List.getLast?_concat
      refine .inl ⟨_, ⟨front, fun h => hleft (List.mem_append_left _ h), ?_⟩, rest, rfl, rfl⟩
      simp

theorem mem_opt_others : rest ∈ Pattern.opt (.seq [.char ',', .many (· != '}')]) t ↔
    ∃ right : Text, '}' ∉ right ∧ (∀ c ∈ right.head?, c = ',') ∧ t = right ++ rest := by
  simp only [Pattern.mem_opt, Pattern.mem_seq_cons, Pattern.mem_seq_nil,
    Pattern.mem_many_ne, Pattern.mem_char]
  constructor
  · rintro (⟨_, rfl, _, ⟨back, hback, rfl⟩, rfl⟩ | rfl)
    · exact ⟨',' :: back, by simp [hback], by simp, rfl⟩
    · exact ⟨[], List.not_mem_nil, nofun, rfl⟩
  · rintro ⟨right, hright, hhead, rfl⟩
    cases right with
    | nil => exact .inr rfl
    | cons c back =>
      obtain rfl := hhead c rfl
      exact .inl ⟨_, rfl, _, ⟨back, fun h => hright (List.mem_cons_of_mem _ h), rfl⟩, rfl⟩

theorem mem_declares : rest ∈ Pattern.alt [.word "const", .word "let", .word "var"] t ↔
    ∃ keyword ∈ ["const".toList, "let".toList, "var".toList], t = keyword ++ rest := by
  simp only [Pattern.mem_alt, List.mem_cons, List.not_mem_nil, or_false, exists_eq_or_imp,
    exists_eq_left, Pattern.mem_word]

theorem mem_bindingPattern :
    rest ∈ bindingPattern translateFn hookName t ↔ BindingAt translateFn hookName t rest := by
  simp only [bindingPattern]
  rw [Pattern.mem_seq_cons]
  simp only [mem_declares, Pattern.mem_seq_cons, Pattern.mem_seq_nil,
    Pattern.mem_blanks, Pattern.mem_char, mem_opt_elements, mem_opt_others, Pattern.mem_lit]
  constructor
  · rintro ⟨_, ⟨keyword, hkeyword, rfl⟩, _, ⟨gap, hgap, rfl⟩, _, rfl, _, ⟨left, hleft, hlast, rfl⟩,
      _, ⟨gap₁, hgap₁, rfl⟩, _, rfl, _, ⟨gap₂, hgap₂, rfl⟩, _, ⟨right, hright, hhead, rfl⟩, _, rfl,
      _, ⟨gap₃, hgap₃, rfl⟩, _, rfl, _, ⟨gap₄, hgap₄, rfl⟩, _, rfl, _, ⟨gap₅, hgap₅, rfl⟩, _, rfl,
      rfl⟩
    exact .intro hkeyword hgap hleft hlast hgap₁ hgap₂ hright hhead hgap₃ hgap₄ hgap₅
  · rintro ⟨hkeyword, hgap, hleft, hlast, hgap₁, hgap₂, hright, hhead, hgap₃, hgap₄, hgap₅⟩
    exact ⟨_, ⟨_, hkeyword, rfl⟩, _, ⟨_, hgap, rfl⟩, _, rfl, _, ⟨_, hleft, hlast, rfl⟩, _,
      ⟨_, hgap₁, rfl⟩, _, rfl, _, ⟨_, hgap₂, rfl⟩, _, ⟨_, hright, hhead, rfl⟩, _, rfl, _,
      ⟨_, hgap₃, rfl⟩, _, rfl, _, ⟨_, hgap₄, rfl⟩, _, rfl, _, ⟨_, hgap₅, rfl⟩, _, rfl, rfl⟩

theorem hasBinding_iff {h : Hook} {lines : Buffer} :
    h.hasBinding lines = true ↔ ∃ before after rest,
      Text.joined ['\n'] lines = before ++ after ∧ BindingAt h.translateFn h.hookName after rest := by
  simp only [hasBinding, Pattern.anywhere_iff, mem_bindingPattern]

theorem bindingAt_bindingStatement (translateFn hookName after : Text) :
    BindingAt translateFn hookName (bindingStatement translateFn hookName ++ after)
      (");".toList ++ after) := by
  have hblank : ∀ c ∈ [' '], Text.isBlank c = true := List.forall_mem_singleton.2 rfl
  have hnone : ∀ c ∈ ([] : Text), Text.isBlank c = true := nofun
  have hbefore : ∀ c ∈ ([] : Text).getLast?, c = ',' := nofun
  have hbehind : ∀ c ∈ ([] : Text).head?, c = ',' := nofun
  have hbinds : BindingAt translateFn hookName _ (");".toList ++ after) :=
    .intro List.mem_cons_self hblank List.not_mem_nil hbefore hblank hblank List.not_mem_nil hbehind
      hblank hblank hnone
  have hshape : bindingStatement translateFn hookName ++ after =
      "const".toList ++ ([' '] ++ '{' :: ([] ++ ([' '] ++ (translateFn ++ ([' '] ++ ([] ++ '}' ::
        ([' '] ++ '=' :: ([' '] ++ (hookName ++ ([] ++ '(' :: (");".toList ++ after))))))))))) := by
    unfold bindingStatement
    rewrite [List.append_assoc, List.append_assoc, List.append_assoc, List.append_assoc]
    rfl
  rw [hshape]
  exact hbinds

theorem hasBinding_of_mem {h : Hook} {lines : Buffer} {indent : Text}
    (hmem : indent ++ bindingStatement h.translateFn h.hookName ∈ lines) :
    h.hasBinding lines = true := by
  have hline : indent ++ bindingStatement h.translateFn h.hookName <:+: Text.joined ['\n'] lines :=
    Text.infix_joined_of_mem hmem
  obtain ⟨before, after, hjoined⟩ := hline
  refine hasBinding_iff.2 ⟨before ++ indent, _, _, ?_,
    bindingAt_bindingStatement h.translateFn h.hookName after⟩
  rw [← hjoined]
  simp only [List.append_assoc]

/-- The text holds a declaration that takes the elements of `list` out of what the hook gives. -/
inductive BindsFrom (hookName list : Text) : Text → Prop
  | intro (before rest : Text) {keyword gap gap₁ gap₂ gap₃ : Text}
      (declares : keyword ∈ ["const".toList, "let".toList, "var".toList])
      (blanks : ∀ c ∈ gap, Text.isBlank c = true)
      (single : '}' ∉ list)
      (blanks₁ : ∀ c ∈ gap₁, Text.isBlank c = true)
      (blanks₂ : ∀ c ∈ gap₂, Text.isBlank c = true)
      (blanks₃ : ∀ c ∈ gap₃, Text.isBlank c = true) :
      BindsFrom hookName list (before ++ (keyword ++ (gap ++ '{' :: (list ++ '}' ::
        (gap₁ ++ '=' :: (gap₂ ++ (hookName ++ (gap₃ ++ '(' :: rest))))))))

/-- Blanks only stand between the name and the commas, or the ends of the list, around it. -/
inductive StandsAlone (name : Text) : Text → Prop
  | intro {left gap gap' right : Text}
      (before : ∀ c ∈ left.getLast?, c = ',')
      (blanks : ∀ c ∈ gap, Text.isBlank c = true)
      (blanks' : ∀ c ∈ gap', Text.isBlank c = true)
      (behind : ∀ c ∈ right.head?, c = ',') :
      StandsAlone name (left ++ (gap ++ (name ++ (gap' ++ right))))

theorem standsAlone_iff {list : Text} (hcomma : ',' ∉ name)
    (hhead : ∀ c ∈ name.head?, Text.isBlank c = false)
    (hlast : ∀ c ∈ name.getLast?, Text.isBlank c = false) :
    StandsAlone name list ↔ ∃ e ∈ Text.fields ',' list, Text.trim e = name := by
  have hblanks : ∀ gap : Text, (∀ c ∈ gap, Text.isBlank c = true) → ',' ∉ gap := by
    intro gap hgap hmem
    exact absurd (hgap ',' hmem) (by decide)
  constructor
  · rintro ⟨hbefore, hgap, hgap', hbehind⟩
    rename_i left gap gap' right
    refine ⟨gap ++ (name ++ gap'), Text.mem_fields_iff.2 ⟨?_, left, right, by simp, hbefore,
      hbehind⟩, Text.trim_append_append hgap hgap' hhead hlast⟩
    simp [hblanks gap hgap, hblanks gap' hgap', hcomma]
  · rintro ⟨e, he, rfl⟩
    obtain ⟨-, left, right, rfl, hbefore, hbehind⟩ := Text.mem_fields_iff.1 he
    obtain ⟨gap, gap', hgap, hgap', hsplit⟩ := Text.exists_trim e
    have halone : StandsAlone (Text.trim e) (left ++ (gap ++ (Text.trim e ++ (gap' ++ right)))) :=
      .intro hbefore hgap hgap' hbehind
    have hshape : left ++ (e ++ right) = left ++ (gap ++ (Text.trim e ++ (gap' ++ right))) := by
      nth_rewrite 1 [hsplit]
      simp
    rw [hshape]
    exact halone

/-- The search finds the declarations in whose lists the function stands alone. -/
theorem exists_bindingAt_iff (hbrace : '}' ∉ translateFn) :
    (∃ before after rest, t = before ++ after ∧ BindingAt translateFn hookName after rest) ↔
      ∃ list, BindsFrom hookName list t ∧ StandsAlone translateFn list := by
  have hblanks : ∀ gap : Text, (∀ c ∈ gap, Text.isBlank c = true) → '}' ∉ gap := by
    intro gap hgap hmem
    exact absurd (hgap '}' hmem) (by decide)
  constructor
  · rintro ⟨before, _, rest, rfl, ⟨hkeyword, hgap, hleft, hlast, hgap₁, hgap₂, hright, hhead, hgap₃,
      hgap₄, hgap₅⟩⟩
    rename_i keyword gap left gap₁ gap₂ right gap₃ gap₄ gap₅
    refine ⟨left ++ (gap₁ ++ (translateFn ++ (gap₂ ++ right))), ?_, .intro hlast hgap₁ hgap₂ hhead⟩
    have hsingle : '}' ∉ left ++ (gap₁ ++ (translateFn ++ (gap₂ ++ right))) := by
      simp [hleft, hblanks gap₁ hgap₁, hbrace, hblanks gap₂ hgap₂, hright]
    have hbinds : BindsFrom hookName (left ++ (gap₁ ++ (translateFn ++ (gap₂ ++ right)))) _ :=
      .intro before rest hkeyword hgap hsingle hgap₃ hgap₄ hgap₅
    simpa only [List.append_assoc] using hbinds
  · rintro ⟨_, ⟨before, rest, hkeyword, hgap, hsingle, hgap₃, hgap₄, hgap₅⟩,
      ⟨hlast, hgap₁, hgap₂, hhead⟩⟩
    simp only [List.mem_append, not_or] at hsingle
    refine ⟨before, _, rest, rfl, ?_⟩
    simp only [List.append_assoc]
    exact .intro hkeyword hgap hsingle.1 hlast hgap₁ hgap₂ hsingle.2.2.2.2 hhead hgap₃ hgap₄ hgap₅

/-- A text with one pair of braces holds at most one declaration, of what stands between them. -/
theorem BindsFrom.list_eq {before list list' behind : Text} (h : BindsFrom hookName list t)
    (ht : t = before ++ '{' :: (list' ++ '}' :: behind)) (hbefore : '{' ∉ before)
    (hbehind : '{' ∉ list' ++ '}' :: behind) (hlist : '}' ∉ list') : list = list' := by
  obtain ⟨front, rest, -, -, hsingle, -, -, -⟩ := h
  rw [← List.append_assoc, ← List.append_assoc] at ht
  obtain ⟨-, hinner⟩ := Text.eq_of_append_cons_eq_of_not_mem hbefore hbehind ht
  exact (Text.eq_of_append_cons_eq hsingle hlist hinner).1

/-- A binding is found exactly if a declaration takes elements out of what the hook gives of which
one is the name of the function but for blanks around it. -/
theorem binding_found_iff_element {c : Config} (h : c.IsValid) (lines : Buffer) :
    (ofConfig c).hasBinding lines = true ↔
      ∃ list, BindsFrom c.hookName list (Text.joined ['\n'] lines) ∧
        ∃ e ∈ Text.fields ',' list, Text.trim e = c.translateFn := by
  obtain ⟨-, -, -, -, -, hid⟩ := Config.isValid_iff.1 h
  have hcomma : ',' ∉ c.translateFn := Config.not_mem_identifier hid (by decide) (by decide)
  have hbrace : '}' ∉ c.translateFn := Config.not_mem_identifier hid (by decide) (by decide)
  have helement (list : Text) : StandsAlone c.translateFn list ↔
      ∃ e ∈ Text.fields ',' list, Text.trim e = c.translateFn :=
    standsAlone_iff hcomma
      (fun d hd => Config.isBlank_of_mem_identifier hid (List.mem_of_head? hd))
      (fun d hd => Config.isBlank_of_mem_identifier hid (List.mem_of_getLast? hd))
  simp only [← helement]
  exact hasBinding_iff.trans (exists_bindingAt_iff hbrace)

def severalElements : Buffer :=
  ["let \x7b".toList, "  ready,".toList, "  t,".toList, "  i18n,".toList,
    "\x7d = useTranslation ( 'ns' );".toList]

def renamedElement : Buffer := ["const \x7b i18n, t : tr \x7d = useTranslation();".toList]

theorem binding_found_severalElements :
    ({} : Config).IsValid ∧ (ofConfig {}).hasBinding severalElements = true ∧
      (ofConfig {}).hasBinding renamedElement = false := by
  have hvalid : ({} : Config).IsValid := by decide
  refine ⟨hvalid, (binding_found_iff_element hvalid severalElements).2 ?_, ?_⟩
  · have hblank : ∀ c ∈ [' '], Text.isBlank c = true := List.forall_mem_singleton.2 rfl
    have hbinds : BindsFrom ({} : Config).hookName "\n  ready,\n  t,\n  i18n,\n".toList _ :=
      .intro [] " 'ns' );".toList (List.mem_cons_of_mem _ List.mem_cons_self) hblank (by decide)
        hblank hblank hblank
    exact ⟨_, hbinds, "\n  t".toList, by decide, by decide⟩
  · rw [Bool.eq_false_iff, ne_eq, binding_found_iff_element hvalid]
    rintro ⟨list, hbinds, e, he, htrim⟩
    have hjoined : Text.joined ['\n'] renamedElement =
        "const ".toList ++ '{' ::
          (" i18n, t : tr ".toList ++ '}' :: " = useTranslation();".toList) := by decide
    obtain rfl := hbinds.list_eq hjoined (by decide) (by decide) (by decide)
    have hnone : ∀ e ∈ Text.fields ',' " i18n, t : tr ".toList,
        Text.trim e ≠ ({} : Config).translateFn := by decide
    exact hnone e he htrim

end Localize.Hook

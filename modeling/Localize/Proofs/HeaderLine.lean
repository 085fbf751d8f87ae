import Localize.Proofs.IssueLine

/-! Header lines are recognised by exactly their grammar: a path below the source root that ends in an
extension, at the start of the trimmed line or behind a blank, and after it nothing but blanks and one
colon at most. The searches for it find a path exactly where there is one. Where neither the source
root nor an extension holds a blank, and no extension ends in a colon, there is no choice: the path is
the last token of the line. -/

namespace Localize

theorem Path.dropHere_suffix (t : Text) : dropHere t <:+ t := by
  fun_induction dropHere t with
  | case1 rest ih => exact ih.trans (List.suffix_append ['.', '/'] rest)
  | case2 t => exact List.suffix_refl t

namespace Report.Format

variable {f : Format} {t path : Text}

theorem mem_of_mem_sourceRoot {c : Config} {ch : Char} (h : ch ∈ (ofConfig c).sourceRoot) :
    ch ∈ c.sourceRoot := by
  obtain ⟨before, after, -, -, hsplit⟩ := Text.exists_trim c.sourceRoot
  have hslash : ch ∈ Path.dropHere (Text.trim c.sourceRoot) :=
    List.mem_reverse.1 ((List.dropWhile_sublist _).subset (List.mem_reverse.1 h))
  have htrim := (Path.dropHere_suffix _).subset hslash
  rw [hsplit]
  exact List.mem_append_right _ (List.mem_append_left _ htrim)

theorem mem_extensions {c : Config} {ext : Text} (h : ext ∈ c.extensions) :
    ext.dropWhile (· == '.') ∈ (ofConfig c).extensions := by
  rw [ofConfig, if_neg (List.ne_nil_of_mem h)]
  exact List.mem_map_of_mem h

/-- A path as a header spells it: the source root, a separator, a name without blanks, a dot and an
extension, with `./` in front or without. -/
inductive HeaderPath (f : Format) : Text → Prop
  | intro {front name ext : Text}
      (here : front = [] ∨ front = ['.', '/'])
      (unbroken : ∀ c ∈ name, Text.isBlank c = false)
      (listed : ext ∈ f.extensions) :
      HeaderPath f (front ++ (f.sourceRoot ++ '/' :: (name ++ '.' :: ext)))

/-- The grammar of a header line: a path at its start or behind a blank, any blanks, and a colon or
none. -/
inductive HeaderLine (f : Format) : Text → Text → Prop
  | intro {before path gap colon : Text}
      (apart : ∀ c ∈ before.getLast?, Text.isBlank c = true)
      (named : f.HeaderPath path)
      (blanks : ∀ c ∈ gap, Text.isBlank c = true)
      (closed : colon = [] ∨ colon = [':']) :
      HeaderLine f (before ++ (path ++ (gap ++ colon))) path

theorem closes_iff {rest : Text} : closes rest = true ↔
    ∃ gap colon : Text, (∀ c ∈ gap, Text.isBlank c = true) ∧ (colon = [] ∨ colon = [':']) ∧
      rest = gap ++ colon := by
  rw [closes, Bool.or_eq_true, beq_iff_eq, beq_iff_eq]
  constructor
  · intro h
    exact ⟨_, _, fun _ => List.mem_takeWhile_imp, h, List.takeWhile_append_dropWhile.symm⟩
  · rintro ⟨gap, colon, hgap, hcolon, rfl⟩
    have hdrop : (gap ++ colon).dropWhile Text.isBlank = colon :=
      Text.dropWhile_isBlank_append hgap (by rcases hcolon with rfl | rfl <;> rintro c ⟨⟩; rfl)
    rwa [hdrop]

/-- The path stands at the start of the text, and the header closes after it. -/
def ClosesAfter (path t : Text) : Prop := ∃ rest, t = path ++ rest ∧ closes rest = true

theorem closesAfter_append_iff {front : Text} :
    ClosesAfter (front ++ path) t ↔ ∃ rest, t = front ++ rest ∧ ClosesAfter path rest := by
  constructor
  · rintro ⟨rest, rfl, hcloses⟩
    exact ⟨path ++ rest, List.append_assoc _ _ _, rest, rfl, hcloses⟩
  · rintro ⟨_, rfl, rest, rfl, hcloses⟩
    exact ⟨rest, (List.append_assoc _ _ _).symm, hcloses⟩

/-- The search finds paths of one kind after which the header closes, and one wherever there is one. -/
structure Finds (search : Text → Option Text) (kind : Text → Prop) : Prop where
  sound : ∀ {t path}, search t = some path → kind path ∧ ClosesAfter path t
  complete : ∀ {t path}, kind path → ClosesAfter path t → (search t).isSome = true

section

variable {search search' : Text → Option Text} {kind kind' : Text → Prop}

theorem Finds.of_iff (h : Finds search kind) (hiff : ∀ path, kind' path ↔ kind path) :
    Finds search kind' where
  sound hpath := (h.sound hpath).imp_left (hiff _).2
  complete hkind := h.complete ((hiff _).1 hkind)

theorem Finds.behind (h : Finds search kind) (front : Text) :
    Finds (fun t => (front.isPrefixOf? t).bind fun rest => (search rest).map (front ++ ·))
      fun path => ∃ tail, kind tail ∧ path = front ++ tail where
  sound := by
    intro t path hpath
    obtain ⟨rest, hrest, hpath⟩ := Option.bind_eq_some_iff.1 hpath
    obtain ⟨tail, htail, rfl⟩ := Option.map_eq_some_iff.1 hpath
    obtain ⟨hkind, hcloses⟩ := h.sound htail
    have ht := (List.isPrefixOf?_eq_some_iff_append_eq.1 hrest).symm
    exact ⟨⟨tail, hkind, rfl⟩, closesAfter_append_iff.2 ⟨rest, ht, hcloses⟩⟩
  complete := by
    rintro t path ⟨tail, hkind, rfl⟩ hcloses
    obtain ⟨rest, rfl, htail⟩ := closesAfter_append_iff.1 hcloses
    have hahead : front.isPrefixOf? (front ++ rest) = some rest :=
      List.isPrefixOf?_eq_some_iff_append_eq.2 rfl
    rw [hahead, Option.bind_some, Option.isSome_map]
    exact h.complete hkind htail

theorem Finds.orElse (h : Finds search kind) (h' : Finds search' kind') :
    Finds (fun t => search t <|> search' t) fun path => kind path ∨ kind' path where
  sound := by
    intro t path hpath
    rcases (Option.orElse_eq_some _ _ _).1 hpath with hpath | ⟨-, hpath⟩
    · exact (h.sound hpath).imp_left .inl
    · exact (h'.sound hpath).imp_left .inr
  complete := by
    intro t path hkind hcloses
    change (Option.orElse _ _).isSome = true
    rw [Option.orElse_eq_or, Option.isSome_or, Bool.or_eq_true]
    exact hkind.imp (h.complete · hcloses) (h'.complete · hcloses)

end

theorem finds_extensionAt? (f : Format) :
    Finds f.extensionAt? fun path => ∃ ext ∈ f.extensions, path = '.' :: ext where
  sound := by
    intro t path h
    unfold extensionAt? at h
    split at h
    · rename_i rest
      obtain ⟨ext, hmem, hext⟩ := List.exists_of_findSome?_eq_some h
      split at hext
      · rename_i hclosed
        cases hext
        obtain ⟨tail, htail, hcloses⟩ := (Option.any_eq_true _ _).1 hclosed
        have htext := congrArg ('.' :: ·) (List.isPrefixOf?_eq_some_iff_append_eq.1 htail).symm
        exact ⟨⟨ext, hmem, rfl⟩, tail, htext, hcloses⟩
      · cases hext
    · cases h
  complete := by
    rintro t path ⟨ext, hmem, rfl⟩ ⟨rest, rfl, hcloses⟩
    rw [List.cons_append, extensionAt?, List.findSome?_isSome_iff]
    have hahead : ext.isPrefixOf? (ext ++ rest) = some rest :=
      List.isPrefixOf?_eq_some_iff_append_eq.2 rfl
    refine ⟨ext, hmem, ?_⟩
    rw [hahead, Option.any_some, if_pos hcloses]
    rfl

/-- A name without blanks, a dot and an extension. -/
def IsEnd (f : Format) (path : Text) : Prop :=
  ∃ name, ∃ ext ∈ f.extensions, (∀ c ∈ name, Text.isBlank c = false) ∧ path = name ++ '.' :: ext

/-- The shortest end that closes the header is taken, and there is one if any end closes it. -/
theorem finds_pathEnd? (f : Format) : Finds f.pathEnd? f.IsEnd where
  sound := by
    intro t path h
    induction t generalizing path with
    | nil => cases h
    | cons c cs ih =>
      unfold pathEnd? at h
      split at h
      · rename_i hext
        cases h
        obtain ⟨⟨ext, hmem, rfl⟩, hcloses⟩ := (finds_extensionAt? f).sound hext
        exact ⟨⟨[], ext, hmem, nofun, rfl⟩, hcloses⟩
      · split at h
        · cases h
        · rename_i hc
          obtain ⟨tail, htail, rfl⟩ := Option.map_eq_some_iff.1 h
          obtain ⟨⟨name, ext, hmem, hname, rfl⟩, hcloses⟩ := ih htail
          have hunbroken : ∀ d ∈ c :: name, Text.isBlank d = false :=
            List.forall_mem_cons.2 ⟨Bool.eq_false_iff.2 hc, hname⟩
          have hclosed : ClosesAfter ([c] ++ (name ++ '.' :: ext)) (c :: cs) :=
            closesAfter_append_iff.2 ⟨cs, rfl, hcloses⟩
          exact ⟨⟨c :: name, ext, hmem, hunbroken, rfl⟩, hclosed⟩
  complete := by
    rintro t path ⟨name, ext, hmem, hname, rfl⟩ ⟨rest, rfl, hcloses⟩
    induction name with
    | nil =>
      obtain ⟨path, hpath⟩ := Option.isSome_iff_exists.1
        ((finds_extensionAt? f).complete ⟨ext, hmem, rfl⟩ ⟨rest, rfl, hcloses⟩)
      rw [List.cons_append] at hpath
      rw [List.nil_append, List.cons_append, pathEnd?, hpath]
      rfl
    | cons c name ih =>
      obtain ⟨hc, hname⟩ := List.forall_mem_cons.1 hname
      rw [List.cons_append, List.cons_append, pathEnd?]
      split
      · rfl
      · rw [hc, if_neg Bool.false_ne_true, Option.isSome_map]
        exact ih hname

theorem headerPath_iff : f.HeaderPath path ↔
    (∃ tail, (∃ tail', f.IsEnd tail' ∧ tail = f.sourceRoot ++ ['/'] ++ tail') ∧
      path = ['.', '/'] ++ tail) ∨
    ∃ tail, f.IsEnd tail ∧ path = f.sourceRoot ++ ['/'] ++ tail := by
  constructor
  · rintro ⟨rfl | rfl, hname, hmem⟩
    · exact .inr ⟨_, ⟨_, _, hmem, hname, rfl⟩, by simp⟩
    · exact .inl ⟨_, ⟨_, ⟨_, _, hmem, hname, rfl⟩, by simp⟩, rfl⟩
  · rintro (⟨_, ⟨_, ⟨name, ext, hmem, hname, rfl⟩, rfl⟩, rfl⟩ |
      ⟨_, ⟨name, ext, hmem, hname, rfl⟩, rfl⟩)
    · rw [List.append_assoc f.sourceRoot]
      exact .intro (.inr rfl) hname hmem
    · rw [List.append_assoc f.sourceRoot]
      exact .intro (.inl rfl) hname hmem

theorem finds_pathAt? (f : Format) : Finds f.pathAt? f.HeaderPath := by
  have hrooted := (finds_pathEnd? f).behind (f.sourceRoot ++ ['/'])
  exact ((hrooted.behind ['.', '/']).orElse hrooted).of_iff fun _ => headerPath_iff

theorem headerLine_iff : f.HeaderLine t path ↔ f.HeaderPath path ∧
    (ClosesAfter path t ∨
      ∃ before c rest, t = before ++ c :: rest ∧ Text.isBlank c = true ∧ ClosesAfter path rest) := by
  constructor
  · rintro @⟨before, _, gap, colon, hapart, hpath, hgap, hcolon⟩
    have hcloses : closes (gap ++ colon) = true := closes_iff.2 ⟨gap, colon, hgap, hcolon, rfl⟩
    refine ⟨hpath, ?_⟩
    rcases List.eq_nil_or_concat before with rfl | ⟨before, c, rfl⟩
    · exact .inl ⟨_, rfl, hcloses⟩
    · rw [List.concat_eq_append] at hapart ⊢
      exact .inr ⟨before, c, _, List.append_assoc _ _ _, hapart c List.getLast?_concat, _, rfl,
        hcloses⟩
  · rintro ⟨hpath, ⟨rest, rfl, hcloses⟩ | ⟨before, c, _, rfl, hc, rest, rfl, hcloses⟩⟩
    · obtain ⟨gap, colon, hgap, hcolon, rfl⟩ := closes_iff.1 hcloses
      have hline : f.HeaderLine ([] ++ (path ++ (gap ++ colon))) path :=
        .intro nofun hpath hgap hcolon
      exact hline
    · obtain ⟨gap, colon, hgap, hcolon, rfl⟩ := closes_iff.1 hcloses
      have hline : f.HeaderLine (before ++ [c] ++ (path ++ (gap ++ colon))) path :=
        .intro (by simpa using hc) hpath hgap hcolon
      rwa [List.append_assoc] at hline

theorem exists_of_pathAfterBlank? (h : f.pathAfterBlank? t = some path) :
    f.HeaderPath path ∧
      ∃ before c rest, t = before ++ c :: rest ∧ Text.isBlank c = true ∧ ClosesAfter path rest := by
  induction t with
  | nil => cases h
  | cons c cs ih =>
    rcases (Option.orElse_eq_some _ _ _).1 h with h | ⟨-, h⟩
    · split at h
      · rename_i hc
        obtain ⟨hpath, hcloses⟩ := (finds_pathAt? f).sound h
        exact ⟨hpath, [], c, cs, rfl, hc, hcloses⟩
      · cases h
    · obtain ⟨hpath, before, d, rest, rfl, hd, hcloses⟩ := ih h
      exact ⟨hpath, c :: before, d, rest, rfl, hd, hcloses⟩

theorem isSome_pathAfterBlank? {before rest : Text} {c : Char} (hpath : f.HeaderPath path)
    (hc : Text.isBlank c = true) (hcloses : ClosesAfter path rest) :
    (f.pathAfterBlank? (before ++ c :: rest)).isSome = true := by
  induction before with
  | nil =>
    change (Option.orElse _ _).isSome = true
    rw [if_pos hc, Option.orElse_eq_or, Option.isSome_or, (finds_pathAt? f).complete hpath hcloses]
    rfl
  | cons d before ih =>
    change (Option.orElse _ _).isSome = true
    rw [Option.orElse_eq_or, Option.isSome_or]
    exact Bool.or_eq_true_iff.2 (.inr ih)

theorem headerLine_of_header? {line : Text} (h : f.header? line = some path) :
    f.HeaderLine (Text.trim line) path := by
  rw [headerLine_iff]
  rcases (Option.orElse_eq_some _ _ _).1 h with h | ⟨-, h⟩
  · exact ((finds_pathAt? f).sound h).imp_right .inl
  · exact (exists_of_pathAfterBlank? h).imp_right .inr

theorem HeaderLine.headerPath (h : f.HeaderLine t path) : f.HeaderPath path :=
  (headerLine_iff.1 h).1

theorem isSome_header? {line : Text} (h : f.HeaderLine (Text.trim line) path) :
    (f.header? line).isSome = true := by
  change (Option.orElse _ _).isSome = true
  rw [Option.orElse_eq_or, Option.isSome_or, Bool.or_eq_true]
  obtain ⟨hpath, hcloses | ⟨before, c, rest, ht, hc, hcloses⟩⟩ := headerLine_iff.1 h
  · exact .inl ((finds_pathAt? f).complete hpath hcloses)
  · rw [ht]
    exact .inr (isSome_pathAfterBlank? hpath hc hcloses)

theorem classify_eq_header_iff {line : Text} :
    f.classify line = .header path ↔ issue? f.marker line = none ∧ f.header? line = some path := by
  unfold classify
  cases issue? f.marker line with
  | some issue => simp
  | none => cases f.header? line <;> simp

theorem headerLine_of_classify {line : Text} (h : f.classify line = .header path) :
    f.HeaderLine (Text.trim line) path :=
  headerLine_of_header? (classify_eq_header_iff.1 h).2

theorem classify_eq_other_iff {line : Text} :
    f.classify line = .other ↔ issue? f.marker line = none ∧ f.header? line = none := by
  unfold classify
  cases issue? f.marker line with
  | some issue => simp
  | none => cases f.header? line <;> simp

/-- The paths of the format hold no blanks and end in no colon. -/
structure Plain (f : Format) : Prop where
  sourceRoot : ∀ c ∈ f.sourceRoot, Text.isBlank c = false
  extensions : ∀ ext ∈ f.extensions, ∀ c ∈ ext, Text.isBlank c = false
  colon : ∀ ext ∈ f.extensions, ext.getLast? ≠ some ':'

theorem plain_default : (ofConfig {}).Plain where
  sourceRoot := List.all_iff_forall_prop.1 (by decide)
  extensions := by
    have hall : ((ofConfig {}).extensions.all fun ext =>
        ext.all fun c => !Text.isBlank c) = true := by decide
    simpa only [List.all_eq_true, Bool.not_eq_true'] using hall
  colon := by decide

def dropColon (t : Text) : Text :=
  if t.getLast? = some ':' then Text.trimEnd t.dropLast else t

/-- What stands behind the last blank of the text. -/
def lastToken (t : Text) : Text := (t.reverse.takeWhile fun c => !Text.isBlank c).reverse

theorem lastToken_append {before token : Text}
    (hbefore : ∀ c ∈ before.getLast?, Text.isBlank c = true)
    (htoken : ∀ c ∈ token, Text.isBlank c = false) : lastToken (before ++ token) = token := by
  have hstop : (before.reverse.takeWhile fun c => !Text.isBlank c) = [] := by
    rcases List.eq_nil_or_concat before with rfl | ⟨before, c, rfl⟩
    · rfl
    · rw [List.concat_eq_append] at hbefore ⊢
      have hc := hbefore c List.getLast?_concat
      rw [List.reverse_concat, List.takeWhile_cons_of_neg (by simp [hc])]
  rw [lastToken, List.reverse_append, List.takeWhile_append_of_pos (by simpa using htoken), hstop,
    List.append_nil, List.reverse_reverse]

theorem HeaderPath.ne_nil (h : f.HeaderPath path) : path ≠ [] := by
  obtain ⟨-, -, -⟩ := h
  simp

theorem HeaderPath.isBlank (h : f.HeaderPath path) (hf : f.Plain) :
    ∀ c ∈ path, Text.isBlank c = false := by
  obtain @⟨front, name, ext, hfront, hname, hmem⟩ := h
  have hhere : ∀ c ∈ front, Text.isBlank c = false := by
    rcases hfront with rfl | rfl
    · nofun
    · exact List.all_iff_forall_prop.1 (by decide)
  simp only [List.forall_mem_append, List.forall_mem_cons]
  exact ⟨hhere, hf.sourceRoot, rfl, hname, rfl, hf.extensions ext hmem⟩

theorem HeaderPath.getLast?_ne (h : f.HeaderPath path) (hf : f.Plain) :
    path.getLast? ≠ some ':' := by
  obtain @⟨front, name, ext, -, -, hmem⟩ := h
  have hcolon := hf.colon ext hmem
  cases hend : ext.getLast? <;> simp_all [List.getLast?_cons]

/-- In a plain format the path is the last token, but for a colon. -/
theorem HeaderLine.eq_lastToken (h : f.HeaderLine t path) (hf : f.Plain)
    (ht : ∀ c ∈ t.getLast?, Text.isBlank c = false) : path = lastToken (dropColon t) := by
  obtain @⟨before, _, gap, colon, hapart, hpath, hgap, hcolon⟩ := h
  have hblank := hpath.isBlank hf
  have hlast : (before ++ path).getLast? = path.getLast? :=
    List.getLast?_append_of_ne_nil before hpath.ne_nil
  have hdrop : dropColon (before ++ (path ++ (gap ++ colon))) = before ++ path := by
    rw [← List.append_assoc before]
    rcases hcolon with rfl | rfl
    · -- The line ends in no blank, so there is none behind the path.
      rcases List.eq_nil_or_concat gap with rfl | ⟨gap, c, rfl⟩
      · rw [List.append_nil, List.append_nil, dropColon, hlast, if_neg (hpath.getLast?_ne hf)]
      · rw [List.concat_eq_append] at ht hgap
        have hc := ht c (by simp)
        rw [hgap c (by simp)] at hc
        cases hc
    · rw [← List.append_assoc (before ++ path), dropColon, if_pos List.getLast?_concat,
        List.dropLast_concat]
      refine Text.trimEnd_append hgap fun c hc => ?_
      rw [hlast] at hc
      exact hblank c (List.mem_of_getLast? hc)
  rw [hdrop, lastToken_append hapart hblank]

/-- Two paths of one line are the same, so the line is a header of the path that it has. -/
theorem classify_of_headerLine {line : Text} (hf : f.Plain) (hissue : issue? f.marker line = none)
    (h : f.HeaderLine (Text.trim line) path) : f.classify line = .header path := by
  obtain ⟨path', hpath'⟩ := Option.isSome_iff_exists.1 (isSome_header? h)
  have hend : ∀ c ∈ (Text.trim line).getLast?, Text.isBlank c = false :=
    fun _ => Text.isBlank_of_getLast?_trim
  have hsame : path' = path := ((headerLine_of_header? hpath').eq_lastToken hf hend).trans
    (h.eq_lastToken hf hend).symm
  rw [classify_eq_header_iff, hpath', hsame]
  exact ⟨hissue, rfl⟩

theorem HeaderPath.classify_append {colon : Text} (h : f.HeaderPath path) (hf : f.Plain)
    (hcolon : colon = [] ∨ colon = [':']) : f.classify (path ++ colon) = .header path := by
  have hblank : ∀ c ∈ path ++ colon, Text.isBlank c = false := by
    refine List.forall_mem_append.2 ⟨h.isBlank hf, ?_⟩
    rcases hcolon with rfl | rfl
    · nofun
    · exact List.forall_mem_singleton.2 rfl
  have hissue : issue? f.marker (path ++ colon) = none :=
    issue?_of_head? fun c hc => hblank c (List.mem_of_head? hc)
  have hline : f.HeaderLine ([] ++ (path ++ ([] ++ colon))) path := .intro nofun h nofun hcolon
  refine classify_of_headerLine hf hissue ?_
  rwa [Text.trim_of_forall_mem hblank]

theorem HeaderPath.classify (h : f.HeaderPath path) (hf : f.Plain) :
    f.classify path = .header path := by
  have hcolon : f.classify (path ++ []) = .header path := h.classify_append hf (.inl rfl)
  rwa [List.append_nil] at hcolon

/-- A line that is no issue line is a header exactly if the grammar has a path for it, and it says
nothing otherwise. In a plain format the path is the only one, and the last token of the line. -/
theorem header_lines_by_grammar {c : Config} {line : Text}
    (hline : ∀ n s, (ofConfig c).classify line ≠ .issue n s) :
    ((∃ path, (ofConfig c).classify line = .header path) ↔
      ∃ path, (ofConfig c).HeaderLine (Text.trim line) path) ∧
    (∀ path, (ofConfig c).classify line = .header path →
      (ofConfig c).HeaderLine (Text.trim line) path) ∧
    ((¬ ∃ path, (ofConfig c).HeaderLine (Text.trim line) path) →
      (ofConfig c).classify line = .other) ∧
    ((ofConfig c).Plain → ∀ path, (ofConfig c).HeaderLine (Text.trim line) path →
      (ofConfig c).classify line = .header path ∧
        path = lastToken (dropColon (Text.trim line))) := by
  have hissue := issue?_of_classify hline
  have hcomplete {path : Text} (h : (ofConfig c).HeaderLine (Text.trim line) path) :
      ∃ path', (ofConfig c).classify line = .header path' := by
    obtain ⟨path', hpath'⟩ := Option.isSome_iff_exists.1 (isSome_header? h)
    exact ⟨path', classify_eq_header_iff.2 ⟨hissue, hpath'⟩⟩
  refine ⟨⟨fun ⟨path, h⟩ => ⟨path, headerLine_of_classify h⟩, fun ⟨_, h⟩ => hcomplete h⟩,
    fun _ => headerLine_of_classify, ?_, ?_⟩
  · intro hnone
    refine classify_eq_other_iff.2 ⟨hissue, ?_⟩
    refine Option.eq_none_iff_forall_ne_some.2 fun path hpath => ?_
    exact hnone ⟨path, headerLine_of_header? hpath⟩
  · intro hf path h
    exact ⟨classify_of_headerLine hf hissue h,
      h.eq_lastToken hf fun _ => Text.isBlank_of_getLast?_trim⟩

def decoratedPage : Text := "\t📄 src/app/[locale]/page.tsx :\r".toList

theorem header_lines_by_grammar_decoratedPage :
    (∀ n s, (ofConfig {}).classify decoratedPage ≠ .issue n s) ∧ (ofConfig {}).Plain ∧
      (ofConfig {}).HeaderLine (Text.trim decoratedPage) "src/app/[locale]/page.tsx".toList ∧
      (ofConfig {}).classify decoratedPage = .header "src/app/[locale]/page.tsx".toList ∧
      "src/app/[locale]/page.tsx".toList = lastToken (dropColon (Text.trim decoratedPage)) := by
  have hissue (n : Nat) (s : Text) : (ofConfig {}).classify decoratedPage ≠ .issue n s := by
    rw [Ne, classify_eq_issue_iff, show issue? _ decoratedPage = none by decide]
    nofun
  have hpath : (ofConfig {}).HeaderPath "src/app/[locale]/page.tsx".toList := by
    have hparts : "src/app/[locale]/page.tsx".toList = [] ++ ((ofConfig {}).sourceRoot ++ '/' ::
        ("app/[locale]/page".toList ++ '.' :: "tsx".toList)) := by decide
    rw [hparts]
    exact .intro (.inl rfl) (List.all_iff_forall_prop.1 (by decide)) (by decide)
  have hline : (ofConfig {}).HeaderLine (Text.trim decoratedPage)
      "src/app/[locale]/page.tsx".toList := by
    have hparts : Text.trim decoratedPage =
        "📄 ".toList ++ ("src/app/[locale]/page.tsx".toList ++ ([' '] ++ [':'])) := by decide
    rw [hparts]
    refine .intro ?_ hpath (List.forall_mem_singleton.2 rfl) (.inr rfl)
    rintro c ⟨⟩
    rfl
  exact ⟨hissue, plain_default, hline,
    (header_lines_by_grammar hissue).2.2.2 plain_default _ hline⟩

end Report.Format
end Localize

import Localize.Config.Reader
import Localize.Proofs.Failure
import Localize.Proofs.WrittenJson

/-! What a configuration file says. Fields are read under any of their names and in any order, texts
under other keys are passed over, and a field that is absent has its default. The file that holds
every field gives the configuration back. -/

namespace Localize.Config

open Json

namespace Field

def names : Field → List Text
  | .messagesRoot => [Field.messagesRoot.key, "messagesDir".toList]
  | f => [f.key]

/-- How the value of a field can be written. -/
def Value.Written : Value → Text → Prop
  | .text s, t => WrittenString s t
  | .texts ss, t => WrittenList WrittenString '[' ']' ss t
  | .natural n, t => t = Text.ofNat n

theorem key_mem_names (f : Field) : f.key ∈ f.names := by
  cases f <;> decide

theorem ofKey?_of_mem_names {f : Field} {k : Text} (h : k ∈ f.names) : ofKey? k = some f := by
  have hall : ∀ k ∈ f.names, ofKey? k = some f := by cases f <;> decide
  exact hall k h

theorem ofKey?_eq_none {k : Text} (h : ∀ f : Field, k ∉ f.names) : ofKey? k = none := by
  have hdir : k ≠ "messagesDir".toList := by
    rintro rfl
    exact h .messagesRoot (by decide)
  rw [ofKey?, if_neg hdir]
  exact List.find?_eq_none.2 fun f _ heq => h f (of_decide_eq_true heq ▸ f.key_mem_names)

end Field

/-- An entry of a file: a field under one of its names, or a text under a key that names no field. -/
inductive Entry where
  | field (f : Field) (key : Text) (named : key ∈ f.names)
  | other (key value : Text) (unknown : ∀ f : Field, key ∉ f.names)

namespace Entry

def field? : Entry → Option Field
  | .field f _ _ => some f
  | .other _ _ _ => none

def content (c : Config) : Entry → Text × Field.Value
  | .field f key _ => (key, f.get c)
  | .other key value _ => (key, .text value)

end Entry

/-- A key and a value with a colon between them. -/
def WrittenEntry (e : Text × Field.Value) (t : Text) : Prop :=
  ∃ body b b' v, WrittenBody e.1 body ∧ IsBlankText b ∧ IsBlankText b' ∧ e.2.Written v ∧
    t = '"' :: (body ++ '"' :: (b ++ ':' :: (b' ++ v)))

def WrittenFile (es : List (Text × Field.Value)) (t : Text) : Prop :=
  ∃ b object b', IsBlankText b ∧ IsBlankText b' ∧ WrittenList WrittenEntry '{' '}' es object ∧
    t = b ++ (object ++ b')

/-- The configuration has the values of `c` for the fields that were met, and else the defaults. -/
def Agrees (c : Config) (met : List Field) (d : Config) : Prop :=
  ∀ f : Field, f.get d = if f ∈ met then f.get c else f.get {}

section Values

variable {b t rest : Text}

theorem readText_written {s : Text} (hb : IsBlankText b) (h : WrittenString s t) (rest : Text) :
    readText (b ++ (t ++ rest)) = .ok (s, rest) := by
  obtain ⟨body, hbody, rfl⟩ := h
  have hread := stringBody_written hbody rest
  simp only [List.cons_append, List.append_assoc, readText, skipBlanks_append hb]
  rw [skipBlanks_cons rfl]
  exact hread

theorem readTexts_written {ss : List Text} (hb : IsBlankText b)
    (h : WrittenList WrittenString '[' ']' ss t) (rest : Text) :
    readTexts (b ++ (t ++ rest)) = .ok (ss, rest) := by
  have hhead : ∀ s t, WrittenString s t → ∃ c t', t = c :: t' ∧ isJsonBlank c = false ∧ c ≠ ']' := by
    rintro s t ⟨body, -, rfl⟩
    exact ⟨'"', _, rfl, rfl, by decide⟩
  obtain ⟨t', rfl, hitems⟩ := items_list hhead
    (fun s t rest hs => readText_written isBlankText_nil hs rest) h
  rw [readTexts, skipBlanks_append hb, List.cons_append, skipBlanks_cons rfl]
  exact hitems rest

theorem readNatural_written {n : Nat} (hb : IsBlankText b) (hn : n < Text.wordLimit)
    (hrest : EndsInteger rest) : readNatural (b ++ (Text.ofNat n ++ rest)) = .ok (n, rest) := by
  have hread := numeral_ofNat hn hrest
  obtain ⟨d, ds, hds⟩ := List.exists_cons_of_ne_nil (Text.ofNat_ne_nil n)
  have hdigit : Text.isDigit d = true :=
    Text.isDigit_of_mem_ofNat (n := n) (hds ▸ List.mem_cons_self)
  have hblank : isJsonBlank d = false := by
    rw [Bool.eq_false_iff]
    intro h
    simp only [isJsonBlank, Bool.or_eq_true, beq_iff_eq] at h
    rcases h with ((rfl | rfl) | rfl) | rfl <;> cases hdigit
  rw [hds, List.cons_append] at hread ⊢
  rw [readNatural, skipBlanks_append hb, skipBlanks_cons hblank]
  dsimp only
  split
  · rename_i heq
    cases heq
    cases hdigit
  · have hstarts : startsWithDigit (d :: (ds ++ rest)) = true := hdigit
    rw [if_pos hstarts, hread]
    rfl

/-- A written value of a field is read into the field and changes no other one. -/
theorem Field.read_written {f : Field} {c d : Config} (hradius : c.searchRadius < Text.wordLimit)
    (hb : IsBlankText b) (h : (f.get c).Written t) (hrest : EndsInteger rest) :
    ∃ d', f.read d (b ++ (t ++ rest)) = .ok (d', rest) ∧
      ∀ g : Field, g.get d' = if g = f then f.get c else g.get d := by
  cases f
  case searchRadius =>
    obtain rfl := h
    exact ⟨_, by rw [Field.read, readNatural_written hb hradius hrest]; rfl,
      fun g => by cases g <;> rfl⟩
  case extensions | lintCommand | directives =>
    exact ⟨_, by rw [Field.read, readTexts_written hb h]; rfl, fun g => by cases g <;> rfl⟩
  all_goals exact ⟨_, by rw [Field.read, readText_written hb h]; rfl, fun g => by cases g <;> rfl⟩

end Values

section Entries

variable {c d d' : Config} {met : List Field} {n : Nat} {first : Bool} {e : Entry}
  {b b' t t' u v rest body : Text}

theorem readEntries_field {key : Text} {f : Field} (hnext : nextKey first t = .ok (true, t'))
    (hkey : stringBody t' = .ok (key, u)) (hf : Field.ofKey? key = some f) (hmet : f ∉ met)
    (hcolon : colon u = .ok v) (hread : f.read d v = .ok (d', rest)) :
    readEntries (n + 1) first met d t = readEntries n false (f :: met) d' rest := by
  simp [readEntries, hnext, hkey, hf, hmet, hcolon, hread, bind, Except.bind]

theorem readEntries_other {key : Text} (hnext : nextKey first t = .ok (true, t'))
    (hkey : stringBody t' = .ok (key, u)) (hf : Field.ofKey? key = none)
    (hcolon : colon u = .ok v) (hskip : skipValue v = .ok rest) :
    readEntries (n + 1) first met d t = readEntries n false met d rest := by
  simp [readEntries, hnext, hkey, hf, hcolon, hskip, bind, Except.bind]

theorem readEntries_closed (hb : IsBlankText b) (rest : Text) :
    readEntries (n + 1) first met d (b ++ '}' :: rest) = .ok (d, rest) := by
  rw [readEntries, nextKey_close hb]
  rfl

/-- One entry more is met, and the configuration agrees with it. -/
theorem readEntries_entry (hradius : c.searchRadius < Text.wordLimit)
    (hagrees : Agrees c met d) (hnew : ∀ f ∈ e.field?, f ∉ met)
    (hbody : WrittenBody (e.content c).1 body) (hb : IsBlankText b) (hb' : IsBlankText b')
    (hv : (e.content c).2.Written v) (hrest : EndsInteger rest)
    (hnext : nextKey first t = .ok (true, body ++ '"' :: (b ++ ':' :: (b' ++ (v ++ rest))))) :
    ∃ d', readEntries (n + 1) first met d t =
        readEntries n false (e.field?.toList ++ met) d' rest ∧
      Agrees c (e.field?.toList ++ met) d' := by
  have hkey := stringBody_written hbody (b ++ ':' :: (b' ++ (v ++ rest)))
  have hcolon := colon_written hb (b' ++ (v ++ rest))
  cases e with
  | field f key named =>
    obtain ⟨d', hread, hget⟩ := Field.read_written (d := d) hradius hb' hv hrest
    refine ⟨d', readEntries_field hnext hkey (Field.ofKey?_of_mem_names named) (hnew f rfl) hcolon
      hread, fun g => ?_⟩
    have hmem : g ∈ f :: met ↔ g = f ∨ g ∈ met := List.mem_cons
    rw [hget, hagrees]
    by_cases hg : g = f
    · rw [if_pos hg, hg]
      exact (if_pos List.mem_cons_self).symm
    · rw [if_neg hg]
      exact if_congr (hmem.trans (or_iff_right hg)).symm rfl rfl
  | other key value unknown =>
    exact ⟨d, readEntries_other hnext hkey (Field.ofKey?_eq_none unknown) hcolon
      (skipValue_written hb' hv rest), hagrees⟩

theorem Agrees.congr {met met' : List Field} (h : Agrees c met d)
    (hsame : ∀ f, f ∈ met ↔ f ∈ met') : Agrees c met' d := by
  exact fun f => (h f).trans (if_congr (hsame f) rfl rfl)

theorem perm_fields_cons (e : Entry) (es : List Entry) (met : List Field) :
    ((e :: es).filterMap Entry.field? ++ met).Perm
      (es.filterMap Entry.field? ++ (e.field?.toList ++ met)) := by
  have hcons : (e :: es).filterMap Entry.field? =
      e.field?.toList ++ es.filterMap Entry.field? := by cases e <;> rfl
  rw [hcons, ← List.append_assoc]
  exact List.perm_append_comm.append_right met

theorem not_mem_of_nodup {es : List Entry}
    (h : (es.filterMap Entry.field? ++ (e.field?.toList ++ met)).Nodup) :
    ∀ f ∈ e.field?, f ∉ met := by
  intro f hf hmet
  have happart := (List.nodup_append.1 (List.nodup_append.1 h).2.1).2.2
  exact happart f (Option.mem_toList.2 hf) f hmet rfl

theorem readEntries_tail {es : List Entry} (hradius : c.searchRadius < Text.wordLimit)
    (h : WrittenTail WrittenEntry '}' (es.map (·.content c)) t) (hn : es.length < n)
    (hnew : (es.filterMap Entry.field? ++ met).Nodup) (hagrees : Agrees c met d) (rest : Text) :
    ∃ d', readEntries n false met d (t ++ rest) = .ok (d', rest) ∧
      Agrees c (es.filterMap Entry.field? ++ met) d' := by
  induction es generalizing met d t n with
  | nil =>
    obtain ⟨n, rfl⟩ := Nat.exists_eq_succ_of_ne_zero (Nat.ne_zero_of_lt hn)
    cases h with
    | close blank =>
      refine ⟨d, ?_, hagrees⟩
      rw [List.append_assoc]
      exact readEntries_closed blank rest
  | cons e es ih =>
    obtain ⟨n, rfl⟩ := Nat.exists_eq_succ_of_ne_zero (Nat.ne_zero_of_lt hn)
    have hperm := perm_fields_cons e es met
    have hnew' := hperm.nodup_iff.1 hnew
    cases h with
    | item blank blank' first tail =>
      obtain ⟨body, bc, bv, v, hbody, hbc, hbv, hv, rfl⟩ := first
      obtain ⟨d', hentry, hagrees'⟩ := readEntries_entry (n := n) hradius hagrees
        (not_mem_of_nodup hnew') hbody hbc hbv hv (tail.endsInteger (by decide) rest)
        (nextKey_comma blank blank' _)
      obtain ⟨d'', hrest, hagrees''⟩ := ih tail (Nat.lt_of_succ_lt_succ hn) hnew' hagrees'
      refine ⟨d'', ?_, hagrees''.congr fun f => hperm.mem_iff.symm⟩
      simp only [List.append_assoc, List.cons_append] at hentry ⊢
      rw [hentry, hrest]

theorem readEntries_list {es : List Entry} (hradius : c.searchRadius < Text.wordLimit)
    (h : WrittenList WrittenEntry '{' '}' (es.map (·.content c)) t)
    (hnew : (es.filterMap Entry.field?).Nodup) :
    ∃ t', t = '{' :: t' ∧ ∀ rest, ∃ d',
      readEntries ((t' ++ rest).length + 1) true [] {} (t' ++ rest) = .ok (d', rest) ∧
        Agrees c (es.filterMap Entry.field?) d' := by
  have hdefaults : Agrees c [] {} := fun f => (if_neg List.not_mem_nil).symm
  cases es with
  | nil =>
    cases h with
    | @empty b blank =>
      refine ⟨b ++ ['}'], rfl, fun rest => ⟨{}, ?_, hdefaults⟩⟩
      rw [List.append_assoc b]
      exact readEntries_closed blank rest
  | cons e es =>
    have hperm := perm_fields_cons e es []
    rw [← List.append_nil ((e :: es).filterMap _)] at hnew
    have hnew' := hperm.nodup_iff.1 hnew
    cases h with
    | @items _ _ b _ tail' blank first tail =>
      obtain ⟨body, bc, bv, v, hbody, hbc, hbv, hv, rfl⟩ := first
      refine ⟨_, rfl, fun rest => ?_⟩
      have hlength := tail.length_lt
      rw [List.length_map] at hlength
      generalize hn : (b ++ ('"' :: (body ++ '"' :: (bc ++ ':' :: (bv ++ v))) ++ tail') ++
        rest).length = n
      have hfuel : es.length < n := by
        simp only [List.length_append, List.length_cons] at hn
        omega
      obtain ⟨d', hentry, hagrees'⟩ := readEntries_entry (n := n) hradius hdefaults
        (not_mem_of_nodup hnew') hbody hbc hbv hv (tail.endsInteger (by decide) rest)
        (nextKey_first blank _)
      obtain ⟨d'', hrest, hagrees''⟩ := readEntries_tail hradius tail hfuel hnew' hagrees' rest
      refine ⟨d'', ?_, hagrees''.congr fun f => ?_⟩
      · simp only [List.append_assoc, List.cons_append] at hentry ⊢
        rw [hentry, hrest]
      · rw [← hperm.mem_iff, List.append_nil]

end Entries

section Files

variable {c : Config} {es : List Entry} {text : Text}

theorem whole_of_read {α : Type} {read : Text → Read α} {a : α} {t b : Text}
    (hread : read t = .ok (a, b)) (hb : IsBlankText b) : Json.whole read t = .ok a := by
  rw [Json.whole, mapError_eq_ok_iff, hread]
  simp only [bind, Except.bind, skipBlanks_blank hb]
  rfl

/-- A file gives the fields that it has the values it has for them, and the others their defaults. -/
theorem exists_parse (hradius : c.searchRadius < Text.wordLimit)
    (honce : (es.filterMap Entry.field?).Nodup)
    (hwritten : WrittenFile (es.map (·.content c)) text) :
    ∃ d, parse text = .ok d ∧ Agrees c (es.filterMap Entry.field?) d := by
  obtain ⟨b, object, b', hb, hb', hobject, rfl⟩ := hwritten
  obtain ⟨t, rfl, hentries⟩ := readEntries_list hradius hobject honce
  obtain ⟨d, hread, hagrees⟩ := hentries b'
  refine ⟨d, whole_of_read ?_ hb', hagrees⟩
  rw [readConfig, skipBlanks_append hb, List.cons_append, skipBlanks_cons rfl]
  exact hread

theorem eq_of_get {d : Config} (h : ∀ f : Field, f.get c = f.get d) : c = d := by
  have hroot := Field.Value.text.inj (h .messagesRoot)
  have hlocale := Field.Value.text.inj (h .primaryLocale)
  have hsource := Field.Value.text.inj (h .sourceRoot)
  have hextensions := Field.Value.texts.inj (h .extensions)
  have hlint := Field.Value.texts.inj (h .lintCommand)
  have hmarker := Field.Value.text.inj (h .issueMarker)
  have hhook := Field.Value.text.inj (h .hookName)
  have hmodule := Field.Value.text.inj (h .hookModule)
  have hfn := Field.Value.text.inj (h .translateFn)
  have hdirectives := Field.Value.texts.inj (h .directives)
  have hradius := Field.Value.natural.inj (h .searchRadius)
  cases c
  cases d
  subst_vars
  rfl

theorem prettyItems_eq (depth : Nat) (as : List Json) :
    prettyItems depth as = as.map (pretty depth) := by
  induction as with
  | nil => rfl
  | cons a as ih => rw [prettyItems, ih, List.map_cons]

theorem prettyEntries_eq (depth : Nat) (es : List (Text × Json)) :
    prettyEntries depth es =
      es.map fun e => stringText e.1 ++ ':' :: ' ' :: pretty depth e.2 := by
  induction es with
  | nil => rfl
  | cons e es ih => rw [prettyEntries, ih, List.map_cons]

theorem Field.Value.written_pretty (v : Field.Value) (depth : Nat) :
    v.Written (pretty depth v.json) := by
  cases v with
  | text s =>
    rw [Field.Value.json, pretty]
    exact writtenString_stringText s
  | texts ss =>
    rw [Field.Value.json, pretty, prettyItems_eq, List.map_map]
    refine writtenList_block (fun s _ => ?_) depth
    rw [Function.comp_apply, pretty]
    exact writtenString_stringText s
  | natural n => rfl

theorem writtenFile_pretty (es : List (Text × Field.Value)) :
    WrittenFile es (pretty 0 (.object (es.map fun e => (e.1, e.2.json)))) := by
  refine ⟨[], _, [], isBlankText_nil, isBlankText_nil, ?_, (List.append_nil _).symm⟩
  rw [pretty, prettyEntries_eq, List.map_map]
  refine writtenList_block (fun e _ => ?_) 0
  obtain ⟨body, hbody, hkey⟩ := writtenString_stringText e.1
  have hspace : IsBlankText [' '] := List.forall_mem_singleton.2 rfl
  refine ⟨body, [], [' '], _, hbody, isBlankText_nil, hspace, e.2.written_pretty 1, ?_⟩
  rw [Function.comp_apply, hkey, List.cons_append, List.append_assoc]
  rfl

/-- The fields under their own names, in the order in which they are written. -/
def allEntries : List Entry := Field.all.map fun f => .field f f.key f.key_mem_names

theorem fields_allEntries : allEntries.filterMap Entry.field? = Field.all := rfl

theorem parse_fileText (hradius : c.searchRadius < Text.wordLimit) :
    parse (fileText c) = .ok c := by
  have hwritten : WrittenFile (allEntries.map (·.content c)) (fileText c) := by
    have h := writtenFile_pretty (allEntries.map (·.content c))
    rwa [allEntries, List.map_map, List.map_map] at h
  have honce : (allEntries.filterMap Entry.field?).Nodup := by decide
  obtain ⟨d, hparse, hagrees⟩ := exists_parse hradius honce hwritten
  have hall (f : Field) : f ∈ Field.all := by cases f <;> decide
  have hsame (f : Field) : f.get d = f.get c := by
    rw [hagrees, fields_allEntries, if_pos (hall f)]
  rw [hparse, eq_of_get hsame]

/-- A file that holds some of the fields of a configuration, each once, with texts under other keys
anywhere between them, is read as the configuration for these fields and the defaults for the
others; the file of all fields as the configuration itself. -/
theorem parse_partial_file (hradius : c.searchRadius < Text.wordLimit) :
    (∀ (es : List Entry) (text : Text), (es.filterMap Entry.field?).Nodup →
        WrittenFile (es.map (·.content c)) text →
          ∃ d, parse text = .ok d ∧
            ∀ f : Field, f.get d = if f ∈ es.filterMap Entry.field? then f.get c else f.get {}) ∧
      parse (fileText c) = .ok c :=
  ⟨fun _ _ honce hwritten => exists_parse hradius honce hwritten, parse_fileText hradius⟩

def japanese : Config := { messagesRoot := "./locales".toList, primaryLocale := "ja".toList }

/-- The messages directory under its second key, a remark with quotes in it, and one field more. -/
def japaneseFile : Text :=
  "\x7b\n  \"messagesDir\": \"./locales\",\n  \"remark\": \"\\\"日本\\\"\",\n".toList ++
    "  \"primaryLocale\": \"ja\"\n\x7d".toList

theorem parse_japaneseFile :
    (∃ d, parse japaneseFile = .ok d ∧ d.messagesRoot = "./locales".toList ∧
      d.primaryLocale = "ja".toList ∧ d.searchRadius = 10) ∧
    parse (fileText japanese) = .ok japanese := by
  have hunknown : ∀ f : Field, "remark".toList ∉ f.names := by
    intro f
    cases f <;> decide
  let es : List Entry := [.field .messagesRoot "messagesDir".toList (by decide),
    .other "remark".toList "\"日本\"".toList hunknown,
    .field .primaryLocale "primaryLocale".toList (by decide)]
  have honce : (es.filterMap Entry.field?).Nodup := by
    change [Field.messagesRoot, .primaryLocale].Nodup
    decide
  have hwritten : WrittenFile (es.map (·.content japanese)) japaneseFile := by
    have hfile : japaneseFile = pretty 0
        (.object ((es.map (·.content japanese)).map fun e => (e.1, e.2.json))) := by rfl
    rw [hfile]
    exact writtenFile_pretty _
  obtain ⟨hpartial, hfile⟩ := parse_partial_file (c := japanese) (by decide)
  obtain ⟨d, hparse, hget⟩ := hpartial es japaneseFile honce hwritten
  exact ⟨⟨d, hparse, Field.Value.text.inj (hget .messagesRoot),
    Field.Value.text.inj (hget .primaryLocale), Field.Value.natural.inj (hget .searchRadius)⟩,
    hfile⟩

end Files

end Localize.Config

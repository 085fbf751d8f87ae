import Localize.Proofs.Dictionary
import Localize.Proofs.Text

/-! The key that a dictionary gives for a text leads back to it: cut at its dots it is a way through
the messages to a leaf with this text, and no leaf with this text is declared before it. -/

namespace Localize
namespace Json

/-- The value that keys lead to, one after another, through objects alone. -/
def at? : Json → List Text → Option Json
  | v, [] => some v
  | .object entries, key :: keys => (entries.lookup key).bind (·.at? keys)
  | _, _ :: _ => none

mutual

/-- The texts that are reached through objects alone, in the order in which they are declared, each
with the keys that lead to it. -/
def stringLeaves : Json → List (List Text × Text)
  | .string t => [([], t)]
  | .object entries => entryStringLeaves entries
  | _ => []

def entryStringLeaves : List (Text × Json) → List (List Text × Text)
  | [] => []
  | (key, value) :: rest =>
    (value.stringLeaves.map fun (keys, t) => (key :: keys, t)) ++ entryStringLeaves rest

end

mutual

/-- Every object that is reached through objects has keys of which `p` holds. -/
def KeysSatisfy (p : List Text → Prop) : Json → Prop
  | .object entries => p (entries.map (·.1)) ∧ EntryKeysSatisfy p entries
  | _ => True

def EntryKeysSatisfy (p : List Text → Prop) : List (Text × Json) → Prop
  | [] => True
  | (_, value) :: rest => value.KeysSatisfy p ∧ EntryKeysSatisfy p rest

end

/-- No object has two entries with one key, as in every value that is read from a text. -/
def DistinctKeys (v : Json) : Prop := v.KeysSatisfy List.Nodup

/-- No key is empty or holds a dot. -/
def PlainKeys (v : Json) : Prop := v.KeysSatisfy fun keys => ∀ key ∈ keys, key ≠ [] ∧ '.' ∉ key

variable {p : List Text → Prop} {entries : List (Text × Json)} {keys : List Text} {t : Text}

theorem entryKeysSatisfy_iff :
    EntryKeysSatisfy p entries ↔ ∀ entry ∈ entries, entry.2.KeysSatisfy p := by
  induction entries with
  | nil => simp [EntryKeysSatisfy]
  | cons entry entries ih => rw [EntryKeysSatisfy, ih, List.forall_mem_cons]

theorem keysSatisfy_object :
    (object entries).KeysSatisfy p ↔
      p (entries.map (·.1)) ∧ ∀ entry ∈ entries, entry.2.KeysSatisfy p := by
  rw [KeysSatisfy, entryKeysSatisfy_iff]

theorem lookup_eq_some_iff_mem {key : Text} {value : Json} (h : (entries.map (·.1)).Nodup) :
    entries.lookup key = some value ↔ (key, value) ∈ entries := by
  induction entries with
  | nil => simp
  | cons entry entries ih =>
    obtain ⟨k, v⟩ := entry
    obtain ⟨hnot, hnodup⟩ := List.nodup_cons.1 h
    rw [List.lookup_cons, List.mem_cons]
    by_cases hk : key = k
    · subst hk
      rw [beq_self_eq_true]
      constructor
      · intro hv
        exact .inl (by rw [Option.some.inj hv])
      · rintro (heq | hmem)
        · rw [(Prod.mk.inj heq).2]
        · exact absurd (List.mem_map_of_mem hmem) hnot
    · rw [beq_false_of_ne hk]
      exact (ih hnodup).trans ⟨.inr, fun h => h.resolve_left fun heq => hk (Prod.mk.inj heq).1⟩

theorem nil_not_mem_entryStringLeaves : ([], t) ∉ entryStringLeaves entries := by
  induction entries with
  | nil => exact nofun
  | cons entry entries ih =>
    rw [entryStringLeaves, List.mem_append, List.mem_map]
    rintro (⟨leaf, -, heq⟩ | hmem)
    · cases heq
    · exact ih hmem

theorem cons_mem_entryStringLeaves {key : Text} :
    (key :: keys, t) ∈ entryStringLeaves entries ↔
      ∃ value, (key, value) ∈ entries ∧ (keys, t) ∈ value.stringLeaves := by
  induction entries with
  | nil => simp [entryStringLeaves]
  | cons entry entries ih =>
    obtain ⟨k, v⟩ := entry
    rw [entryStringLeaves, List.mem_append, ih, List.mem_map]
    constructor
    · rintro (⟨leaf, hleaf, heq⟩ | ⟨value, hvalue, hleaf⟩)
      · cases heq
        exact ⟨v, List.mem_cons_self, hleaf⟩
      · exact ⟨value, List.mem_cons_of_mem _ hvalue, hleaf⟩
    · rintro ⟨value, hvalue, hleaf⟩
      rcases List.mem_cons.1 hvalue with heq | hvalue
      · cases heq
        exact .inl ⟨_, hleaf, rfl⟩
      · exact .inr ⟨value, hvalue, hleaf⟩

theorem mem_stringLeaves_iff {v : Json} (h : v.DistinctKeys) :
    (keys, t) ∈ v.stringLeaves ↔ v.at? keys = some (.string t) := by
  induction keys generalizing v with
  | nil =>
    rw [at?]
    cases v with
    | string s => simp [stringLeaves, eq_comm]
    | object entries =>
      rw [stringLeaves]
      exact ⟨fun hmem => absurd hmem nil_not_mem_entryStringLeaves, nofun⟩
    | _ => simp [stringLeaves]
  | cons key keys ih =>
    cases v with
    | object entries =>
      obtain ⟨hnodup, hvalues⟩ := keysSatisfy_object.1 h
      rw [stringLeaves, cons_mem_entryStringLeaves, at?, Option.bind_eq_some_iff]
      refine exists_congr fun value => ?_
      rw [lookup_eq_some_iff_mem hnodup]
      exact and_congr_right fun hmem => ih (hvalues _ hmem)
    | _ => simp [stringLeaves, at?]

theorem forall_of_at? {q : Text → Prop} {v value : Json}
    (h : v.KeysSatisfy fun keys => ∀ key ∈ keys, q key) (hat : v.at? keys = some value) :
    ∀ key ∈ keys, q key := by
  induction keys generalizing v with
  | nil => exact nofun
  | cons key keys ih =>
    cases v with
    | object entries =>
      obtain ⟨hkeys, hvalues⟩ := keysSatisfy_object.1 h
      rw [at?, Option.bind_eq_some_iff] at hat
      obtain ⟨child, hlookup, hat⟩ := hat
      obtain ⟨l₁, l₂, rfl, -⟩ := List.lookup_eq_some_iff.1 hlookup
      have hmem : (key, child) ∈ l₁ ++ (key, child) :: l₂ :=
        List.mem_append_right _ List.mem_cons_self
      exact List.forall_mem_cons.2
        ⟨hkeys key (List.mem_map_of_mem (f := (·.1)) hmem), ih (hvalues _ hmem) hat⟩
    | _ => rw [at?] at hat <;> cases hat

theorem plain_of_at? {v value : Json} (h : v.PlainKeys) (hat : v.at? keys = some value) :
    ∀ key ∈ keys, key ≠ [] ∧ '.' ∉ key := forall_of_at? h hat

theorem ne_nil_of_at? {v value : Json} {keys' : List Text} (hne : keys ≠ [])
    (hat : v.at? keys = some value) (hleaf : v.at? keys' = some (.string t)) : keys' ≠ [] := by
  rintro rfl
  rw [at?, Option.some.injEq] at hleaf
  obtain ⟨key, keys, rfl⟩ := List.exists_cons_of_ne_nil hne
  rw [hleaf, at?] at hat
  · cases hat
  · exact nofun

end Json

namespace Dictionary

mutual

/-- The dictionary goes through the leaves, each with its keys joined to a path. -/
theorem leaves_eq (path : Text) (v : Json) :
    leaves path v = v.stringLeaves.map fun (keys, t) => (keys.foldl extend path, t) := by
  cases v with
  | object entries =>
    rw [leaves, Json.stringLeaves]
    exact entryLeaves_eq path entries
  | string t => rw [leaves, Json.stringLeaves]; rfl
  | _ => rfl

theorem entryLeaves_eq (path : Text) (entries : List (Text × Json)) :
    entryLeaves path entries =
      (Json.entryStringLeaves entries).map fun (keys, t) => (keys.foldl extend path, t) := by
  cases entries with
  | nil => rfl
  | cons entry rest =>
    obtain ⟨key, value⟩ := entry
    rw [entryLeaves, Json.entryStringLeaves, leaves_eq (extend path key) value,
      entryLeaves_eq path rest, List.map_append, List.map_map]
    rfl

end

theorem foldl_extend {path : Text} (h : path ≠ []) (keys : List Text) :
    keys.foldl extend path = Text.joined ['.'] (path :: keys) := by
  induction keys generalizing path with
  | nil => rw [List.foldl_nil, Text.joined_singleton]
  | cons key keys ih =>
    rw [List.foldl_cons, extend, if_neg h, ih (by simp)]
    cases keys with
    | nil => simp [Text.joined_cons_cons, Text.joined_singleton]
    | cons key' keys => simp [Text.joined_cons_cons]

theorem foldl_extend_of_head? {keys : List Text} (h : keys.head? ≠ some []) :
    keys.foldl extend [] = Text.joined ['.'] keys := by
  cases keys with
  | nil => rfl
  | cons key keys =>
    have hkey : key ≠ [] := fun hnil => h (congrArg some hnil)
    rw [List.foldl_cons, extend, if_pos rfl, foldl_extend hkey]

theorem foldl_extend_nil {keys : List Text} (h : ∀ key ∈ keys, key ≠ []) :
    keys.foldl extend [] = Text.joined ['.'] keys :=
  foldl_extend_of_head? fun hhead => h [] (List.mem_of_head? hhead) rfl

theorem foldl_extend_ne_nil {keys : List Text} (hne : keys ≠ []) (h : ∀ key ∈ keys, key ≠ []) :
    keys.foldl extend [] ≠ [] := by
  rw [foldl_extend_nil h]
  obtain ⟨key, keys, rfl⟩ := List.exists_cons_of_ne_nil hne
  have hkey := h key List.mem_cons_self
  cases keys with
  | nil => rwa [Text.joined_singleton]
  | cons key' keys => simp [Text.joined_cons_cons, hkey]

/-- A key that answers for a text, cut at its dots, is the way to the first leaf with this text. -/
theorem first_leaf_of_lookup {messages : Json} {v k : Text} (hdistinct : messages.DistinctKeys)
    (hplain : messages.PlainKeys) (h : (ofJson messages).lookup v = some k) :
    messages.stringLeaves.find? (·.2 = v) = some (Text.fields '.' k, v) := by
  rw [lookup_ofJson, leaves_eq, List.find?_map, Option.map_map, Option.map_eq_some_iff] at h
  obtain ⟨⟨keys, t⟩, hfind, rfl⟩ := h
  obtain ⟨hleaf, before, after, hsplit, hbefore⟩ := List.find?_eq_some_iff_append.1 hfind
  simp only [Function.comp_apply, decide_eq_true_eq] at hleaf
  obtain ⟨rfl, hpath, hvisible⟩ := hleaf
  have hmem : (keys, t) ∈ messages.stringLeaves := by
    rw [hsplit]
    exact List.mem_append_right _ List.mem_cons_self
  have hat := (Json.mem_stringLeaves_iff hdistinct).1 hmem
  have hkeys := Json.plain_of_at? hplain hat
  have hne : keys ≠ [] := by
    rintro rfl
    exact hpath rfl
  have hfields : Text.fields '.' (keys.foldl extend []) = keys := by
    rw [foldl_extend_nil fun key hkey => (hkeys key hkey).1]
    exact Text.fields_joined hne fun key hkey => (hkeys key hkey).2
  simp only [Function.comp_apply, hfields]
  refine List.find?_eq_some_iff_append.2 ⟨by simp, before, after, hsplit, ?_⟩
  -- A leaf with this text has a path, so it would have answered if it came before.
  intro leaf hin
  rw [Bool.not_eq_true', decide_eq_false_iff_not]
  intro htext
  have hleafAt := (Json.mem_stringLeaves_iff hdistinct).1
    (show (leaf.1, leaf.2) ∈ messages.stringLeaves from hsplit ▸ List.mem_append_left _ hin)
  have hleafKeys := Json.plain_of_at? hplain hleafAt
  have hleafNe := Json.ne_nil_of_at? hne hat hleafAt
  have hleafPath := foldl_extend_ne_nil hleafNe fun key hkey => (hleafKeys key hkey).1
  have hskipped := hbefore leaf hin
  simp [htext, hleafPath, hvisible] at hskipped

theorem at?_of_lookup {messages : Json} {v k : Text} (hdistinct : messages.DistinctKeys)
    (hplain : messages.PlainKeys) (h : (ofJson messages).lookup v = some k) :
    messages.at? (Text.fields '.' k) = some (.string v) :=
  (Json.mem_stringLeaves_iff hdistinct).1
    (List.mem_of_find?_eq_some (first_leaf_of_lookup hdistinct hplain h))

/-- A key that answers for a text, cut at its dots, leads to the first leaf with this text. -/
theorem key_leads_back {messages : Json} {v k : Text} (hdistinct : messages.DistinctKeys)
    (hplain : messages.PlainKeys) (h : (ofJson messages).lookup v = some k) :
    messages.at? (Text.fields '.' k) = some (.string v) ∧
      messages.stringLeaves.find? (·.2 = v) = some (Text.fields '.' k, v) :=
  ⟨at?_of_lookup hdistinct hplain h, first_leaf_of_lookup hdistinct hplain h⟩

def fourSaves : Json := .object [
  ("list".toList, .array [.string "Save".toList]),
  ("page".toList, .object [
    ("blank".toList, .string " ".toList),
    ("nested".toList, .object [("label".toList, .string "Save".toList)])]),
  ("save".toList, .string "Save".toList)]

theorem key_leads_back_four_saves :
    fourSaves.DistinctKeys ∧ fourSaves.PlainKeys ∧
      (ofJson fourSaves).lookup "Save".toList = some "page.nested.label".toList ∧
      fourSaves.at? ["page".toList, "nested".toList, "label".toList] =
        some (.string "Save".toList) := by
  have hdistinct : fourSaves.DistinctKeys :=
    ⟨by decide, trivial, ⟨by decide, trivial, ⟨by decide, trivial, trivial⟩, trivial⟩, trivial,
      trivial⟩
  have hplain : fourSaves.PlainKeys :=
    ⟨by decide, trivial, ⟨by decide, trivial, ⟨by decide, trivial, trivial⟩, trivial⟩, trivial,
      trivial⟩
  have hlookup : (ofJson fourSaves).lookup "Save".toList = some "page.nested.label".toList := by
    decide +kernel
  exact ⟨hdistinct, hplain, hlookup, (key_leads_back hdistinct hplain hlookup).1⟩

end Dictionary
end Localize

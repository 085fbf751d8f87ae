import Localize.Proofs.KeyPath
import Localize.Proofs.Replacement

/-! Which texts can share a key. A key is the path to its text, and the path tells the way through
the messages as long as no object key on it holds a dot and the first one is not empty. Texts on
such ways have different keys and different calls. Two ways that leave one path share a key. -/

namespace Localize

/-- No object key that is reached through objects holds a dot. -/
def Json.DotlessKeys (v : Json) : Prop := v.KeysSatisfy fun keys => ∀ key ∈ keys, '.' ∉ key

namespace Dictionary

/-- Keys that can be read off their path. An empty first key would leave nothing in it. -/
structure Traceable (keys : List Text) : Prop where
  first : keys.head? ≠ some []
  dotless : ∀ key ∈ keys, '.' ∉ key

/-- The keys lead to a leaf with this text, and their path is `path`. -/
structure LeadsTo (messages : Json) (keys : List Text) (path t : Text) : Prop where
  leaf : (keys, t) ∈ messages.stringLeaves
  path_eq : keys.foldl extend [] = path

variable {messages : Json} {keys keys' : List Text} {path t t' : Text}

theorem ne_nil_of_lookup_eq (h : (ofJson messages).lookup t = some path) : path ≠ [] := by
  rw [lookup_ofJson, Option.map_eq_some_iff] at h
  obtain ⟨leaf, hfind, rfl⟩ := h
  have hleaf := List.find?_some hfind
  rw [decide_eq_true_eq] at hleaf
  exact hleaf.2.1

theorem exists_leadsTo (h : (ofJson messages).lookup t = some path) :
    ∃ keys, LeadsTo messages keys path t := by
  rw [lookup_ofJson, leaves_eq, List.find?_map, Option.map_map, Option.map_eq_some_iff] at h
  obtain ⟨⟨keys, t'⟩, hfind, rfl⟩ := h
  have hleaf := List.find?_some hfind
  simp only [Function.comp_apply, decide_eq_true_eq] at hleaf
  obtain ⟨rfl, -, -⟩ := hleaf
  exact ⟨keys, List.mem_of_find?_eq_some hfind, rfl⟩

namespace LeadsTo

theorem fields_path (h : LeadsTo messages keys path t) (htrace : Traceable keys)
    (hpath : path ≠ []) : Text.fields '.' path = keys := by
  have hne : keys ≠ [] := by
    rintro rfl
    exact hpath h.path_eq.symm
  rw [← h.path_eq, foldl_extend_of_head? htrace.first]
  exact Text.fields_joined hne htrace.dotless

theorem text_eq (hdistinct : messages.DistinctKeys) (h : LeadsTo messages keys path t)
    (h' : LeadsTo messages keys path t') : t = t' := by
  have hat := (Json.mem_stringLeaves_iff hdistinct).1 h.leaf
  have hat' := (Json.mem_stringLeaves_iff hdistinct).1 h'.leaf
  rw [hat] at hat'
  cases hat'
  rfl

end LeadsTo

/-- Where no object key holds a dot and the root has no empty one, every key is traceable. -/
theorem exists_traceable (hdistinct : messages.DistinctKeys) (hdotless : messages.DotlessKeys)
    (hroot : messages.at? [[]] = none) (h : (ofJson messages).lookup t = some path) :
    ∃ keys, Traceable keys ∧ LeadsTo messages keys path t := by
  obtain ⟨keys, hway⟩ := exists_leadsTo h
  have hat := (Json.mem_stringLeaves_iff hdistinct).1 hway.leaf
  refine ⟨keys, ⟨?_, Json.forall_of_at? hdotless hat⟩, hway⟩
  intro hfirst
  obtain ⟨rest, rfl⟩ := List.head?_eq_some_iff.1 hfirst
  cases messages with
  | object entries =>
    rw [Json.at?, Option.bind_eq_some_iff] at hat
    obtain ⟨child, hchild, -⟩ := hat
    rw [Json.at?, hchild] at hroot
    cases hroot
  | _ => cases hat

/-- Two texts with one key are one text, if the key is the path of a traceable way to each. -/
theorem text_eq_of_key_eq {v w k : Text} (hdistinct : messages.DistinctKeys)
    (hv : (ofJson messages).lookup v = some k)
    (hk : ∃ keys, Traceable keys ∧ LeadsTo messages keys k v)
    (hl : ∃ keys, Traceable keys ∧ LeadsTo messages keys k w) : v = w := by
  obtain ⟨keys, htrace, hway⟩ := hk
  obtain ⟨keys', htrace', hway'⟩ := hl
  have hpath := ne_nil_of_lookup_eq hv
  obtain rfl := (hway.fields_path htrace hpath).symm.trans (hway'.fields_path htrace' hpath)
  exact hway.text_eq hdistinct hway'

/-- Different texts have different keys and different calls, if the key of each is the path of a
traceable way to it. -/
theorem different_texts_called_differently {v w k l : Text} (translateFn : Text)
    (hdistinct : messages.DistinctKeys) (hv : (ofJson messages).lookup v = some k)
    (hw : (ofJson messages).lookup w = some l) (hne : v ≠ w)
    (hk : ∃ keys, Traceable keys ∧ LeadsTo messages keys k v)
    (hl : ∃ keys, Traceable keys ∧ LeadsTo messages keys l w) :
    k ≠ l ∧ Replacement.call translateFn k ≠ Replacement.call translateFn l := by
  have hdifferent : k ≠ l := by
    rintro rfl
    exact hne (text_eq_of_key_eq hdistinct hv hk hl)
  exact ⟨hdifferent, fun hcall => hdifferent (Replacement.call_injective hcall)⟩

/-- An empty key below the root, and a text that stands in two places. -/
def pageMessages : Json := .object [
  ("page".toList, .object [
    ("".toList, .string "Open".toList),
    ("ok".toList, .string "Save".toList)]),
  ("ok".toList, .string "Save".toList)]

theorem page_texts_called_differently :
    (ofJson pageMessages).lookup "Open".toList = some "page.".toList ∧
      (ofJson pageMessages).lookup "Save".toList = some "page.ok".toList ∧
      Replacement.call "t".toList "page.".toList ≠
        Replacement.call "t".toList "page.ok".toList := by
  have hdistinct : pageMessages.DistinctKeys :=
    ⟨by decide, ⟨by decide, trivial, trivial, trivial⟩, trivial, trivial⟩
  have hdotless : pageMessages.DotlessKeys :=
    ⟨by decide, ⟨by decide, trivial, trivial, trivial⟩, trivial, trivial⟩
  have hopen : (ofJson pageMessages).lookup "Open".toList = some "page.".toList := by
    decide +kernel
  have hsave : (ofJson pageMessages).lookup "Save".toList = some "page.ok".toList := by
    decide +kernel
  have hroot : pageMessages.at? [[]] = none := rfl
  have hcalls := different_texts_called_differently "t".toList hdistinct hopen hsave (by decide)
    (exists_traceable hdistinct hdotless hroot hopen)
    (exists_traceable hdistinct hdotless hroot hsave)
  exact ⟨hopen, hsave, hcalls.2⟩

/-- A key with a dot leaves the path of two keys. -/
def dottedKey : Json := .object [
  ("page.save".toList, .string "Save".toList),
  ("page".toList, .object [("save".toList, .string "Open".toList)])]

/-- An empty key at the root leaves nothing. -/
def emptyKey : Json := .object [
  ("".toList, .object [("save".toList, .string "Save".toList)]),
  ("save".toList, .string "Open".toList)]

/-- Two ways with one path give one key to two texts. -/
theorem texts_share_key :
    (dottedKey.DistinctKeys ∧ (ofJson dottedKey).lookup "Save".toList = some "page.save".toList ∧
      (ofJson dottedKey).lookup "Open".toList = some "page.save".toList) ∧
    (emptyKey.DistinctKeys ∧ (ofJson emptyKey).lookup "Save".toList = some "save".toList ∧
      (ofJson emptyKey).lookup "Open".toList = some "save".toList) ∧
    "Save".toList ≠ "Open".toList := by
  refine ⟨⟨?_, by decide +kernel, by decide +kernel⟩, ⟨?_, by decide +kernel, by decide +kernel⟩,
    by decide⟩
  · exact ⟨by decide, trivial, ⟨by decide, trivial, trivial⟩, trivial⟩
  · exact ⟨by decide, ⟨by decide, trivial, trivial⟩, trivial, trivial⟩

end Dictionary
end Localize

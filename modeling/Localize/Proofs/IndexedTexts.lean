import Mathlib.Data.Finset.Card
import Localize.Proofs.KeyPath

/-! What a dictionary holds, said without building it: the texts that are reached through objects in
the order in which they are declared, each under the path of its keys, except for blank texts and
empty paths. The first path of a text is its key, and each text counts once. -/

namespace Localize.Dictionary

/-- Empty keys in front contribute nothing. -/
def pathOf (keys : List Text) : Text := Text.joined ['.'] (keys.dropWhile List.isEmpty)

/-- The texts that can be looked up, in the order in which they are declared, each with its path. -/
def declaredTexts (messages : Json) : List (Text × Text) :=
  (messages.stringLeaves.map fun (keys, t) => (pathOf keys, t)).filter fun (path, t) =>
    !path.isEmpty && !Text.isAllBlank t

def texts (d : Dictionary) : List Text := d.entries.map (·.1)

variable {d : Dictionary} {messages : Json} {t : Text}

theorem foldl_extend_eq_pathOf (keys : List Text) : keys.foldl extend [] = pathOf keys := by
  induction keys with
  | nil => rfl
  | cons key keys ih =>
    rw [List.foldl_cons, extend, if_pos rfl, pathOf]
    cases key with
    | nil => exact ih
    | cons c key => exact foldl_extend (List.cons_ne_nil c key) keys

theorem lookup_eq_find?_declaredTexts (messages : Json) (t : Text) :
    (ofJson messages).lookup t = ((declaredTexts messages).find? (·.2 = t)).map (·.1) := by
  rw [lookup_ofJson, leaves_eq, declaredTexts, List.find?_filter]
  simp only [foldl_extend_eq_pathOf]
  congr 2
  funext leaf
  simp [and_comm]

theorem mem_texts_iff : t ∈ d.texts ↔ (d.lookup t).isSome = true := by
  rw [texts, lookup, List.lookup_isSome_iff, List.mem_map]
  exact exists_congr fun entry => and_congr_right fun _ => by rw [beq_iff_eq, eq_comm]

theorem nodup_texts_add (h : d.texts.Nodup) (path text : Text) : (d.add (path, text)).texts.Nodup := by
  by_cases hfit : path ≠ [] ∧ Text.isAllBlank text = false
  · cases hmet : (d.lookup text).isSome with
    | true => rwa [add_of_unfit (.inr hmet)]
    | false =>
      have hnew : text ∉ d.texts := by rw [mem_texts_iff, hmet]; exact Bool.false_ne_true
      rw [add_of_fit hfit hmet, texts, List.map_append, List.nodup_append]
      refine ⟨h, List.nodup_singleton _, fun a ha b hb hab => hnew ?_⟩
      obtain rfl := List.mem_singleton.1 hb
      exact hab ▸ ha
  · rwa [add_of_unfit (.inl hfit)]

theorem nodup_texts_foldl (leaves : List (Text × Text)) (h : d.texts.Nodup) :
    (leaves.foldl add d).texts.Nodup := by
  induction leaves generalizing d with
  | nil => exact h
  | cons leaf leaves ih => exact ih (nodup_texts_add h leaf.1 leaf.2)

theorem mem_texts_ofJson_iff :
    t ∈ (ofJson messages).texts ↔ t ∈ (declaredTexts messages).map (·.2) := by
  rw [mem_texts_iff, lookup_eq_find?_declaredTexts, Option.isSome_map, List.find?_isSome,
    List.mem_map]
  simp only [decide_eq_true_eq]

theorem size_eq_card (messages : Json) :
    (ofJson messages).size = ((declaredTexts messages).map (·.2)).toFinset.card := by
  have hsame : ((declaredTexts messages).map (·.2)).toFinset = (ofJson messages).texts.toFinset := by
    ext t
    rw [List.mem_toFinset, List.mem_toFinset, mem_texts_ofJson_iff]
  have hnodup : (ofJson messages).texts.Nodup := nodup_texts_foldl _ List.nodup_nil
  rw [hsame, List.toFinset_card_of_nodup hnodup, texts, List.length_map, size]

theorem isEmpty_iff_size : d.isEmpty = true ↔ d.size = 0 := by
  rw [isEmpty, size, List.isEmpty_iff, List.length_eq_zero_iff]

/-- A text has the path of its first declaration as its key, the size counts the different texts that
are declared, and there is nothing in the dictionary exactly if none is. -/
theorem declared_texts_indexed (messages : Json) :
    (∀ t, (ofJson messages).lookup t = ((declaredTexts messages).find? (·.2 = t)).map (·.1)) ∧
    (ofJson messages).size = ((declaredTexts messages).map (·.2)).toFinset.card ∧
    ((ofJson messages).isEmpty = true ↔ declaredTexts messages = []) := by
  refine ⟨lookup_eq_find?_declaredTexts messages, size_eq_card messages, ?_⟩
  rw [isEmpty_iff_size, size_eq_card, Finset.card_eq_zero, List.toFinset_eq_empty_iff,
    List.map_eq_nil_iff]

/-- An empty key in front leaves no point in the path, and a later one does. -/
example : declaredTexts (.object [([], .object [("a".toList, .string "Save".toList)]),
      ("b".toList, .object [([], .string "Open".toList)]), ("c".toList, .string " ".toList)]) =
    [("a".toList, "Save".toList), ("b.".toList, "Open".toList)] := by decide

end Localize.Dictionary

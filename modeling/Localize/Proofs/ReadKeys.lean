import Mathlib.Data.List.Nodup
import Localize.Json.Reader
import Localize.Proofs.Failure
import Localize.Proofs.SharedKeys

/-! No object that is read has two entries with one key. So the keys of a dictionary lead back into
the text that it was read from, and different texts there have different keys. -/

namespace Localize.Json

section Entries

variable {α : Type} {key : Text} {value : α} {kept : List (Text × α)}

theorem keys_putEntry (key : Text) (value : α) (kept : List (Text × α)) :
    (putEntry key value kept).map (·.1) =
      if key ∈ kept.map (·.1) then kept.map (·.1) else kept.map (·.1) ++ [key] := by
  induction kept with
  | nil => rfl
  | cons entry kept ih =>
    obtain ⟨k, old⟩ := entry
    rw [putEntry]
    by_cases hk : k = key
    · rw [if_pos hk, if_pos (by simp [hk])]
      rfl
    · rw [if_neg hk, List.map_cons, ih, List.map_cons]
      by_cases hmem : key ∈ kept.map (·.1)
      · rw [if_pos hmem, if_pos (List.mem_cons_of_mem _ hmem)]
      · rw [if_neg hmem, if_neg (by simpa [Ne.symm hk] using hmem), List.cons_append]

theorem mem_putEntry {entry : Text × α} (h : entry ∈ putEntry key value kept) :
    entry = (key, value) ∨ entry ∈ kept := by
  induction kept with
  | nil => exact .inl (List.mem_singleton.1 h)
  | cons e kept ih =>
    obtain ⟨k, old⟩ := e
    rw [putEntry] at h
    split at h
    · rename_i hk
      rcases List.mem_cons.1 h with heq | hmem
      · exact .inl (hk ▸ heq)
      · exact .inr (List.mem_cons_of_mem _ hmem)
    · rcases List.mem_cons.1 h with heq | hmem
      · exact .inr (heq ▸ List.mem_cons_self)
      · exact (ih hmem).imp_right (List.mem_cons_of_mem _)

theorem nodup_keys_putEntry (h : (kept.map (·.1)).Nodup) :
    ((putEntry key value kept).map (·.1)).Nodup := by
  rw [keys_putEntry]
  split
  · exact h
  · rename_i hnew
    rw [List.nodup_append]
    exact ⟨h, List.nodup_singleton _, fun k hk k' hk' he => hnew (by simp_all)⟩

theorem foldl_putEntry (entries kept : List (Text × α)) (hnodup : (kept.map (·.1)).Nodup) :
    ((entries.foldl (fun kept (k, v) => putEntry k v kept) kept).map (·.1)).Nodup ∧
      ∀ entry ∈ entries.foldl (fun kept (k, v) => putEntry k v kept) kept,
        entry ∈ entries ∨ entry ∈ kept := by
  induction entries generalizing kept with
  | nil => exact ⟨hnodup, fun entry h => .inr h⟩
  | cons e entries ih =>
    obtain ⟨hkeys, hmem⟩ := ih _ (nodup_keys_putEntry hnodup)
    refine ⟨hkeys, fun entry h => ?_⟩
    rcases hmem entry h with h | h
    · exact .inl (List.mem_cons_of_mem _ h)
    · rcases mem_putEntry h with heq | h
      · exact .inl (heq ▸ List.mem_cons_self)
      · exact .inr h

theorem ofEntries_spec (entries : List (Text × α)) :
    ((ofEntries entries).map (·.1)).Nodup ∧ ∀ entry ∈ ofEntries entries, entry ∈ entries := by
  obtain ⟨hkeys, hmem⟩ := foldl_putEntry entries [] List.nodup_nil
  exact ⟨hkeys, fun entry h => (hmem entry h).resolve_right nofun⟩

end Entries

theorem forall_of_entries_eq_ok {α : Type} {p : α → Prop} {value : Text → Read α}
    (hvalue : ∀ t a rest, value t = .ok (a, rest) → p a) {n : Nat} {first : Bool} {t rest : Text}
    {as : List (Text × α)} (h : entries value n first t = .ok (as, rest)) :
    ∀ entry ∈ as, p entry.2 := by
  induction n generalizing first t as with
  | zero => cases h
  | succ n ih =>
    rw [entries] at h
    obtain ⟨⟨more, t'⟩, -, h⟩ := bind_eq_ok_iff.1 h
    cases more with
    | false =>
      cases h
      exact nofun
    | true =>
      obtain ⟨⟨key, t'⟩, -, h⟩ := bind_eq_ok_iff.1 h
      obtain ⟨t', -, h⟩ := bind_eq_ok_iff.1 h
      obtain ⟨⟨a, t'⟩, ha, h⟩ := bind_eq_ok_iff.1 h
      obtain ⟨⟨bs, t'⟩, hbs, h⟩ := bind_eq_ok_iff.1 h
      cases h
      exact List.forall_mem_cons.2 ⟨hvalue _ _ _ ha, ih hbs⟩

theorem distinctKeys_of_map_eq_ok {ε α : Type} {x : Except ε α} {f : α → Json × Text} {v : Json}
    {rest : Text} (h : x.map f = .ok (v, rest)) (hf : ∀ a, (f a).1.DistinctKeys) :
    v.DistinctKeys := by
  obtain ⟨a, -, ha⟩ := map_eq_ok_iff.1 h
  have hfirst := hf a
  rwa [ha] at hfirst

theorem distinctKeys_of_value {depth : Nat} {t rest : Text} {v : Json}
    (h : value depth t = .ok (v, rest)) : v.DistinctKeys := by
  induction depth using Nat.strongRecOn generalizing t v rest with
  | ind depth ih =>
    unfold value at h
    dsimp only at h
    split at h
    · cases h
    · exact distinctKeys_of_map_eq_ok h fun _ => trivial
    · exact distinctKeys_of_map_eq_ok h fun _ => trivial
    · exact distinctKeys_of_map_eq_ok h fun _ => trivial
    · exact distinctKeys_of_map_eq_ok h fun _ => trivial
    · exact distinctKeys_of_map_eq_ok h fun _ => trivial
    · split at h
      · cases h
      · exact distinctKeys_of_map_eq_ok h fun _ => trivial
    · split at h
      · cases h
      · -- An object: its entries are read one level deeper.
        rename_i d
        obtain ⟨⟨as, _⟩, has, h⟩ := map_eq_ok_iff.1 h
        cases h
        obtain ⟨hnodup, hmem⟩ := ofEntries_spec as
        have hvalues := forall_of_entries_eq_ok
          (fun t a rest ha => ih d (Nat.lt_succ_self d) ha) has
        exact keysSatisfy_object.2 ⟨hnodup, fun entry he => hvalues entry (hmem entry he)⟩
    · split at h
      · exact distinctKeys_of_map_eq_ok h fun _ => trivial
      · cases h

/-- Every text that is read as JSON gives objects with distinct keys. -/
theorem distinctKeys_of_parse {t : Text} {v : Json} (h : parse t = .ok v) : v.DistinctKeys := by
  rw [parse, whole] at h
  have hread := mapError_eq_ok_iff.1 h
  obtain ⟨⟨a, rest⟩, hvalue, hread⟩ := bind_eq_ok_iff.1 hread
  dsimp only at hread
  split at hread
  · cases hread
    exact distinctKeys_of_value hvalue
  · cases hread

end Localize.Json

namespace Localize.Dictionary

variable {content v w k : Text} {messages : Json}

/-- A key from a text that is read as messages with plain keys leads back to its string there. -/
theorem read_key_leads_back (hread : Json.parse content = .ok messages)
    (hplain : messages.PlainKeys) (h : (ofJson messages).lookup v = some k) :
    messages.at? (Text.fields '.' k) = some (.string v) ∧
      messages.stringLeaves.find? (·.2 = v) = some (Text.fields '.' k, v) := by
  have hdistinct := Json.distinctKeys_of_parse hread
  exact ⟨at?_of_lookup hdistinct hplain h, first_leaf_of_lookup hdistinct hplain h⟩

/-- Two strings have one key only if they are one, in a text that is read as messages without a dot
in a key and without an empty key at the root. -/
theorem read_key_of_one_text (hread : Json.parse content = .ok messages)
    (hdotless : messages.DotlessKeys) (hroot : messages.at? [[]] = none)
    (hv : (ofJson messages).lookup v = some k) (hw : (ofJson messages).lookup w = some k) :
    v = w := by
  have hdistinct := Json.distinctKeys_of_parse hread
  exact text_eq_of_key_eq hdistinct hv (exists_traceable hdistinct hdotless hroot hv)
    (exists_traceable hdistinct hdotless hroot hw)

end Localize.Dictionary

import Localize.Proofs.Replacement

/-! Strings inside attribute values. A value is replaced as a whole together with its quotes. Of a
string that is only a part of a value, the place of the part decides: at the start of the value the
opening quote is seen before it and the line is kept, and anywhere else it is taken for bare
text. -/

namespace Localize.Replacement

/-- Word characters and hyphens, the first of them a letter of ASCII or an underscore. -/
structure IsAttributeName (name : Text) : Prop where
  first : ∃ c ∈ name.head?, Text.isLetter c = true ∨ c = '_'
  chars : ∀ c ∈ name, isNameChar c = true

/-- The leftmost occurrence of the needle is inside the value of an attribute, between `left` and
`right`, which are the rest of the value. -/
structure InsideValue (line needle front name left right back : Text) : Prop where
  shape : line = front ++ (name ++ '=' :: '"' :: (left ++ needle ++ right ++ '"' :: back))
  named : IsAttributeName name
  unquoted : '"' ∉ left ++ needle ++ right
  leftmost : ∀ before after, line = before ++ needle ++ after →
    (front ++ (name ++ '=' :: '"' :: left)).length ≤ before.length
  part : left ++ right ≠ []

variable {line needle front name left right back : Text}

theorem opensAttribute_name (h : IsAttributeName name) (front : Text) :
    opensAttribute (front ++ (name ++ ['=', '"'])) = true := by
  obtain ⟨c, hfirst, hletter⟩ := h.first
  have hreverse : (front ++ (name ++ ['=', '"'])).reverse =
      '"' :: '=' :: (name.reverse ++ front.reverse) := by simp
  have htake : (name.reverse ++ front.reverse).takeWhile isNameChar =
      name.reverse ++ front.reverse.takeWhile isNameChar :=
    List.takeWhile_append_of_pos fun d hd => h.chars d (List.mem_reverse.1 hd)
  have hmem : c ∈ name.reverse ++ front.reverse.takeWhile isNameChar :=
    List.mem_append_left _ (List.mem_reverse.2 (List.mem_of_head? hfirst))
  rw [opensAttribute, hreverse]
  change ((name.reverse ++ front.reverse).takeWhile isNameChar).any _ = true
  rw [htake, List.any_eq_true]
  exact ⟨c, hmem, by simpa using hletter⟩

/-- A name, `=` and a quote at the end are all that opens an attribute value. -/
theorem opensAttribute_iff {t : Text} :
    opensAttribute t = true ↔
      ∃ front name, IsAttributeName name ∧ t = front ++ (name ++ ['=', '"']) := by
  refine ⟨fun h => ?_, ?_⟩
  · unfold opensAttribute at h
    split at h
    · rename_i rest hreverse
      obtain ⟨c, hc, hletter⟩ := List.any_eq_true.1 h
      obtain ⟨as, bs, htake⟩ := List.append_of_mem hc
      have hchars : ∀ d ∈ as ++ c :: bs, isNameChar d = true :=
        fun d hd => List.mem_takeWhile_imp (htake ▸ hd)
      -- The name begins with the letter that was found and goes up to the `=`.
      refine ⟨(bs ++ rest.dropWhile isNameChar).reverse, c :: as.reverse,
        ⟨⟨c, rfl, by simpa using hletter⟩, fun d hd => hchars d ?_⟩, ?_⟩
      · rcases List.mem_cons.1 hd with rfl | hd
        · exact List.mem_append_right _ List.mem_cons_self
        · exact List.mem_append_left _ (List.mem_reverse.1 hd)
      · have hrest : as ++ c :: bs ++ rest.dropWhile isNameChar = rest := by
          rw [← htake, List.takeWhile_append_dropWhile]
        have ht : t = rest.reverse ++ ['=', '"'] := by
          rw [← List.reverse_reverse t, hreverse]
          simp
        rw [ht]
        nth_rewrite 1 [← hrest]
        simp
    · cases h
  · rintro ⟨front, name, hname, rfl⟩
    exact opensAttribute_name hname front

theorem not_opensAttribute_value (hne : left ≠ []) (hvalue : '"' ∉ left) (front : Text) :
    opensAttribute (front ++ left) = false := by
  rw [Bool.eq_false_iff]
  intro hopens
  obtain ⟨t, ht⟩ := exists_of_opensAttribute hopens
  have hlast : left.getLast? = some '"' := by
    rw [← List.getLast?_append_of_ne_nil front hne, ht, List.getLast?_concat]
  exact hvalue (List.mem_of_getLast? hlast)

theorem InsideValue.cut? (h : InsideValue line needle front name left right back) :
    Text.cut? needle line =
      some (front ++ (name ++ '=' :: '"' :: left), right ++ '"' :: back) := by
  refine Text.cut?_eq_some_iff.2 ⟨?_, h.leftmost⟩
  rw [h.shape]
  simp

/-- A string that is part of an attribute value is kept if it is at the start of the value, and
replaced between the quotes if it is in the middle or at the end. -/
theorem insideValue_substitution (h : InsideValue line needle front name left right back)
    (call : Text) :
    substitute? line needle call =
      if left = [] then none
      else some (front ++ (name ++ '=' :: '"' ::
        (left ++ braced call ++ right ++ '"' :: back))) := by
  have hvalue := h.unquoted
  rw [List.mem_append, List.mem_append, not_or, not_or] at hvalue
  obtain ⟨⟨hleft, -⟩, hright⟩ := hvalue
  rw [substitute?, h.cut?]
  by_cases hstart : left = []
  · subst hstart
    -- The rest of the value is not empty and holds no quote, so none follows the needle.
    obtain ⟨c, cs, rfl⟩ := List.exists_cons_of_ne_nil h.part
    have hquote : c ≠ '"' := fun hc => hright (hc ▸ List.mem_cons_self)
    simp [opensAttribute_name h.named, hquote]
  · have hopens : opensAttribute (front ++ (name ++ '=' :: '"' :: left)) = false := by
      have hbehind := not_opensAttribute_value hstart hleft (front ++ (name ++ ['=', '"']))
      simpa using hbehind
    simp [hopens, hstart]

def button (value : String) : Text := "<Button label=\"".toList ++ value.toList ++ "\" />".toList

theorem insideValue_button {value left right : String}
    (hvalue : '"' ∉ left.toList ++ "Click me".toList ++ right.toList)
    (hpart : left.toList ++ right.toList ≠ [])
    (hcut : Text.cut? "Click me".toList (button value) =
      some ("<Button ".toList ++ ("label".toList ++ '=' :: '"' :: left.toList),
        right.toList ++ '"' :: " />".toList)) :
    InsideValue (button value) "Click me".toList "<Button ".toList "label".toList left.toList
      right.toList " />".toList := by
  obtain ⟨heq, hleftmost⟩ := Text.cut?_eq_some_iff.1 hcut
  have hnamed : IsAttributeName "label".toList := ⟨⟨'l', rfl, .inl rfl⟩, List.all_eq_true.1 rfl⟩
  exact ⟨by rw [heq]; simp, hnamed, hvalue, hleftmost, hpart⟩

theorem insideValue_substitution_button :
    InsideValue (button "Click me now") "Click me".toList "<Button ".toList "label".toList
        "".toList " now".toList " />".toList ∧
      substitute? (button "Click me now") "Click me".toList "t(\"a\")".toList = none := by
  have hinside : InsideValue (button "Click me now") "Click me".toList "<Button ".toList
      "label".toList "".toList " now".toList " />".toList :=
    insideValue_button (by decide) (by decide) (by decide)
  exact ⟨hinside, insideValue_substitution hinside _⟩

/-- A part in the middle of a value and one at its end are replaced. -/
theorem value_part_replaced :
    InsideValue (button "Please Click me now") "Click me".toList "<Button ".toList "label".toList
        "Please ".toList " now".toList " />".toList ∧
      substitute? (button "Please Click me now") "Click me".toList "t(\"a\")".toList =
        some (button "Please \x7bt(\"a\")\x7d now") ∧
      InsideValue (button "Please Click me") "Click me".toList "<Button ".toList "label".toList
        "Please ".toList "".toList " />".toList ∧
      substitute? (button "Please Click me") "Click me".toList "t(\"a\")".toList =
        some (button "Please \x7bt(\"a\")\x7d") :=
  ⟨insideValue_button (by decide) (by decide) (by decide), by decide,
    insideValue_button (by decide) (by decide) (by decide), by decide⟩

end Localize.Replacement

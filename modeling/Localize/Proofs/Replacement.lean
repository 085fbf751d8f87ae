import Localize.Proofs.Text
import Localize.Replacement

/-! What a replacement does to the buffer: a needle on its claimed line is found there, a call takes
its place on the line that is found, and only that line is set. The call tells its key. -/

namespace Localize
namespace Replacement

def Holds (lines : Buffer) (needle : Text) (i : Nat) : Prop :=
  ∃ line, lines[i]? = some line ∧ needle <:+: line

theorem Holds.lt_length {lines : Buffer} {needle : Text} {i : Nat} (h : Holds lines needle i) :
    i < lines.length := by
  obtain ⟨line, hline, -⟩ := h
  exact (List.getElem?_eq_some_iff.1 hline).1

theorem hit?_eq_some {lines : Buffer} {needle : Text} {number i : Nat} :
    hit? lines needle number = some i ↔ number = i + 1 ∧ Holds lines needle i := by
  unfold hit?
  by_cases h0 : number = 0
  · rw [if_pos h0]
    simp [h0]
  · rw [if_neg h0, Option.bind_eq_some_iff]
    constructor
    · rintro ⟨line, hline, hi⟩
      split at hi
      · rename_i hin
        cases hi
        exact ⟨by omega, line, hline, Text.includes_iff.1 hin⟩
      · cases hi
    · rintro ⟨rfl, line, hline, hin⟩
      exact ⟨line, hline, by rw [if_pos (Text.includes_iff.2 hin)]; rfl⟩

theorem locate?_of_claimed {lines : Buffer} {needle line : Text} {claimed radius : Nat}
    (hne : needle ≠ []) (hclaimed : claimed ≠ 0) (hline : lines[claimed - 1]? = some line)
    (hin : needle <:+: line) : locate? lines claimed needle radius = some (claimed - 1) := by
  have hhit : hit? lines needle claimed = some (claimed - 1) :=
    hit?_eq_some.2 ⟨by omega, line, hline, hin⟩
  rw [locate?, if_neg hne, hhit]
  rfl

/-- A call takes the place of the needle where it is cut out, and of the quotes around it too where
the needle is a whole attribute value. -/
theorem cut?_of_substitute? {line needle call result : Text}
    (h : substitute? line needle call = some result) :
    ∃ before after, Text.cut? needle line = some (before, after) ∧
      (opensAttribute before = false ∧ result = before ++ braced call ++ after ∨
        opensAttribute before = true ∧
          ∃ rest, after = '"' :: rest ∧ result = before.dropLast ++ braced call ++ rest) := by
  unfold substitute? at h
  split at h
  · cases h
  · rename_i before after hcut
    refine ⟨before, after, hcut, ?_⟩
    split at h
    · rename_i hopens
      split at h
      · exact .inr ⟨hopens, _, rfl, (Option.some.inj h).symm⟩
      · cases h
    · rename_i hopens
      exact .inl ⟨Bool.eq_false_iff.2 hopens, (Option.some.inj h).symm⟩

theorem exists_of_opensAttribute {t : Text}
    (h : opensAttribute t = true) : ∃ name, t = name ++ ['"'] := by
  unfold opensAttribute at h
  split at h
  · rename_i rest heq
    refine ⟨rest.reverse ++ ['='], ?_⟩
    rw [← List.reverse_reverse t, heq]
    simp
  · cases h

theorem escapeKey_cons (c : Char) (key : Text) :
    escapeKey (c :: key) =
      (if c = '\\' ∨ c = '"' then ['\\', c] else [c]) ++ escapeKey key := by
  simp [escapeKey]

theorem escapeKey_injective {key key' : Text} (h : escapeKey key = escapeKey key') :
    key = key' := by
  induction key generalizing key' with
  | nil =>
    cases key' with
    | nil => rfl
    | cons d key' => rw [escapeKey_cons] at h; split at h <;> cases h
  | cons c key ih =>
    cases key' with
    | nil => rw [escapeKey_cons] at h; split at h <;> cases h
    | cons d key' =>
      rw [escapeKey_cons, escapeKey_cons] at h
      by_cases hc : c = '\\' ∨ c = '"'
      · by_cases hd : d = '\\' ∨ d = '"'
        · rw [if_pos hc, if_pos hd] at h
          simp only [List.cons_append, List.nil_append, List.cons.injEq, true_and] at h
          rw [h.1, ih h.2]
        · rw [if_pos hc, if_neg hd] at h
          exact absurd (.inl (List.cons.inj h).1.symm) hd
      · by_cases hd : d = '\\' ∨ d = '"'
        · rw [if_neg hc, if_pos hd] at h
          exact absurd (.inl (List.cons.inj h).1) hc
        · rw [if_neg hc, if_neg hd] at h
          simp only [List.cons_append, List.nil_append, List.cons.injEq] at h
          rw [h.1, ih h.2]

theorem call_injective {translateFn key key' : Text}
    (h : call translateFn key = call translateFn key') : key = key' := by
  have hquoted := List.append_cancel_left (List.append_cancel_right h)
  simp only [List.cons.injEq, true_and] at hquoted
  exact escapeKey_injective hquoted

end Replacement

namespace Replacer

theorem replace?_eq_some {r : Replacer} {lines final : Buffer} {claimed : Nat} {needle key : Text}
    {done : Replacement} :
    r.replace? lines claimed needle key = some (done, final) ↔
      Replacement.locate? lines claimed needle r.searchRadius = some done.lineIndex ∧
      lines[done.lineIndex]? = some done.before ∧
      Replacement.substitute? done.before needle (r.call key) = some done.after ∧
      final = lines.set done.lineIndex done.after := by
  unfold replace?
  simp only [bind, Option.bind_eq_some_iff, Option.some.injEq, Prod.mk.injEq]
  constructor
  · rintro ⟨index, hindex, before, hbefore, after, hafter, rfl, rfl⟩
    exact ⟨hindex, hbefore, hafter, rfl⟩
  · rintro ⟨hindex, hbefore, hafter, rfl⟩
    exact ⟨_, hindex, _, hbefore, _, hafter, rfl, rfl⟩

theorem replace?_of_locate? {r : Replacer} {lines : Buffer} {claimed i : Nat} {needle line : Text}
    (key : Text) (hlocated : Replacement.locate? lines claimed needle r.searchRadius = some i)
    (hline : lines[i]? = some line) :
    r.replace? lines claimed needle key =
      (Replacement.substitute? line needle (r.call key)).map fun after =>
        (⟨i, line, after⟩, lines.set i after) := by
  rw [replace?, hlocated]
  simp only [bind, Option.bind_some, hline]
  cases Replacement.substitute? line needle (r.call key) <;> rfl

end Replacer
end Localize

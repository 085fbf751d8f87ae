import Localize.Proofs.NearestLine
import Localize.Run

/-! Settling the issues of one file: each issue comes out once, as a skipped string or as a recorded
replacement, and the records alone give the buffer. -/

namespace Localize

def Outcome.issue : Outcome → Issue
  | .applied a => a.issue
  | .skipped s => s.issue

/-- The records, taken in order, turn one buffer into the other: each names a line that is there as
it says and holds its string, and sets that line to the line with the call of its key. -/
inductive Replay (r : Replacer) : Buffer → List Applied → Buffer → Prop
  | done (lines : Buffer) : Replay r lines [] lines
  | step {lines final : Buffer} {a : Applied} {as : List Applied}
      (line : lines[a.replacement.lineIndex]? = some a.replacement.before)
      (nonempty : a.issue.string ≠ [])
      (holds : a.issue.string <:+: a.replacement.before)
      (after : Replacement.substitute? a.replacement.before a.issue.string (r.call a.key) =
        some a.replacement.after)
      (rest : Replay r (lines.set a.replacement.lineIndex a.replacement.after) as final) :
      Replay r lines (a :: as) final

namespace Replay

variable {r : Replacer} {lines final : Buffer} {as : List Applied}

theorem length_eq (h : Replay r lines as final) : final.length = lines.length := by
  induction h with
  | done => rfl
  | step _ _ _ _ _ ih => rw [ih, List.length_set]

theorem getElem?_eq (h : Replay r lines as final) {i : Nat}
    (hi : ∀ a ∈ as, a.replacement.lineIndex ≠ i) : final[i]? = lines[i]? := by
  induction h with
  | done => rfl
  | step _ _ _ _ _ ih =>
    rw [ih fun a ha => hi a (List.mem_cons_of_mem _ ha)]
    exact List.getElem?_set_ne (hi _ List.mem_cons_self)

end Replay

namespace Localizer

variable {p : Localizer}

theorem settle_cases (p : Localizer) (lines : Buffer) (issue : Issue) :
    (p.dictionary.lookup issue.string = none ∧
      p.settle lines issue = (.skipped ⟨issue, .noKey⟩, lines)) ∨
    ∃ key, p.dictionary.lookup issue.string = some key ∧
      (p.replacer.replace? lines issue.line issue.string key = none ∧
        p.settle lines issue = (.skipped ⟨issue, .notFound⟩, lines) ∨
      ∃ done final, p.replacer.replace? lines issue.line issue.string key = some (done, final) ∧
        p.settle lines issue = (.applied ⟨issue, key, done⟩, final)) := by
  unfold settle
  cases hkey : p.dictionary.lookup issue.string with
  | none => exact .inl ⟨rfl, rfl⟩
  | some key =>
    refine .inr ⟨key, rfl, ?_⟩
    cases hr : p.replacer.replace? lines issue.line issue.string key with
    | none => exact .inl ⟨rfl, by simp only [hr]⟩
    | some result => exact .inr ⟨result.1, result.2, rfl, by simp only [hr]⟩

theorem settleAll_cons (p : Localizer) (lines : Buffer) (issue : Issue) (issues : List Issue) :
    p.settleAll lines (issue :: issues) =
      ((p.settle lines issue).1 :: (p.settleAll (p.settle lines issue).2 issues).1,
        (p.settleAll (p.settle lines issue).2 issues).2) := rfl

theorem settle_issue (p : Localizer) (lines : Buffer) (issue : Issue) :
    (p.settle lines issue).1.issue = issue := by
  rcases p.settle_cases lines issue with ⟨-, h⟩ | ⟨key, -, ⟨-, h⟩ | ⟨done, final, -, h⟩⟩ <;>
    rw [h] <;> rfl

/-- Every issue comes out once, in the order in which it was handled. -/
theorem settleAll_issues (p : Localizer) (lines : Buffer) (issues : List Issue) :
    (p.settleAll lines issues).1.map Outcome.issue = issues := by
  induction issues generalizing lines with
  | nil => rfl
  | cons issue issues ih => rw [settleAll_cons, List.map_cons, settle_issue, ih]

/-- A string is replaced under its key, has no key, or has one and was not found. -/
def Accounts (p : Localizer) : Outcome → Prop
  | .applied a => p.dictionary.lookup a.issue.string = some a.key
  | .skipped s =>
    (s.reason = .noKey ∧ p.dictionary.lookup s.issue.string = none) ∨
      (s.reason = .notFound ∧ ∃ key, p.dictionary.lookup s.issue.string = some key)

theorem settle_accounts (p : Localizer) (lines : Buffer) (issue : Issue) :
    p.Accounts (p.settle lines issue).1 := by
  rcases p.settle_cases lines issue with ⟨hkey, h⟩ | ⟨key, hkey, ⟨-, h⟩ | ⟨done, final, -, h⟩⟩
  · rw [h]; exact .inl ⟨rfl, hkey⟩
  · rw [h]; exact .inr ⟨rfl, key, hkey⟩
  · rw [h]; exact hkey

theorem settleAll_accounts (p : Localizer) (lines : Buffer) (issues : List Issue) :
    ∀ o ∈ (p.settleAll lines issues).1, p.Accounts o := by
  induction issues generalizing lines with
  | nil => intro o ho; cases ho
  | cons issue issues ih =>
    intro o ho
    rw [settleAll_cons] at ho
    rcases List.mem_cons.1 ho with rfl | ho
    · exact p.settle_accounts lines issue
    · exact ih _ o ho

/-- The recorded replacements are an exact log of what became of the buffer. -/
theorem replay_settleAll (p : Localizer) (lines : Buffer) (issues : List Issue) :
    Replay p.replacer lines ((p.settleAll lines issues).1.filterMap Outcome.applied?)
      (p.settleAll lines issues).2 := by
  induction issues generalizing lines with
  | nil => exact .done lines
  | cons issue issues ih =>
    rw [settleAll_cons]
    rcases p.settle_cases lines issue with ⟨-, h⟩ | ⟨key, -, ⟨-, h⟩ | ⟨done, final, hr, h⟩⟩
    · rw [h]; exact ih lines
    · rw [h]; exact ih lines
    · rw [h]
      obtain ⟨hlocate, hbefore, hafter, rfl⟩ := Replacer.replace?_eq_some.1 hr
      obtain ⟨hne, line, hline, hin⟩ := Replacement.holds_of_locate? hlocate
      have hsame : line = done.before := Option.some.inj (hline.symm.trans hbefore)
      exact .step hbefore hne (hsame ▸ hin) hafter (ih _)

end Localizer
end Localize

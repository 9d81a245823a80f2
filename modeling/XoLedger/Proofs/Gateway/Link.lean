import Mathlib.Tactic.Lemma
import XoLedger.Gateway.Basic

/-!
# Which batch a link asks about

A link asks about a batch if it is a URL whose first pair with the name `id` has a value that is not
empty. That value is the identifier, whatever other pairs there are.
-/

namespace XoLedger

/-- Some pairs tell an identifier: one of them has the name `id`, and the first that has it has the
identifier for its value. -/
def TellId (pairs : List (String × String)) (batchId : String) : Prop :=
  ∃ before after, pairs = before ++ ("id", batchId) :: after ∧ ∀ pair ∈ before, pair.1 ≠ "id"

/-- A link asks about a batch. -/
def AsksAbout (link batchId : String) : Prop :=
  batchId ≠ "" ∧ ∃ url, Url.parse link = .ok url ∧ TellId url.queryPairs batchId

lemma tellId_iff {pairs : List (String × String)} {batchId : String} :
    TellId pairs batchId ↔ pairs.find? (·.1 = "id") = some ("id", batchId) := by
  rw [List.find?_eq_some_iff_append]
  simp [TellId]

/-- A batch is read off exactly those links that ask about it. -/
theorem batchIdOfLink_eq_ok_iff {link batchId : String} :
    batchIdOfLink link = .ok batchId ↔ AsksAbout link batchId := by
  unfold batchIdOfLink AsksAbout
  cases hparse : Url.parse link with
  | error cause => simp
  | ok url =>
    simp only [Except.ok.injEq, exists_eq_left', tellId_iff]
    cases hfind : url.queryPairs.find? (·.1 = "id") with
    | none => simp
    | some pair =>
      obtain ⟨name, value⟩ := pair
      obtain rfl : name = "id" := by simpa using List.find?_some hfind
      by_cases hempty : value = ""
      · simp +contextual [hempty, eq_comm]
      · simp only [if_neg hempty, Except.ok.injEq, Option.some.injEq, Prod.mk.injEq, true_and]
        constructor
        · rintro rfl
          exact ⟨hempty, rfl⟩
        · rintro ⟨-, rfl⟩
          rfl

end XoLedger

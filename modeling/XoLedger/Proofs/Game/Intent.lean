import Mathlib.Tactic.Lemma
import XoLedger.Game.Intent
import XoLedger.Proofs.Outcome

/-!
# Which intents have a payload

The words for actions and the digits of a cell hold no comma, so only the name of a game can be
refused.
-/

namespace XoLedger

namespace Intent

/-- The word for an intent holds no comma. -/
lemma comma_not_mem_name (intent : Intent) : ',' ∉ intent.name.toList := by
  cases intent with
  | create => decide
  | take space =>
    rw [name]
    decide

/-- What is written for the argument of an intent. -/
def argument (intent : Intent) : String :=
  intent.argument?.getD Payload.missingArgument

/-- What is written for the argument of an intent holds no comma. -/
lemma comma_not_mem_argument (intent : Intent) : ',' ∉ intent.argument.toList := by
  cases intent with
  | create => decide
  | take space =>
    intro hmem
    have hrepr : (take space).argument.toList = Nat.toDigits 10 space.toNat := by
      rw [argument, argument?, Option.getD_some, Nat.toString_eq_repr, Nat.toList_repr]
    rw [hrepr] at hmem
    exact absurd (Nat.isDigit_of_mem_toDigits (by decide) (by decide) hmem) (by decide)

end Intent

namespace Payload

/-- A name without a comma has a payload for every intent. -/
theorem ofIntent_of_comma_not_mem {gameName : String} (h : ',' ∉ gameName.toList)
    (intent : Intent) :
    ofIntent gameName intent =
      .ok (Utf8.encode (gameName ++ "," ++ intent.name ++ "," ++ intent.argument)) := by
  have hargument := intent.comma_not_mem_argument
  rw [Intent.argument] at hargument ⊢
  rw [ofIntent, encode, text, refuseComma, if_neg h, refuseComma,
    if_neg intent.comma_not_mem_name]
  simp only [Except.ok_bind]
  rw [refuseComma, if_neg hargument]
  rfl

/-- A name with a comma is refused before anything else is looked at. -/
theorem ofIntent_of_comma_mem {gameName : String} (h : ',' ∈ gameName.toList) (intent : Intent) :
    ofIntent gameName intent = .error ⟨.gameName, gameName⟩ := by
  rw [ofIntent, encode, text, refuseComma, if_pos h]
  rfl

end Payload

end XoLedger

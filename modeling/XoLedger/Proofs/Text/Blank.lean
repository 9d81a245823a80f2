import Mathlib.Data.List.DropRight
import Mathlib.Tactic.Lemma
import XoLedger.Text.Blank

/-!
# Trimming

What trimming leaves alone: a text in which no white space occurs, whatever white space stands
around it. And what it takes away is white space.
-/

namespace XoLedger

/-- Nothing is dropped from the end of a list in which nothing has the property. -/
lemma dropEndWhile_of_forall_not {p : Char → Bool} {cs : List Char} (h : ∀ c ∈ cs, p c = false) :
    dropEndWhile p cs = cs := by
  have hrev : cs.reverse.dropWhile p = cs.reverse := by
    cases hcs : cs.reverse with
    | nil => rfl
    | cons c rest =>
      have hc : c ∈ cs := List.mem_reverse.mp (hcs ▸ List.mem_cons_self)
      rw [List.dropWhile_cons_of_neg (by rw [h c hc]; decide)]
  rw [dropEndWhile, hrev, List.reverse_reverse]

/-- What is dropped from the end once is gone for good. -/
lemma dropEndWhile_dropEndWhile (p : Char → Bool) (cs : List Char) :
    dropEndWhile p (dropEndWhile p cs) = dropEndWhile p cs := by
  rw [dropEndWhile, dropEndWhile, List.reverse_reverse, List.dropWhile_idempotent]

/-- Nothing is trimmed off a list of characters without white space. -/
lemma trimChars_of_forall_not_isBlank {cs : List Char} (h : ∀ c ∈ cs, isBlank c = false) :
    trimChars cs = cs := by
  have hfront : cs.dropWhile isBlank = cs := by
    cases cs with
    | nil => rfl
    | cons c rest =>
      rw [List.dropWhile_cons_of_neg (by rw [h c List.mem_cons_self]; decide)]
  rw [trimChars, hfront, dropEndWhile_of_forall_not h]

/-- White space around a list of characters without any is trimmed off. -/
lemma trimChars_append {front cs back : List Char} (hfront : ∀ c ∈ front, isBlank c = true)
    (hcs : ∀ c ∈ cs, isBlank c = false) (hback : ∀ c ∈ back, isBlank c = true) (hne : cs ≠ []) :
    trimChars (front ++ cs ++ back) = cs := by
  have hstop : ∀ {tail : List Char}, (cs ++ tail).dropWhile isBlank = cs ++ tail := fun {tail} => by
    cases cs with
    | nil => exact absurd rfl hne
    | cons c rest =>
      rw [List.cons_append, List.dropWhile_cons_of_neg (by rw [hcs c List.mem_cons_self]; decide)]
  have hend : dropEndWhile isBlank (cs ++ back) = dropEndWhile isBlank cs := by
    rw [dropEndWhile, List.reverse_append,
      List.dropWhile_append_of_pos fun c hc => hback c (List.mem_reverse.mp hc), dropEndWhile]
  rw [trimChars, List.append_assoc, List.dropWhile_append_of_pos hfront, hstop, hend,
    dropEndWhile_of_forall_not hcs]

/-- What is trimmed off is white space. -/
lemma exists_trimChars (cs : List Char) : ∃ front back, cs = front ++ trimChars cs ++ back ∧
    (∀ c ∈ front, isBlank c = true) ∧ ∀ c ∈ back, isBlank c = true := by
  refine ⟨cs.takeWhile isBlank, ((cs.dropWhile isBlank).reverse.takeWhile isBlank).reverse, ?_,
    fun c hc => List.mem_takeWhile_imp hc,
    fun c hc => List.mem_takeWhile_imp (List.mem_reverse.mp hc)⟩
  rw [trimChars, dropEndWhile, List.append_assoc, ← List.reverse_append,
    List.takeWhile_append_dropWhile, List.reverse_reverse, List.takeWhile_append_dropWhile]

end XoLedger

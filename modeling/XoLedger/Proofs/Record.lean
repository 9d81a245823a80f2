import Mathlib.Algebra.Ring.Nat
import Mathlib.Tactic.Lemma
import XoLedger.Game.Record
import XoLedger.Projection
import XoLedger.Proofs.Bytes.Base64
import XoLedger.Proofs.Outcome
import XoLedger.Proofs.Text.Blank
import XoLedger.Proofs.Text.Split
import XoLedger.Proofs.Text.Utf8

/-!
# Records are read as they were written

A game whose texts hold no comma can be stored and read back, and whatever is read was stored that
way: up to white space around it a record has one spelling. A comma in a text makes more fields
than five, so a record written from such a game is refused and cannot be mistaken for another one.

The three layers of a record, Base64, UTF-8 and the cut at the commas, each accept exactly what
they write; `decode_iff_trim_eq_encode` puts them together.
-/

namespace XoLedger

/-- No text of the game holds the character between the fields of a record. -/
def Game.IsCommaFree (g : Game) : Prop :=
  ',' ∉ g.name.toList ∧ ',' ∉ g.board.toList ∧ ',' ∉ g.player1.toList ∧ ',' ∉ g.player2.toList

instance (g : Game) : Decidable g.IsCommaFree :=
  inferInstanceAs (Decidable (_ ∧ _))

namespace Record

/-! ### Phases -/

/-- The word of a phase is read as that phase. -/
lemma ofWire?_wire (phase : Phase) : Phase.ofWire? phase.wire = some phase := by
  cases phase <;> rfl

/-- Words are read as the phases that they are written for. -/
lemma readPhase_eq_ok_iff {word : String} {phase : Phase} :
    readPhase word = .ok phase ↔ word = phase.wire := by
  constructor
  · intro h
    rw [readPhase] at h
    cases hword : Phase.ofWire? word with
    | none => simp [hword] at h
    | some found =>
      simp only [hword, Except.ok.injEq] at h
      subst h
      have hfound := List.find?_some hword
      exact (of_decide_eq_true hfound).symm
  · rintro rfl
    rw [readPhase, ofWire?_wire]

/-- No word for a phase holds a comma. -/
lemma separator_notMem_wire (phase : Phase) : separator ∉ phase.wire.toList := by
  cases phase <;> decide

/-! ### Fields -/

/-- The five fields of a record. -/
def fields (g : Game) : List String :=
  [g.name, g.board, g.phase.wire, g.player1, g.player2]

/-- Fields without a separator are texts without one. -/
lemma isCommaFree_iff_fields (g : Game) :
    g.IsCommaFree ↔ ∀ field ∈ fields g, separator ∉ field.toList := by
  have hwire := separator_notMem_wire g.phase
  simp only [Game.IsCommaFree, fields, List.forall_mem_cons, separator] at hwire ⊢
  constructor
  · rintro ⟨hname, hboard, h₁, h₂⟩
    exact ⟨hname, hboard, hwire, h₁, h₂, by simp⟩
  · rintro ⟨hname, hboard, -, h₁, h₂, -⟩
    exact ⟨hname, hboard, h₁, h₂⟩

/-- A text is read as the game that it is the text of, unless a comma is in the way. -/
lemma ofText_eq_ok_iff {text : String} {g : Game} :
    ofText text = .ok g ↔ text = textOf g ∧ g.IsCommaFree := by
  have hne : fields g ≠ [] := List.cons_ne_nil _ _
  rw [isCommaFree_iff_fields, textOf, ← fields, ← split_eq_iff hne]
  constructor
  · intro h
    rw [ofText] at h
    split at h
    · next name board word player1 player2 hsplit =>
      obtain ⟨phase, hphase, rfl⟩ := Except.map_eq_ok_iff.mp h
      rw [hsplit, readPhase_eq_ok_iff.mp hphase]
      rfl
    · cases h
  · intro h
    rw [ofText, h, fields]
    dsimp only
    rw [readPhase_eq_ok_iff.mpr rfl]
    rfl

/-- The number of separators in joined parts: those of the parts and one less than there are
parts. -/
lemma count_joinChars (sep : Char) (parts : List (List Char)) :
    (joinChars sep parts).count sep = (parts.map (List.count sep)).sum + (parts.length - 1) := by
  induction parts with
  | nil => rfl
  | cons part parts ih =>
    cases parts with
    | nil => simp [joinChars]
    | cons p ps =>
      rw [joinChars, List.count_append, List.count_cons_self, ih]
      · simp only [List.map_cons, List.sum_cons, List.length_cons]
        omega
      · simp

/-- Whether a game has commas can be seen from its text. -/
lemma isCommaFree_iff_count (g : Game) :
    g.IsCommaFree ↔ (textOf g).toList.count separator = 4 := by
  rw [isCommaFree_iff_fields, textOf, ← fields, join, String.toList_ofList, count_joinChars]
  simp [fields, List.count_eq_zero]

/-! ### Stored values -/

/-- A symbol is no white space. -/
lemma isBlank_symbol : ∀ {v : Nat}, v < 64 → isBlank (Base64.symbol v) = false := by
  decide

/-- Nothing in Base64 is white space. -/
lemma isBlank_of_mem_encodeChars {b : Bytes} {c : Char} (h : c ∈ Base64.encodeChars b) :
    isBlank c = false := by
  rcases Base64.eq_of_mem_encodeChars h with rfl | ⟨v, hv, rfl⟩
  · decide
  · exact isBlank_symbol hv

/-- Nothing is trimmed off a stored value. -/
lemma trim_encode (g : Game) : trim (encode g) = encode g := by
  rw [trim, encode, Base64.encode, String.toList_ofList,
    trimChars_of_forall_not_isBlank fun c hc => isBlank_of_mem_encodeChars hc]

/-- Stored values are equal only when the texts in them are. -/
lemma textOf_eq_of_encode_eq {g g' : Game} (h : encode g = encode g') : textOf g = textOf g' := by
  have hoctets : Base64.decode (encode g) = .ok (Utf8.encode (textOf g')) :=
    Base64.decode_eq_ok_iff.mpr h
  rw [encode, Base64.decode_eq_ok_iff.mpr rfl, Except.ok.injEq] at hoctets
  exact Utf8.encode_injective hoctets

/-- A stored value is read as the game it was written for, unless a comma is in the way. -/
lemma decode_eq_ok_iff {value : String} {g : Game} :
    decode value = .ok g ↔ trim value = encode g ∧ g.IsCommaFree := by
  rw [decode]
  simp only [Except.bind_eq_ok_iff, Except.mapError_eq_ok_iff, Base64.decode_eq_ok_iff,
    Utf8.decode_eq_ok_iff, ofText_eq_ok_iff]
  constructor
  · rintro ⟨octets, hvalue, text, rfl, rfl, hfree⟩
    exact ⟨hvalue, hfree⟩
  · rintro ⟨hvalue, hfree⟩
    exact ⟨_, hvalue, _, rfl, rfl, hfree⟩

/-- What was stored is read back, from games without commas and from no others. -/
lemma decode_encode_iff {g g' : Game} :
    decode (encode g) = .ok g' ↔ g' = g ∧ g.IsCommaFree := by
  rw [decode_eq_ok_iff, trim_encode]
  constructor
  · rintro ⟨h, hfree'⟩
    have htext := textOf_eq_of_encode_eq h
    have hfree : g.IsCommaFree := by
      rw [isCommaFree_iff_count, htext, ← isCommaFree_iff_count]
      exact hfree'
    have hg := ofText_eq_ok_iff.mpr ⟨rfl, hfree⟩
    rw [htext, ofText_eq_ok_iff.mpr ⟨rfl, hfree'⟩, Except.ok.injEq] at hg
    exact ⟨hg, hfree⟩
  · rintro ⟨rfl, hfree⟩
    exact ⟨rfl, hfree⟩

/-- **Storing and reading are inverse to each other.** A value is read as a game exactly when it is,
white space around it aside, what is stored for that game, and the game has no commas. So a game
without commas comes back as it was, a game with one comes back as no game at all, and every value
that is not read is a fault of the record itself. -/
theorem decode_iff_trim_eq_encode :
    (∀ (value : String) (g : Game),
      decode value = .ok g ↔ trim value = encode g ∧ g.IsCommaFree) ∧
    (∀ g g' : Game, decode (encode g) = .ok g' ↔ g' = g ∧ g.IsCommaFree) ∧
    (∀ value : String, (∃ g, decode value = .ok g) ∨
      ∃ e reason, decode value = .error e ∧ e.toFault = .malformedState reason) := by
  refine ⟨fun _ _ => decode_eq_ok_iff, fun _ _ => decode_encode_iff, fun value => ?_⟩
  cases h : decode value with
  | ok g => exact .inl ⟨g, rfl⟩
  | error e => exact .inr ⟨e, e.message, rfl, rfl⟩

end Record

end XoLedger

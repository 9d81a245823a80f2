import XoLedger.Proofs.Game.Intent
import XoLedger.Proofs.Text.Split
import XoLedger.Proofs.Text.Utf8

/-!
# What a payload says

The parts of a payload are not escaped; they are looked at before they are joined. So what is
accepted can be cut into the parts it was made of. Only one thing is lost: a missing argument is
written as a word, and the word may be given as well. No intent has that word for an argument, and
the digits of a cell tell which one it is, so a payload says what is intended and with which game.
-/

namespace XoLedger

namespace Intent

/-- An intent is known by its word and its argument. -/
lemma eq_of_name_eq {intent intent' : Intent} (hname : intent.name = intent'.name)
    (hargument : intent.argument = intent'.argument) : intent = intent' := by
  cases intent with
  | create =>
    cases intent' with
    | create => rfl
    | take space => exact absurd hname (by rw [name, name]; decide)
  | take space =>
    cases intent' with
    | create => exact absurd hname (by rw [name, name]; decide)
    | take space' =>
      have hdigits : Nat.toDigits 10 space.toNat = Nat.toDigits 10 space'.toNat := by
        have htext := congrArg String.toList hargument
        simpa [argument, argument?, Nat.toString_eq_ofList_toDigits] using htext
      have hnumber : space.toNat = space'.toNat := by
        calc space.toNat
            = Nat.ofDigitChars 10 (Nat.toDigits 10 space.toNat) 0 :=
              Nat.ofDigitChars_ten_toDigits.symm
          _ = Nat.ofDigitChars 10 (Nat.toDigits 10 space'.toNat) 0 := by rw [hdigits]
          _ = space'.toNat := Nat.ofDigitChars_ten_toDigits
      rw [UInt8.toNat_inj.mp hnumber]

end Intent

namespace Payload

variable {gameName action : String} {argument : Option String} {octets : Bytes}

/-- Three texts with commas between them. -/
lemma join_fields (a b c : String) : join ',' [a, b, c] = a ++ "," ++ b ++ "," ++ c := by
  refine String.toList_inj.mp ?_
  simp [join, joinChars]

/-- Three fields without commas are found again. -/
lemma split_fields {a b c : String} (ha : ',' ∉ a.toList) (hb : ',' ∉ b.toList)
    (hc : ',' ∉ c.toList) : split ',' (a ++ "," ++ b ++ "," ++ c) = [a, b, c] := by
  rw [split_eq_iff (List.cons_ne_nil _ _), join_fields]
  exact ⟨rfl, by simp [ha, hb, hc]⟩

lemma refuseComma_eq_ok_iff {part : Part} {value : String} {u : Unit} :
    refuseComma part value = .ok u ↔ ',' ∉ value.toList := by
  rw [refuseComma]
  split <;> simp [*]

/-- Parts are accepted when none holds a comma, and then they are written one after the other. -/
lemma encode_eq_ok_iff :
    encode gameName action argument = .ok octets ↔
      (',' ∉ gameName.toList ∧ ',' ∉ action.toList ∧
        ',' ∉ (argument.getD missingArgument).toList) ∧
      octets = Utf8.encode
        (gameName ++ "," ++ action ++ "," ++ argument.getD missingArgument) := by
  simp only [encode, text, Except.map_eq_ok_iff, Except.bind_eq_ok_iff, refuseComma_eq_ok_iff,
    pure, Except.pure, Except.ok.injEq]
  constructor
  · rintro ⟨_, ⟨-, hname, -, haction, -, hargument, rfl⟩, rfl⟩
    exact ⟨⟨hname, haction, hargument⟩, rfl⟩
  · rintro ⟨⟨hname, haction, hargument⟩, rfl⟩
    exact ⟨_, ⟨(), hname, (), haction, (), hargument, rfl⟩, rfl⟩

/-- The word for a missing argument holds no comma. -/
lemma comma_notMem_getD_iff :
    ',' ∉ (argument.getD missingArgument).toList ↔ ∀ given ∈ argument, ',' ∉ given.toList := by
  cases argument with
  | none => exact iff_of_true (by decide) (fun given h => by cases h)
  | some given => simp

/-- The parts of a payload are what it is cut into. -/
lemma encode_eq_ok_iff_split :
    encode gameName action argument = .ok octets ↔
      ∃ text, Utf8.decode octets = .ok text ∧
        split ',' text = [gameName, action, argument.getD missingArgument] := by
  simp only [encode_eq_ok_iff, Utf8.decode_eq_ok_iff, split_eq_iff (List.cons_ne_nil _ _),
    join_fields]
  constructor
  · rintro ⟨hcommas, rfl⟩
    exact ⟨_, rfl, rfl, by simpa using hcommas⟩
  · rintro ⟨_, rfl, rfl, hcommas⟩
    exact ⟨by simpa using hcommas, rfl⟩

/-- Accepted parts have one payload only if they are the same, a missing argument read as the word
that stands for it. -/
lemma octets_eq_iff {gameName' action' : String} {argument' : Option String} {octets' : Bytes}
    (h : encode gameName action argument = .ok octets)
    (h' : encode gameName' action' argument' = .ok octets') :
    octets = octets' ↔ gameName = gameName' ∧ action = action' ∧
      argument.getD missingArgument = argument'.getD missingArgument := by
  constructor
  · rintro rfl
    obtain ⟨text, htext, hsplit⟩ := encode_eq_ok_iff_split.mp h
    obtain ⟨text', htext', hsplit'⟩ := encode_eq_ok_iff_split.mp h'
    rw [htext, Except.ok.injEq] at htext'
    subst htext'
    rw [hsplit] at hsplit'
    simpa using hsplit'
  · rintro ⟨rfl, rfl, hargument⟩
    rw [(encode_eq_ok_iff.mp h).2, (encode_eq_ok_iff.mp h').2, hargument]

/-- **A payload says what it was made of.** Parts are accepted exactly if none that is given holds a
comma, and what is accepted is cut at its commas into these parts, the word for a missing argument
in its place. So two payloads are the same only if their parts are, up to that word; and the
payloads of two intents are the same only if the intents and the names of the games are. -/
theorem encode_unambiguous :
    (∀ gameName action argument,
      (∃ octets, encode gameName action argument = .ok octets) ↔
        ',' ∉ gameName.toList ∧ ',' ∉ action.toList ∧ ∀ given ∈ argument, ',' ∉ given.toList) ∧
    (∀ gameName action argument octets,
      encode gameName action argument = .ok octets ↔
        ∃ text, Utf8.decode octets = .ok text ∧
          split ',' text = [gameName, action, argument.getD missingArgument]) ∧
    (∀ gameName action argument octets gameName' action' argument' octets',
      encode gameName action argument = .ok octets →
      encode gameName' action' argument' = .ok octets' →
        (octets = octets' ↔ gameName = gameName' ∧ action = action' ∧
          argument.getD missingArgument = argument'.getD missingArgument)) ∧
    ∀ gameName gameName' intent intent' octets,
      ofIntent gameName intent = .ok octets → ofIntent gameName' intent' = .ok octets →
        gameName = gameName' ∧ intent = intent' := by
  refine ⟨fun gameName action argument => ?_, fun _ _ _ _ => encode_eq_ok_iff_split,
    fun _ _ _ _ _ _ _ _ h h' => octets_eq_iff h h', ?_⟩
  · simp only [encode_eq_ok_iff, comma_notMem_getD_iff]
    constructor
    · rintro ⟨octets, hcommas, -⟩
      exact hcommas
    · intro hcommas
      exact ⟨_, hcommas, rfl⟩
  · intro gameName gameName' intent intent' octets h h'
    obtain ⟨hgame, hname, hargument⟩ := (octets_eq_iff h h').mp rfl
    exact ⟨hgame, Intent.eq_of_name_eq hname hargument⟩

/-- A missing argument and the word for it have one payload; of all intents with all games, only
opening the game without a name has it. -/
theorem encode_unambiguous_null :
    (∃ octets, encode "" "create" none = .ok octets ∧
      encode "" "create" (some "null") = .ok octets) ∧
    ∀ gameName intent, ofIntent gameName intent = encode "" "create" none →
      gameName = "" ∧ intent = .create := by
  obtain ⟨octets, hnone⟩ := (encode_unambiguous.1 "" "create" none).mpr (by decide)
  refine ⟨⟨octets, hnone, hnone⟩, fun gameName intent h => ?_⟩
  exact encode_unambiguous.2.2.2 gameName "" intent .create octets (h.trans hnone) hnone

end Payload

end XoLedger

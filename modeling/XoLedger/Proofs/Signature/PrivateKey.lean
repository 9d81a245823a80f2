import XoLedger.Proofs.Bytes.Digits
import XoLedger.Proofs.Text.Blank
import XoLedger.Signature.Key

/-!
# Private keys and their spellings

A private key is written as 64 digits. White space around them, a mark before them and capitals
among them are allowed when it is read and are dropped when it is written. So a text is read as a
key exactly if the key's own digits are, in lowercase, what is left of the text; and two texts are
spellings of one key exactly if they differ in white space, mark and case only
(`parse_eq_ok_iff_spells`).
-/

namespace XoLedger.PrivateKey

open Hex

/-- A text that consists of 64 digits of a number between zero and the order of the curve, with
white space around them and a mark before them allowed. -/
structure Spells (text : String) (ds : List Char) : Prop where
  /-- What may stand around the digits. -/
  layout : ∃ front mark back, text.toList = front ++ (mark ++ ds) ++ back ∧
    (∀ c ∈ front, isBlank c = true) ∧ (mark = [] ∨ mark = ['0', 'x']) ∧
      ∀ c ∈ back, isBlank c = true
  /-- The number of digits. -/
  length_eq : ds.length = 64
  /-- Their case does not matter. -/
  isDigit : ∀ c ∈ ds, IsDigit c
  /-- The number has an inverse to the order. -/
  inRange : 0 < valueOf ds ∧ valueOf ds < Curve.order

/-! ### What is left of a text -/

/-- Digits are no white space. -/
lemma isBlank_of_isDigit {c : Char} (h : IsDigit c) : isBlank c = false := by
  have hall : ∀ n < 128, IsDigit (Char.ofNat n) → isBlank (Char.ofNat n) = false := by
    decide +kernel
  have hc := hall c.toNat h.toNat_lt
  rw [Char.ofNat_toNat] at hc
  exact hc h

/-- Digits do not begin with a mark. -/
lemma withoutMark_of_isDigit {ds : List Char} (h : ∀ c ∈ ds, IsDigit c) : withoutMark ds = ds := by
  unfold withoutMark
  split
  · exact absurd (h 'x' (List.mem_cons_of_mem _ List.mem_cons_self)) (by decide)
  · rfl

/-- What is dropped from the front of a text is a mark or nothing. -/
lemma exists_mark (cs : List Char) : ∃ mark, cs = mark ++ withoutMark cs ∧
    (mark = [] ∨ mark = ['0', 'x']) := by
  unfold withoutMark
  split
  · exact ⟨['0', 'x'], rfl, .inr rfl⟩
  · exact ⟨[], rfl, .inl rfl⟩

/-- The digits are what is left of a text that consists of them. -/
lemma Spells.withoutMark_eq {text : String} {ds : List Char} (h : Spells text ds) :
    withoutMark (trimChars text.toList) = ds := by
  obtain ⟨front, mark, back, htext, hfront, hmark, hback⟩ := h.layout
  have hne : ds ≠ [] := by
    rw [← List.length_pos_iff, h.length_eq]
    decide
  have hblank : ∀ c ∈ mark ++ ds, isBlank c = false := by
    intro c hc
    rcases List.mem_append.mp hc with hc | hc
    · have hall : ∀ d ∈ ['0', 'x'], isBlank d = false :=
        List.forall_iff_forall_mem.mp (by decide)
      rcases hmark with rfl | rfl
      · exact absurd hc List.not_mem_nil
      · exact hall c hc
    · exact isBlank_of_isDigit (h.isDigit c hc)
  rw [htext, trimChars_append hfront hblank hback (List.append_ne_nil_of_right_ne_nil mark hne)]
  rcases hmark with rfl | rfl
  · exact withoutMark_of_isDigit h.isDigit
  · rfl

/-- What is left of a text makes it consist of that, if it is a number with an inverse. -/
lemma spells_of_withoutMark {text : String} {ds : List Char}
    (hleft : withoutMark (trimChars text.toList) = ds) (hlength : ds.length = 64)
    (hdigit : ∀ c ∈ ds, IsDigit c) (hrange : 0 < valueOf ds ∧ valueOf ds < Curve.order) :
    Spells text ds := by
  obtain ⟨front, back, htext, hfront, hback⟩ := exists_trimChars text.toList
  obtain ⟨mark, hmarked, hmark⟩ := exists_mark (trimChars text.toList)
  rw [hleft] at hmarked
  exact ⟨⟨front, mark, back, hmarked ▸ htext, hfront, hmark, hback⟩, hlength, hdigit, hrange⟩

/-! ### Reading -/

/-- The digits of a key are those of its number. -/
lemma toList_hex (key : PrivateKey) : key.hex.toList = encodeChars (Bytes.ofNat 32 key.secret) := by
  rw [hex, Hex.encode, String.toList_ofList, toBytes]

/-- Keys with the same number are the same. -/
lemma eq_of_secret_eq {key key' : PrivateKey} (h : key.secret = key'.secret) : key = key' := by
  cases key
  cases key'
  cases h
  rfl

/-- A key is read from the octets of its number. -/
lemma ofBytes?_eq_some_iff {b : Bytes} {key : PrivateKey} :
    ofBytes? b = some key ↔ b.toNat = key.secret := by
  rw [ofBytes?]
  constructor
  · intro h
    split at h
    · exact (congrArg secret (Option.some.inj h))
    · exact absurd h (by simp)
  · intro h
    rw [dif_pos ⟨h ▸ key.secret_pos, h ▸ key.secret_lt⟩, Option.some.injEq]
    exact eq_of_secret_eq h

/-- Octets whose digits are a number's are worth the number. -/
lemma toNat_of_encodeChars {b : Bytes} {ds : List Char} (hdigit : ∀ c ∈ ds, IsDigit c)
    (h : encodeChars b = ds.map Char.toLower) : b.toNat = valueOf ds := by
  rw [← valueOf_encodeChars, h, valueOf_map_toLower hdigit]

/-- A text is read as the key whose number its digits stand for. -/
lemma parse_eq_ok_iff {text : String} {key : PrivateKey} :
    parse text = .ok key ↔ ∃ ds, Spells text ds ∧ valueOf ds = key.secret := by
  constructor
  · intro h
    rw [parse] at h
    cases hdecode : decodeBytes (Utf8.encodeChars (withoutMark (trimChars text.toList))) with
    | error cause => simp [hdecode] at h
    | ok b =>
      obtain ⟨hdigit, hlower⟩ := decodeBytes_eq_ok_iff.mp hdecode
      have hvalue := toNat_of_encodeChars hdigit hlower
      simp only [hdecode] at h
      by_cases hsize : b.length = 32
      · rw [if_neg (not_not.mpr hsize)] at h
        cases hkey : ofBytes? b with
        | none => simp [hkey] at h
        | some key' =>
          simp only [hkey, Except.ok.injEq] at h
          subst h
          have hsecret := ofBytes?_eq_some_iff.mp hkey
          rw [hvalue] at hsecret
          have hlength : (withoutMark (trimChars text.toList)).length = 64 := by
            rw [← List.length_map Char.toLower, ← hlower, length_encodeChars, hsize]
          exact ⟨_, spells_of_withoutMark rfl hlength hdigit
            (hsecret ▸ ⟨key'.secret_pos, key'.secret_lt⟩), hsecret⟩
      · rw [if_pos hsize] at h
        exact absurd h (by simp)
  · rintro ⟨ds, hspells, hvalue⟩
    have hlower := encodeChars_ofNat_valueOf (n := 32) hspells.length_eq hspells.isDigit
    have hkey : ofBytes? (Bytes.ofNat 32 (valueOf ds)) = some key :=
      ofBytes?_eq_some_iff.mpr ((toNat_of_encodeChars hspells.isDigit hlower).trans hvalue)
    rw [parse, hspells.withoutMark_eq, decodeBytes_eq_ok_iff.mpr ⟨hspells.isDigit, hlower⟩]
    simp only
    rw [if_neg (not_not.mpr (Bytes.length_ofNat 32 _)), hkey]

/-! ### Writing -/

/-- The digits of the number that a text stands for are the digits of its key. -/
lemma Spells.toList_hex {text : String} {ds : List Char} (h : Spells text ds) {key : PrivateKey}
    (hvalue : valueOf ds = key.secret) : key.hex.toList = ds.map Char.toLower := by
  rw [PrivateKey.toList_hex, ← hvalue, encodeChars_ofNat_valueOf h.length_eq h.isDigit]

/-- A key is worth its number. -/
lemma valueOf_hex (key : PrivateKey) : valueOf key.hex.toList = key.secret := by
  have hwidth : Curve.order ≤ 256 ^ 32 := by decide +kernel
  rw [toList_hex, valueOf_encodeChars, Bytes.toNat_ofNat (key.secret_lt.trans_le hwidth)]

/-- A text is read as the key whose digits are its own in lowercase. -/
lemma parse_eq_ok_iff_hex {text : String} {key : PrivateKey} :
    parse text = .ok key ↔ ∃ ds, Spells text ds ∧ key.hex.toList = ds.map Char.toLower := by
  rw [parse_eq_ok_iff]
  refine exists_congr fun ds => and_congr_right fun hspells => ⟨hspells.toList_hex, fun h => ?_⟩
  rw [← valueOf_hex, h, valueOf_map_toLower hspells.isDigit]

/-- What is written for a key consists of its digits. -/
lemma spells_hex (key : PrivateKey) : Spells key.hex key.hex.toList where
  layout := ⟨[], [], [], by simp, by simp, .inl rfl, by simp⟩
  length_eq := by rw [toList_hex, length_encodeChars, Bytes.length_ofNat]
  isDigit c hc := isDigit_of_mem (mem_digits_of_mem_encodeChars (key.toList_hex ▸ hc))
  inRange := by
    rw [valueOf_hex]
    exact ⟨key.secret_pos, key.secret_lt⟩

/-- Reading undoes writing. -/
lemma parse_hex (key : PrivateKey) : parse key.hex = .ok key :=
  parse_eq_ok_iff.mpr ⟨_, key.spells_hex, key.valueOf_hex⟩

/-! ### Texts that are refused -/

/-- What is wrong with what is left of a text, by the error that is reported. -/
def Error.IsFor (left : List Char) : Error → Prop
  | .notHex _ => left.length % 2 = 1 ∨ ∃ c ∈ left, ¬IsDigit c
  | .badSize size => (∀ c ∈ left, IsDigit c) ∧ left.length = 2 * size ∧ size ≠ 32
  | .outOfRange =>
    (∀ c ∈ left, IsDigit c) ∧ left.length = 64 ∧ (valueOf left = 0 ∨ Curve.order ≤ valueOf left)

/-- A text is read, or it is refused for what is wrong with it. -/
lemma parse_cases (text : String) : (∃ key, parse text = .ok key) ∨
    ∃ cause, parse text = .error cause ∧ cause.IsFor (withoutMark (trimChars text.toList)) := by
  rw [parse]
  cases hdecode : decodeBytes (Utf8.encodeChars (withoutMark (trimChars text.toList))) with
  | error cause =>
    refine .inr ⟨.notHex cause, rfl, ?_⟩
    by_contra hgood
    rw [Error.IsFor, not_or, not_exists] at hgood
    obtain ⟨b, hb⟩ := exists_decodeBytes_iff.mpr
      ⟨by omega, fun c hc => not_not.mp (not_and.mp (hgood.2 c) hc)⟩
    rw [hdecode] at hb
    exact absurd hb (by simp)
  | ok b =>
    obtain ⟨hdigit, hlower⟩ := decodeBytes_eq_ok_iff.mp hdecode
    have hvalue := toNat_of_encodeChars hdigit hlower
    have hlength : (withoutMark (trimChars text.toList)).length = 2 * b.length := by
      rw [← List.length_map Char.toLower, ← hlower, length_encodeChars]
    simp only
    by_cases hsize : b.length = 32
    · rw [if_neg (not_not.mpr hsize), ofBytes?]
      by_cases hrange : 0 < b.toNat ∧ b.toNat < Curve.order
      · rw [dif_pos hrange]
        exact .inl ⟨_, rfl⟩
      · rw [dif_neg hrange]
        rw [hvalue] at hrange
        exact .inr ⟨.outOfRange, rfl, hdigit, by omega, by omega⟩
    · rw [if_pos hsize]
      exact .inr ⟨.badSize b.length, rfl, hdigit, hlength, hsize⟩

/-! ### The theorem -/

/-- **Which texts are keys, and which keys they are.** A text is a key exactly if it consists of 64
digits of a number between zero and the order, white space around them and one mark before them
aside. The key is then written as these digits in lowercase, and read back from them. Every other
text is refused for what is wrong with its digits. So two texts are the same key exactly if their
digits agree up to case. -/
theorem parse_eq_ok_iff_spells :
    (∀ text : String, (∃ key, parse text = .ok key) ↔ ∃ ds, Spells text ds) ∧
    (∀ (text : String) (key : PrivateKey), parse text = .ok key ↔
      ∃ ds, Spells text ds ∧ key.hex.toList = ds.map Char.toLower) ∧
    (∀ key : PrivateKey, parse key.hex = .ok key) ∧
    (∀ text : String, (∃ key, parse text = .ok key) ∨
      ∃ cause, parse text = .error cause ∧
        cause.IsFor (withoutMark (trimChars text.toList))) ∧
    ∀ text text' : String, (∃ key, parse text = .ok key ∧ parse text' = .ok key) ↔
      ∃ ds ds', Spells text ds ∧ Spells text' ds' ∧
        ds.map Char.toLower = ds'.map Char.toLower := by
  have hread : ∀ {text : String} {ds : List Char}, Spells text ds →
      ∃ key, parse text = .ok key ∧ key.hex.toList = ds.map Char.toLower := fun {text ds} h => by
    have hkey : parse text = .ok ⟨valueOf ds, h.inRange.1, h.inRange.2⟩ :=
      parse_eq_ok_iff.mpr ⟨ds, h, rfl⟩
    exact ⟨_, hkey, h.toList_hex rfl⟩
  refine ⟨fun text => ⟨?_, ?_⟩, fun text key => parse_eq_ok_iff_hex, parse_hex, parse_cases,
    fun text text' => ⟨?_, ?_⟩⟩
  · rintro ⟨key, hkey⟩
    obtain ⟨ds, hspells, -⟩ := parse_eq_ok_iff.mp hkey
    exact ⟨ds, hspells⟩
  · rintro ⟨ds, hspells⟩
    obtain ⟨key, hkey, -⟩ := hread hspells
    exact ⟨key, hkey⟩
  · rintro ⟨key, hkey, hkey'⟩
    obtain ⟨ds, hspells, hlower⟩ := parse_eq_ok_iff_hex.mp hkey
    obtain ⟨ds', hspells', hlower'⟩ := parse_eq_ok_iff_hex.mp hkey'
    exact ⟨ds, ds', hspells, hspells', hlower.symm.trans hlower'⟩
  · rintro ⟨ds, ds', hspells, hspells', hlower⟩
    obtain ⟨key, hkey, hhex⟩ := hread hspells
    exact ⟨key, hkey, parse_eq_ok_iff_hex.mpr ⟨ds', hspells', hhex.trans hlower⟩⟩

end XoLedger.PrivateKey

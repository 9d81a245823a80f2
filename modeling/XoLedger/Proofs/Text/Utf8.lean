import Mathlib.Tactic.Lemma
import Mathlib.Tactic.SplitIfs
import XoLedger.Proofs.Outcome
import XoLedger.Text.Utf8

/-!
# UTF-8 is read back as it was written

Writing and reading are inverse to each other: the octets of a text are read as that text, and
octets that are read as a text are the octets of that text. The second half is what shuts out
overlong forms and surrogates, so that no text has a second spelling.

The reader is taken one character at a time. `decodeFrom_encodeChar` reads a character that was
written, `decodeFrom_cons` says what a successful reading must have begun with; both inductions
over texts use nothing else about octets.
-/

namespace XoLedger.Utf8

/-! ### Scalar values -/

/-- The scalar values: no surrogates, nothing past the last one. -/
lemma toNat_scalar (c : Char) : c.toNat < 0xD800 ∨ (0xDFFF < c.toNat ∧ c.toNat < 0x110000) :=
  c.valid

/-- A scalar value is the number of its character. -/
lemma toNat_ofNat_scalar {n : Nat} (h : n < 0xD800 ∨ (0xDFFF < n ∧ n < 0x110000)) :
    (Char.ofNat n).toNat = n := by
  have hn : n.isValidChar := h
  rw [Char.ofNat, dif_pos hn]
  rfl

/-- An octet whose number is known. -/
lemma toNat_ofNat_octet {n : Nat} (h : n < 256) : (UInt8.ofNat n).toNat = n := by
  rw [UInt8.toNat_ofNat']
  exact Nat.mod_eq_of_lt h

/-- An octet is the octet of its number. -/
lemma ofNat_toNat_octet {n : Nat} {b : UInt8} (h : b.toNat = n) : UInt8.ofNat n = b := by
  rw [← h]
  exact UInt8.ofNat_toNat

/-! ### Reading inside a character -/

/-- What a reading that succeeds must go on with while one octet is owed. -/
lemma decodeInside_one {pos low high value seen : Nat} {b : Bytes} {cs : List Char}
    (h : decodeInside pos ⟨1, low, high, value, seen⟩ b = .ok cs) :
    ∃ x rest tail, b = x :: rest ∧ low ≤ x.toNat ∧ x.toNat ≤ high ∧
      cs = Char.ofNat (64 * value + x.toNat % 64) :: tail ∧
      decodeFrom (pos + seen + 1) rest = .ok tail := by
  cases b with
  | nil => simp [decodeInside] at h
  | cons x rest =>
    simp only [decodeInside, follow, Nat.le_refl, if_true] at h
    by_cases hx : low ≤ x.toNat ∧ x.toNat ≤ high
    · rw [if_pos hx] at h
      cases ht : decodeFrom (pos + seen + 1) rest with
      | error e => simp [ht, Except.map] at h
      | ok tail =>
        simp only [ht, Except.map, Except.ok.injEq] at h
        exact ⟨x, rest, tail, rfl, hx.1, hx.2, h.symm, ht⟩
    · simp [hx] at h

/-- What a reading that succeeds must go on with while more than one octet is owed. -/
lemma decodeInside_more {pos owed low high value seen : Nat} {b : Bytes} {cs : List Char}
    (h : decodeInside pos ⟨owed + 2, low, high, value, seen⟩ b = .ok cs) :
    ∃ x rest, b = x :: rest ∧ low ≤ x.toNat ∧ x.toNat ≤ high ∧
      decodeInside pos ⟨owed + 1, 0x80, 0xBF, 64 * value + x.toNat % 64, seen + 1⟩ rest
        = .ok cs := by
  cases b with
  | nil => simp [decodeInside] at h
  | cons x rest =>
    have howed : ¬ owed + 2 ≤ 1 := by omega
    simp only [decodeInside, follow, if_neg howed] at h
    by_cases hx : low ≤ x.toNat ∧ x.toNat ≤ high
    · rw [if_pos hx] at h
      exact ⟨x, rest, rfl, hx.1, hx.2, h⟩
    · simp [hx] at h

/-- An octet that completes a character. -/
lemma decodeInside_last {pos low high value seen x : Nat} (rest : Bytes)
    (hlow : low ≤ x) (hhigh : x ≤ high) (hx : x < 256) :
    decodeInside pos ⟨1, low, high, value, seen⟩ (UInt8.ofNat x :: rest)
      = (decodeFrom (pos + seen + 1) rest).map (Char.ofNat (64 * value + x % 64) :: ·) := by
  simp only [decodeInside, follow, toNat_ofNat_octet hx, Nat.le_refl, if_true]
  rw [if_pos ⟨hlow, hhigh⟩]

/-- An octet after which more are owed. -/
lemma decodeInside_next {pos owed low high value seen x : Nat} (rest : Bytes)
    (hlow : low ≤ x) (hhigh : x ≤ high) (hx : x < 256) :
    decodeInside pos ⟨owed + 2, low, high, value, seen⟩ (UInt8.ofNat x :: rest)
      = decodeInside pos ⟨owed + 1, 0x80, 0xBF, 64 * value + x % 64, seen + 1⟩ rest := by
  have howed : ¬ owed + 2 ≤ 1 := by omega
  simp only [decodeInside, follow, toNat_ofNat_octet hx, if_neg howed]
  rw [if_pos ⟨hlow, hhigh⟩]
  rfl

/-! ### Reading what was written -/

/-- The bounds that a leading octet sets for the second octet of a character of three octets. -/
lemma lead_three {n : Nat} (h : 0x800 ≤ n) (h' : n < 0x10000)
    (hs : n < 0xD800 ∨ 0xDFFF < n) :
    ∃ low high, lead (0xE0 + n / 4096) = .multi ⟨2, low, high, n / 4096, 1⟩ ∧
      low ≤ 0x80 + n / 64 % 64 ∧ 0x80 + n / 64 % 64 ≤ high := by
  unfold lead
  by_cases h0 : n / 4096 = 0
  · refine ⟨0xA0, 0xBF, ?_, by omega, by omega⟩
    rw [h0]
    rfl
  by_cases h13 : n / 4096 = 13
  · refine ⟨0x80, 0x9F, ?_, by omega, by omega⟩
    rw [h13]
    rfl
  · refine ⟨0x80, 0xBF, ?_, by omega, by omega⟩
    rw [if_neg (by omega), if_neg (by omega), if_neg (by omega), if_neg (by omega),
      if_neg (by omega), if_pos (by omega), Nat.add_sub_cancel_left]

/-- The bounds that a leading octet sets for the second octet of a character of four octets. -/
lemma lead_four {n : Nat} (h : 0x10000 ≤ n) (h' : n < 0x110000) :
    ∃ low high, lead (0xF0 + n / 262144) = .multi ⟨3, low, high, n / 262144, 1⟩ ∧
      low ≤ 0x80 + n / 4096 % 64 ∧ 0x80 + n / 4096 % 64 ≤ high := by
  unfold lead
  by_cases h0 : n / 262144 = 0
  · refine ⟨0x90, 0xBF, ?_, by omega, by omega⟩
    rw [h0]
    rfl
  by_cases h4 : n / 262144 = 4
  · refine ⟨0x80, 0x8F, ?_, by omega, by omega⟩
    rw [h4]
    rfl
  · refine ⟨0x80, 0xBF, ?_, by omega, by omega⟩
    rw [if_neg (by omega), if_neg (by omega), if_neg (by omega), if_neg (by omega),
      if_neg (by omega), if_neg (by omega), if_neg (by omega), if_pos (by omega),
      Nat.add_sub_cancel_left]

/-- A character that was written is read, and reading goes on behind it. -/
lemma decodeFrom_encodeChar (pos : Nat) (c : Char) (rest : Bytes) :
    decodeFrom pos (encodeChar c ++ rest)
      = (decodeFrom (pos + (encodeChar c).length) rest).map (c :: ·) := by
  have hc := toNat_scalar c
  have hof := Char.ofNat_toNat c
  unfold encodeChar
  dsimp only
  generalize c.toNat = n at hc hof
  split_ifs with h₁ h₂ h₃
  · have hlead : lead n = .single c := by
      rw [← hof]
      simp [lead, h₁]
    simp only [List.cons_append, List.nil_append, decodeFrom, List.length_cons, List.length_nil]
    rw [toNat_ofNat_octet (by omega), hlead]
  · have hlead : lead (0xC0 + n / 64) = .multi ⟨1, 0x80, 0xBF, n / 64, 1⟩ := by
      rw [lead, if_neg (by omega), if_neg (by omega), if_pos (by omega), Nat.add_sub_cancel_left]
    simp only [List.cons_append, List.nil_append, decodeFrom, List.length_cons, List.length_nil]
    rw [toNat_ofNat_octet (by omega), hlead]
    dsimp only
    rw [decodeInside_last rest (by omega) (by omega) (by omega),
      show 64 * (n / 64) + (0x80 + n % 64) % 64 = n by omega, hof]
  · obtain ⟨low, high, hlead, hlow, hhigh⟩ := lead_three (by omega) h₃ (by omega)
    simp only [List.cons_append, List.nil_append, decodeFrom, List.length_cons, List.length_nil]
    rw [toNat_ofNat_octet (by omega), hlead]
    dsimp only
    rw [decodeInside_next _ hlow hhigh (by omega),
      decodeInside_last rest (by omega) (by omega) (by omega),
      show 64 * (64 * (n / 4096) + (0x80 + n / 64 % 64) % 64) + (0x80 + n % 64) % 64 = n by omega,
      hof]
  · obtain ⟨low, high, hlead, hlow, hhigh⟩ := lead_four (n := n) (by omega) (by omega)
    simp only [List.cons_append, List.nil_append, decodeFrom, List.length_cons, List.length_nil]
    rw [toNat_ofNat_octet (by omega), hlead]
    dsimp only
    rw [decodeInside_next _ hlow hhigh (by omega),
      decodeInside_next _ (by omega) (by omega) (by omega),
      decodeInside_last rest (by omega) (by omega) (by omega),
      show 64 * (64 * (64 * (n / 262144) + (0x80 + n / 4096 % 64) % 64)
        + (0x80 + n / 64 % 64) % 64) + (0x80 + n % 64) % 64 = n by omega,
      hof]

/-- A text that was written is read. The positions only serve the error messages. -/
lemma decodeFrom_encodeChars (pos : Nat) (cs : List Char) :
    decodeFrom pos (encodeChars cs) = .ok cs := by
  induction cs generalizing pos with
  | nil => rfl
  | cons c cs ih =>
    rw [encodeChars, List.flatMap_cons, decodeFrom_encodeChar]
    rw [← encodeChars, ih]
    rfl

/-- Reading undoes writing. -/
theorem decode_encode (s : String) : decode (encode s) = .ok s := by
  rw [decode, decodeChars, encode, decodeFrom_encodeChars]
  simp [Except.map]

/-- Different texts have different octets. -/
theorem encode_injective {s t : String} (h : encode s = encode t) : s = t := by
  have hs := decode_encode s
  rw [h, decode_encode] at hs
  exact (Except.ok.inj hs).symm

/-! ### What is read was written -/

/-- What a leading octet of a longer character says: its own bits, and bounds for the second octet
that leave exactly the scalar values of that length. -/
lemma lead_multi {b : Nat} {p : Pending} (h : lead b = .multi p) :
    (∃ value, p = ⟨1, 0x80, 0xBF, value, 1⟩ ∧ b = 0xC0 + value ∧ 2 ≤ value ∧ value < 32) ∨
    (∃ low high value, p = ⟨2, low, high, value, 1⟩ ∧ b = 0xE0 + value ∧ value < 16 ∧
      0x80 ≤ low ∧ high ≤ 0xBF ∧ (value = 0 → 0xA0 ≤ low) ∧ (value = 13 → high ≤ 0x9F)) ∨
    (∃ low high value, p = ⟨3, low, high, value, 1⟩ ∧ b = 0xF0 + value ∧ value < 5 ∧
      0x80 ≤ low ∧ high ≤ 0xBF ∧ (value = 0 → 0x90 ≤ low) ∧ (value = 4 → high ≤ 0x8F)) := by
  unfold lead at h
  split_ifs at h with h₁ h₂ h₃ h₄ h₅ h₆ h₇ h₈ h₉ <;> cases h
  · exact .inl ⟨_, rfl, by omega, by omega, by omega⟩
  · exact .inr (.inl ⟨_, _, _, rfl, by omega⟩)
  · exact .inr (.inl ⟨_, _, _, rfl, by omega⟩)
  · exact .inr (.inl ⟨_, _, _, rfl, by omega⟩)
  · exact .inr (.inr ⟨_, _, _, rfl, by omega⟩)
  · exact .inr (.inr ⟨_, _, _, rfl, by omega⟩)
  · exact .inr (.inr ⟨_, _, _, rfl, by omega⟩)

/-- An octet that stands for a character by itself. -/
lemma lead_single {b : Nat} {c : Char} (h : lead b = .single c) : b < 0x80 ∧ c = Char.ofNat b := by
  unfold lead at h
  split_ifs at h with h₁
  cases h
  exact ⟨h₁, rfl⟩

/-- A reading that succeeds has begun with the octets of its first character. -/
lemma decodeFrom_cons {pos : Nat} {b : UInt8} {rest : Bytes} {cs : List Char}
    (h : decodeFrom pos (b :: rest) = .ok cs) :
    ∃ c tail rest' pos', b :: rest = encodeChar c ++ rest' ∧ cs = c :: tail ∧
      decodeFrom pos' rest' = .ok tail := by
  rw [decodeFrom] at h
  cases hlead : lead b.toNat with
  | refused => simp [hlead] at h
  | single c =>
    obtain ⟨hb, rfl⟩ := lead_single hlead
    rw [hlead] at h
    cases ht : decodeFrom (pos + 1) rest with
    | error e => simp [ht, Except.map] at h
    | ok tail =>
      simp only [ht, Except.map, Except.ok.injEq] at h
      refine ⟨_, tail, rest, _, ?_, h.symm, ht⟩
      simp only [encodeChar, toNat_ofNat_scalar (.inl (show b.toNat < 0xD800 by omega)), if_pos hb]
      rw [UInt8.ofNat_toNat]
      rfl
  | multi p =>
    rw [hlead] at h
    dsimp only at h
    rcases lead_multi hlead with ⟨v, rfl, hb, hv⟩ | ⟨low, high, v, rfl, hb, hv⟩ |
      ⟨low, high, v, rfl, hb, hv⟩
    · obtain ⟨x, rest', tail, rfl, hx, hx', rfl, ht⟩ := decodeInside_one h
      refine ⟨_, tail, rest', _, ?_, rfl, ht⟩
      unfold encodeChar
      rw [toNat_ofNat_scalar (by omega)]
      dsimp only
      rw [if_neg (by omega), if_pos (by omega), ofNat_toNat_octet (show b.toNat = _ by omega),
        ofNat_toNat_octet (show x.toNat = _ by omega)]
      rfl
    · obtain ⟨x, rest₁, rfl, hx, hx', h₁⟩ := decodeInside_more h
      obtain ⟨y, rest', tail, rfl, hy, hy', rfl, ht⟩ := decodeInside_one h₁
      refine ⟨_, tail, rest', _, ?_, rfl, ht⟩
      unfold encodeChar
      rw [toNat_ofNat_scalar (by omega)]
      dsimp only
      rw [if_neg (by omega), if_neg (by omega), if_pos (by omega),
        ofNat_toNat_octet (show b.toNat = _ by omega),
        ofNat_toNat_octet (show x.toNat = _ by omega),
        ofNat_toNat_octet (show y.toNat = _ by omega)]
      rfl
    · obtain ⟨x, rest₁, rfl, hx, hx', h₁⟩ := decodeInside_more h
      obtain ⟨y, rest₂, rfl, hy, hy', h₂⟩ := decodeInside_more h₁
      obtain ⟨z, rest', tail, rfl, hz, hz', rfl, ht⟩ := decodeInside_one h₂
      refine ⟨_, tail, rest', _, ?_, rfl, ht⟩
      unfold encodeChar
      rw [toNat_ofNat_scalar (by omega)]
      dsimp only
      rw [if_neg (by omega), if_neg (by omega), if_neg (by omega),
        ofNat_toNat_octet (show b.toNat = _ by omega),
        ofNat_toNat_octet (show x.toNat = _ by omega),
        ofNat_toNat_octet (show y.toNat = _ by omega),
        ofNat_toNat_octet (show z.toNat = _ by omega)]
      rfl

/-- Octets that are read are the octets of the characters they are read as. The induction is on
the characters: each takes away the octets it was read from. -/
lemma eq_encodeChars_of_decodeFrom {pos : Nat} {b : Bytes} {cs : List Char}
    (h : decodeFrom pos b = .ok cs) : b = encodeChars cs := by
  induction cs generalizing pos b with
  | nil =>
    cases b with
    | nil => rfl
    | cons x rest =>
      obtain ⟨_, _, _, _, _, hcs, _⟩ := decodeFrom_cons h
      cases hcs
  | cons c cs ih =>
    cases b with
    | nil => simp [decodeFrom] at h
    | cons x rest =>
      obtain ⟨c', tail, rest', pos', hb, hcs, ht⟩ := decodeFrom_cons h
      cases hcs
      rw [hb, ih ht]
      rfl

/-- Writing undoes reading. -/
theorem eq_encode_of_decode {b : Bytes} {s : String} (h : decode b = .ok s) : b = encode s := by
  rw [decode, decodeChars] at h
  cases hcs : decodeFrom 0 b with
  | error e => simp [hcs, Except.map] at h
  | ok cs =>
    simp only [hcs, Except.map, Except.ok.injEq] at h
    rw [← h, encode, String.toList_ofList]
    exact eq_encodeChars_of_decodeFrom hcs

/-- Octets are read as a text exactly when they are its octets. -/
theorem decode_eq_ok_iff {b : Bytes} {s : String} : decode b = .ok s ↔ b = encode s := by
  constructor
  · exact eq_encode_of_decode
  · rintro rfl
    exact decode_encode s

/-! ### Texts one after another -/

lemma encodeChars_cons (c : Char) (cs : List Char) :
    encodeChars (c :: cs) = encodeChar c ++ encodeChars cs :=
  List.flatMap_cons

lemma encodeChars_append (cs ds : List Char) :
    encodeChars (cs ++ ds) = encodeChars cs ++ encodeChars ds :=
  List.flatMap_append

/-! ### Lengths -/

/-- A character takes four octets at most. -/
lemma length_encodeChar_le (c : Char) : (encodeChar c).length ≤ 4 := by
  unfold encodeChar
  dsimp only
  split_ifs <;> simp only [List.length_cons, List.length_nil] <;> omega

/-- A character takes one octet at least. -/
lemma encodeChar_ne_nil (c : Char) : encodeChar c ≠ [] := by
  unfold encodeChar
  dsimp only
  split_ifs <;> exact List.cons_ne_nil _ _

/-- A text takes four octets at most for each of its characters. -/
lemma length_encode_le (s : String) : (encode s).length ≤ 4 * s.toList.length := by
  rw [encode, encodeChars]
  induction s.toList with
  | nil => exact Nat.le_refl 0
  | cons c cs ih =>
    have hc := length_encodeChar_le c
    rw [List.flatMap_cons, List.length_append, List.length_cons]
    omega

/-! ### Single octets -/

/-- The octets of a character beyond ASCII are all beyond ASCII. -/
lemma le_of_mem_encodeChar {c : Char} (hc : 128 ≤ c.toNat) {b : UInt8}
    (hb : b ∈ encodeChar c) : 128 ≤ b.toNat := by
  have hscalar := toNat_scalar c
  unfold encodeChar at hb
  dsimp only at hb
  rw [if_neg (by omega)] at hb
  split_ifs at hb with h₁ h₂
  all_goals simp only [List.mem_cons, List.not_mem_nil, or_false] at hb
  · rcases hb with rfl | rfl <;>
      · rw [toNat_ofNat_octet (by omega)]
        omega
  · rcases hb with rfl | rfl | rfl <;>
      · rw [toNat_ofNat_octet (by omega)]
        omega
  · rcases hb with rfl | rfl | rfl | rfl <;>
      · rw [toNat_ofNat_octet (by omega)]
        omega

/-- The octet of an ASCII character occurs in a text only where the character does. -/
lemma mem_of_mem_encodeChars {c : Char} (hc : c.toNat < 128) {cs : List Char}
    (h : UInt8.ofNat c.toNat ∈ encodeChars cs) : c ∈ cs := by
  rw [encodeChars, List.mem_flatMap] at h
  obtain ⟨d, hd, hmem⟩ := h
  have hoctet : (UInt8.ofNat c.toNat).toNat = c.toNat := toNat_ofNat_octet (by omega)
  by_cases hwide : 128 ≤ d.toNat
  · have := le_of_mem_encodeChar hwide hmem
    omega
  · rw [encodeChar, if_pos (by omega), List.mem_singleton] at hmem
    have heq : c.toNat = d.toNat := by
      rw [← hoctet, hmem, toNat_ofNat_octet (by omega)]
    rwa [← Char.ofNat_toNat c, heq, Char.ofNat_toNat]

/-! ### Reading with replacement -/

/-- Where strict reading succeeds there is nothing to replace. The induction takes one octet at a
time, between characters and inside one at once. -/
lemma decodeLossy_of_decode (b : Bytes) :
    (∀ pos cs, decodeFrom pos b = .ok cs → decodeLossyFrom b = cs) ∧
      ∀ pos p cs, decodeInside pos p b = .ok cs → decodeLossyInside p b = cs := by
  induction b with
  | nil =>
    refine ⟨fun pos cs h => ?_, fun pos p cs h => ?_⟩
    · exact Except.ok.inj h
    · simp [decodeInside] at h
  | cons x rest ih =>
    obtain ⟨ihFrom, ihInside⟩ := ih
    refine ⟨fun pos cs h => ?_, fun pos p cs h => ?_⟩
    · rw [decodeFrom] at h
      rw [decodeLossyFrom]
      cases hlead : lead x.toNat with
      | refused => simp [hlead] at h
      | multi p =>
        rw [hlead] at h
        exact ihInside pos p cs h
      | single c =>
        rw [hlead, Except.map_eq_ok_iff] at h
        obtain ⟨tail, ht, rfl⟩ := h
        exact congrArg (c :: ·) (ihFrom _ _ ht)
    · rw [decodeInside] at h
      rw [decodeLossyInside]
      cases hfollow : follow p x.toNat with
      | refused => simp [hfollow] at h
      | more q =>
        rw [hfollow] at h
        exact ihInside pos q cs h
      | done c =>
        rw [hfollow, Except.map_eq_ok_iff] at h
        obtain ⟨tail, ht, rfl⟩ := h
        exact congrArg (c :: ·) (ihFrom _ _ ht)

/-- Reading with replacement undoes writing. -/
theorem decodeLossy_encode (s : String) : decodeLossy (encode s) = s := by
  rw [decodeLossy, encode,
    (decodeLossy_of_decode _).1 0 _ (decodeFrom_encodeChars 0 s.toList), String.ofList_toList]

end XoLedger.Utf8

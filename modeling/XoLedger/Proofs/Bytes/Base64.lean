import Mathlib.Tactic.ByContra
import Mathlib.Tactic.Lemma
import Mathlib.Tactic.SplitIfs
import XoLedger.Bytes.Base64
import XoLedger.Proofs.Outcome
import XoLedger.Proofs.Text.Utf8

/-!
# Base64 has one spelling for each octet string

The reader accepts the written form of an octet string and nothing else: `decode_eq_ok_iff`. So
the padding has to be there, in its place and in its length, and the bits that the last symbol
leaves over have to be zero.

Symbols and values are tied together first, then the groups of four symbols and three octets in
both directions, and last comes the induction over the groups, of which only the last may be short.
-/

namespace XoLedger.Base64

/-! ### Symbols and values -/

/-- The octet of the symbol of a value. -/
def symbolByte (v : Nat) : UInt8 :=
  UInt8.ofNat (symbol v).toNat

/-- Symbols are ASCII. -/
lemma toNat_symbol_lt : ∀ {v : Nat}, v < 64 → (symbol v).toNat < 128 := by
  decide

/-- A symbol has the value it was written for. -/
lemma value?_symbolByte : ∀ {v : Nat}, v < 64 → value? (symbolByte v).toNat = some v := by
  decide

/-- No symbol is the padding. -/
lemma symbolByte_ne_pad : ∀ {v : Nat}, v < 64 → symbolByte v ≠ pad := by
  decide

/-- The codes that have a value, all of them ASCII. -/
lemma value?_table : ∀ n < 128, ∀ v ∈ value? n, v < 64 ∧ (symbol v).toNat = n := by
  decide

/-- What has a value is the symbol of that value. -/
lemma eq_symbolByte_of_value? {b : UInt8} {v : Nat} (h : value? b.toNat = some v) :
    v < 64 ∧ b = symbolByte v := by
  have hb : b.toNat < 128 := by
    unfold value? at h
    split_ifs at h <;> omega
  obtain ⟨hv, hs⟩ := value?_table b.toNat hb v h
  refine ⟨hv, ?_⟩
  rw [symbolByte, hs, UInt8.ofNat_toNat]

lemma valueAt_symbolByte {offset v : Nat} (hv : v < 64) :
    valueAt offset (symbolByte v) = .ok v := by
  rw [valueAt, value?_symbolByte hv]

lemma eq_symbolByte_of_valueAt {offset v : Nat} {b : UInt8} (h : valueAt offset b = .ok v) :
    v < 64 ∧ b = symbolByte v := by
  rw [valueAt] at h
  cases hb : value? b.toNat with
  | none => simp [hb] at h
  | some v' =>
    simp only [hb, Except.ok.injEq] at h
    exact h ▸ eq_symbolByte_of_value? hb

/-- A run of symbols is read as their values. -/
lemma valuesFrom_eq_ok_iff {offset : Nat} {symbols : Bytes} {values : List Nat} :
    valuesFrom offset symbols = .ok values ↔
      symbols = values.map symbolByte ∧ ∀ v ∈ values, v < 64 := by
  induction symbols generalizing offset values with
  | nil =>
    rw [valuesFrom, Except.ok.injEq]
    constructor
    · rintro rfl
      simp
    · rintro ⟨h, -⟩
      exact (List.map_eq_nil_iff.mp h.symm).symm
  | cons b rest ih =>
    simp only [valuesFrom, Except.bind_eq_ok_iff, ih]
    constructor
    · rintro ⟨v, hv, vs, ⟨rfl, hvs⟩, h⟩
      obtain ⟨hlt, rfl⟩ := eq_symbolByte_of_valueAt hv
      cases h
      exact ⟨rfl, List.forall_mem_cons.mpr ⟨hlt, hvs⟩⟩
    · rintro ⟨h, hlt⟩
      cases values with
      | nil => cases h
      | cons v vs =>
        rw [List.map_cons, List.cons.injEq] at h
        obtain ⟨rfl, rfl⟩ := h
        rw [List.forall_mem_cons] at hlt
        exact ⟨v, valueAt_symbolByte hlt.1, vs, ⟨rfl, hlt.2⟩, rfl⟩

/-! ### The written form as octets -/

/-- The octets of the symbols of an octet string. -/
def written : Bytes → Bytes
  | [] => []
  | [a] => [symbolByte (a.toNat / 4), symbolByte (a.toNat % 4 * 16), pad, pad]
  | [a, b] =>
    [symbolByte (a.toNat / 4), symbolByte (a.toNat % 4 * 16 + b.toNat / 16),
      symbolByte (b.toNat % 16 * 4), pad]
  | a :: b :: c :: rest =>
    symbolByte (a.toNat / 4) :: symbolByte (a.toNat % 4 * 16 + b.toNat / 16) ::
      symbolByte (b.toNat % 16 * 4 + c.toNat / 64) :: symbolByte (c.toNat % 64) :: written rest

/-- The written form is made of symbols and padding. -/
lemma eq_of_mem_encodeChars {b : Bytes} {c : Char} (h : c ∈ encodeChars b) :
    c = '=' ∨ ∃ v < 64, c = symbol v := by
  have hsymbol : ∀ {v}, v < 64 → symbol v = '=' ∨ ∃ w < 64, symbol v = symbol w := fun hv =>
    .inr ⟨_, hv, rfl⟩
  induction b using encodeChars.induct with
  | case1 => cases h
  | case2 a =>
    have ha := a.toNat_lt
    simp only [encodeChars, List.mem_cons, List.not_mem_nil, or_false] at h
    rcases h with rfl | rfl | rfl | rfl
    · exact hsymbol (by omega)
    · exact hsymbol (by omega)
    · exact .inl rfl
    · exact .inl rfl
  | case3 a b =>
    have ha := a.toNat_lt
    have hb := b.toNat_lt
    simp only [encodeChars, List.mem_cons, List.not_mem_nil, or_false] at h
    rcases h with rfl | rfl | rfl | rfl
    · exact hsymbol (by omega)
    · exact hsymbol (by omega)
    · exact hsymbol (by omega)
    · exact .inl rfl
  | case4 a b c rest ih =>
    have ha := a.toNat_lt
    have hb := b.toNat_lt
    have hc := c.toNat_lt
    rw [encodeChars] at h
    simp only [List.mem_cons] at h
    rcases h with rfl | rfl | rfl | rfl | h
    · exact hsymbol (by omega)
    · exact hsymbol (by omega)
    · exact hsymbol (by omega)
    · exact hsymbol (by omega)
    · exact ih h

/-- An ASCII character is one octet. -/
lemma encodeChar_symbol {v : Nat} (hv : v < 64) :
    Utf8.encodeChar (symbol v) = [symbolByte v] := by
  rw [Utf8.encodeChar]
  exact if_pos (toNat_symbol_lt hv)

/-- The octets of the written form are those of its symbols. -/
lemma encodeChars_encodeChars (b : Bytes) : Utf8.encodeChars (encodeChars b) = written b := by
  have hpad : Utf8.encodeChar '=' = [pad] := by decide
  induction b using written.induct with
  | case1 => rfl
  | case2 a =>
    have ha := a.toNat_lt
    simp only [encodeChars, written, Utf8.encodeChars, List.flatMap_cons, List.flatMap_nil, hpad]
    rw [encodeChar_symbol (by omega), encodeChar_symbol (by omega)]
    rfl
  | case3 a b =>
    have ha := a.toNat_lt
    have hb := b.toNat_lt
    simp only [encodeChars, written, Utf8.encodeChars, List.flatMap_cons, List.flatMap_nil, hpad]
    rw [encodeChar_symbol (by omega), encodeChar_symbol (by omega), encodeChar_symbol (by omega)]
    rfl
  | case4 a b c rest ih =>
    have ha := a.toNat_lt
    have hb := b.toNat_lt
    have hc := c.toNat_lt
    rw [Utf8.encodeChars] at ih
    simp only [encodeChars, written, Utf8.encodeChars, List.flatMap_cons, ih]
    rw [encodeChar_symbol (by omega), encodeChar_symbol (by omega), encodeChar_symbol (by omega),
      encodeChar_symbol (by omega)]
    rfl

/-- The written form comes in groups of four. -/
lemma length_written_mod (b : Bytes) : (written b).length % 4 = 0 := by
  induction b using written.induct with
  | case1 => simp [written]
  | case2 a => simp [written]
  | case3 a b => simp [written]
  | case4 a b c rest ih =>
    simp only [written, List.length_cons]
    omega

/-- Only nothing is written as nothing. -/
lemma written_eq_nil_iff {b : Bytes} : written b = [] ↔ b = [] := by
  constructor
  · intro h
    match b with
    | [] => rfl
    | [_] | [_, _] | _ :: _ :: _ :: _ => simp [written] at h
  · rintro rfl
    rfl

/-! ### Reading what was written -/

/-- A group of four symbols with more behind it gives three octets. -/
lemma decodeFrom_group (offset : Nat) {w x y z : Nat} (hw : w < 64) (hx : x < 64) (hy : y < 64)
    (hz : z < 64) {rest : Bytes} (hrest : rest ≠ []) :
    decodeFrom offset (symbolByte w :: symbolByte x :: symbolByte y :: symbolByte z :: rest)
      = (decodeFrom (offset + 4) rest).map fun tail =>
          UInt8.ofNat (4 * w + x / 16) :: UInt8.ofNat (x % 16 * 16 + y / 4) ::
            UInt8.ofNat (y % 4 * 64 + z) :: tail := by
  obtain ⟨e, rest, rfl⟩ := List.exists_cons_of_ne_nil hrest
  rw [decodeFrom, valueAt_symbolByte hw, valueAt_symbolByte hx, valueAt_symbolByte hy,
    valueAt_symbolByte hz]
  rfl

/-- The last group is split where its padding begins. -/
lemma span_symbols {values : List Nat} (h : ∀ v ∈ values, v < 64) (k : Nat) :
    (values.map symbolByte ++ List.replicate k pad).takeWhile (· != pad)
        = values.map symbolByte ∧
      (values.map symbolByte ++ List.replicate k pad).dropWhile (· != pad)
        = List.replicate k pad := by
  have hall : ∀ b ∈ values.map symbolByte, (b != pad) = true := by
    intro b hb
    obtain ⟨v, hv, rfl⟩ := List.mem_map.mp hb
    exact bne_iff_ne.mpr (symbolByte_ne_pad (h v hv))
  rw [List.takeWhile_append_of_pos hall, List.dropWhile_append_of_pos hall]
  cases k with
  | zero => simp
  | succ k => simp [List.replicate_succ]

/-- A last group with two symbols at least, or without padding, is decided by its values. -/
lemma decodeLast_symbols (offset : Nat) (values : List Nat) (h : ∀ v ∈ values, v < 64) (k : Nat)
    (hk : k = 0 ∨ 2 ≤ values.length) :
    decodeLast offset (values.map symbolByte ++ List.replicate k pad)
      = match values, (values.map symbolByte).getLastD 0 with
        | [], _ => .ok []
        | [_], _ => .error (.badLength (offset + 1))
        | [w, x], final =>
          if k ≠ 2 then .error .badPadding
          else if x % 16 ≠ 0 then .error (.badLastSymbol final (offset + 1))
          else .ok [UInt8.ofNat (4 * w + x / 16)]
        | [w, x, y], final =>
          if k ≠ 1 then .error .badPadding
          else if y % 4 ≠ 0 then .error (.badLastSymbol final (offset + 2))
          else .ok [UInt8.ofNat (4 * w + x / 16), UInt8.ofNat (x % 16 * 16 + y / 4)]
        | w :: x :: y :: z :: _, _ =>
          .ok [UInt8.ofNat (4 * w + x / 16), UInt8.ofNat (x % 16 * 16 + y / 4),
            UInt8.ofNat (y % 4 * 64 + z)] := by
  obtain ⟨htake, hdrop⟩ := span_symbols h k
  have hvalues : valuesFrom offset (values.map symbolByte) = .ok values :=
    valuesFrom_eq_ok_iff.mpr ⟨rfl, h⟩
  have hpad : ¬ (List.replicate k pad ≠ [] ∧ ((values.map symbolByte).length < 2 ∨
      (List.replicate k pad).any (· != pad))) := by
    rintro ⟨hne, hlt | hany⟩
    · rw [List.length_map] at hlt
      rcases hk with rfl | hk
      · exact hne rfl
      · omega
    · simp at hany
  rw [decodeLast, htake, hdrop]
  dsimp only
  rw [hvalues, Except.ok_bind, if_neg hpad, List.length_replicate]
  match values with
  | [] => rfl
  | [_] => rfl
  | [_, _] => rfl
  | [_, _, _] => rfl
  | _ :: _ :: _ :: _ :: _ => rfl

/-- The values of the symbols of an octet are made into the octet again. -/
lemma octets_of_values (a b c : UInt8) :
    UInt8.ofNat (4 * (a.toNat / 4) + (a.toNat % 4 * 16 + b.toNat / 16) / 16) = a ∧
      UInt8.ofNat ((a.toNat % 4 * 16 + b.toNat / 16) % 16 * 16 +
        (b.toNat % 16 * 4 + c.toNat / 64) / 4) = b ∧
      UInt8.ofNat ((b.toNat % 16 * 4 + c.toNat / 64) % 4 * 64 + c.toNat % 64) = c := by
  have ha := a.toNat_lt
  have hb := b.toNat_lt
  have hc := c.toNat_lt
  exact ⟨Utf8.ofNat_toNat_octet (by omega), Utf8.ofNat_toNat_octet (by omega),
    Utf8.ofNat_toNat_octet (by omega)⟩

/-- The written form is read. -/
lemma decodeFrom_written (offset : Nat) (b : Bytes) : decodeFrom offset (written b) = .ok b := by
  induction b using written.induct generalizing offset with
  | case1 => rfl
  | case2 a =>
    have ha := a.toNat_lt
    have h := decodeLast_symbols offset [a.toNat / 4, a.toNat % 4 * 16] (by simp; omega) 2
      (.inr (by simp))
    simp only [List.map_cons, List.map_nil, ne_eq, not_true_eq_false, if_false] at h
    rw [if_neg (by omega), Utf8.ofNat_toNat_octet (show a.toNat = _ by omega)] at h
    exact h
  | case3 a b =>
    have ha := a.toNat_lt
    have hb := b.toNat_lt
    have h := decodeLast_symbols offset
      [a.toNat / 4, a.toNat % 4 * 16 + b.toNat / 16, b.toNat % 16 * 4] (by simp; omega) 1
      (.inr (by simp))
    simp only [List.map_cons, List.map_nil, ne_eq, not_true_eq_false, if_false] at h
    rw [if_neg (by omega), Utf8.ofNat_toNat_octet (show a.toNat = _ by omega),
      Utf8.ofNat_toNat_octet (show b.toNat = _ by omega)] at h
    exact h
  | case4 a b c rest ih =>
    have ha := a.toNat_lt
    have hb := b.toNat_lt
    have hc := c.toNat_lt
    obtain ⟨h₁, h₂, h₃⟩ := octets_of_values a b c
    by_cases hrest : rest = []
    · -- the group is the last one, which is read by itself
      have h := decodeLast_symbols offset [a.toNat / 4, a.toNat % 4 * 16 + b.toNat / 16,
        b.toNat % 16 * 4 + c.toNat / 64, c.toNat % 64] (by simp; omega) 0 (.inl rfl)
      simp only [List.map_cons, List.map_nil, h₁, h₂, h₃] at h
      rw [hrest]
      exact h
    · rw [written, decodeFrom_group offset (by omega) (by omega) (by omega) (by omega)
        (mt written_eq_nil_iff.mp hrest), ih, Except.ok_map, h₁, h₂, h₃]

/-! ### What is read was written -/

/-- Values make up an octet whose symbols are those of the values. -/
lemma values_of_octets {w x y z : Nat} (hw : w < 64) (hx : x < 64) (hy : y < 64) (hz : z < 64) :
    (UInt8.ofNat (4 * w + x / 16)).toNat = 4 * w + x / 16 ∧
      (UInt8.ofNat (x % 16 * 16 + y / 4)).toNat = x % 16 * 16 + y / 4 ∧
      (UInt8.ofNat (y % 4 * 64 + z)).toNat = y % 4 * 64 + z :=
  ⟨Utf8.toNat_ofNat_octet (by omega), Utf8.toNat_ofNat_octet (by omega),
    Utf8.toNat_ofNat_octet (by omega)⟩

/-- The three octets of four values are written as the symbols of the values. -/
lemma written_of_values {w x y z : Nat} (hw : w < 64) (hx : x < 64) (hy : y < 64) (hz : z < 64)
    (rest : Bytes) :
    written (UInt8.ofNat (4 * w + x / 16) :: UInt8.ofNat (x % 16 * 16 + y / 4) ::
        UInt8.ofNat (y % 4 * 64 + z) :: rest)
      = symbolByte w :: symbolByte x :: symbolByte y :: symbolByte z :: written rest := by
  obtain ⟨h₁, h₂, h₃⟩ := values_of_octets hw hx hy hz
  rw [written, h₁, h₂, h₃]
  rw [show (4 * w + x / 16) / 4 = w by omega,
    show (4 * w + x / 16) % 4 * 16 + (x % 16 * 16 + y / 4) / 16 = x by omega,
    show (x % 16 * 16 + y / 4) % 16 * 4 + (y % 4 * 64 + z) / 64 = y by omega,
    show (y % 4 * 64 + z) % 64 = z by omega]

/-- A last group that is read consists of symbols and then of padding, which there is only behind
two symbols at least. -/
lemma eq_symbols_of_decodeLast {offset : Nat} {group b : Bytes}
    (h : decodeLast offset group = .ok b) :
    ∃ (values : List Nat) (k : Nat), (∀ v ∈ values, v < 64) ∧ (k = 0 ∨ 2 ≤ values.length) ∧
      group = values.map symbolByte ++ List.replicate k pad := by
  have hspan : group.takeWhile (· != pad) ++ group.dropWhile (· != pad) = group :=
    List.takeWhile_append_dropWhile
  rw [decodeLast] at h
  dsimp only at h
  rw [Except.bind_eq_ok_iff] at h
  obtain ⟨values, hvalues, h⟩ := h
  obtain ⟨htake, hlt⟩ := valuesFrom_eq_ok_iff.mp hvalues
  by_cases hbad : group.dropWhile (· != pad) ≠ [] ∧ ((group.takeWhile (· != pad)).length < 2 ∨
      (group.dropWhile (· != pad)).any (· != pad))
  · rw [if_pos hbad] at h
    cases h
  · refine ⟨values, (group.dropWhile (· != pad)).length, hlt, ?_, ?_⟩
    · rw [htake, List.length_map] at hbad
      by_cases hnil : group.dropWhile (· != pad) = []
      · exact .inl (by rw [hnil]; rfl)
      · have hlen : ¬ values.length < 2 := fun hl => hbad ⟨hnil, .inl hl⟩
        exact .inr (by omega)
    · have hpads : group.dropWhile (· != pad) =
          List.replicate (group.dropWhile (· != pad)).length pad := by
        rw [List.eq_replicate_iff]
        refine ⟨rfl, fun x hx => ?_⟩
        by_contra hne
        exact hbad ⟨List.ne_nil_of_mem hx, .inr (List.any_eq_true.mpr ⟨x, hx, by simpa using hne⟩)⟩
      rw [← hpads, ← htake, hspan]

/-- A last group that is read is the written form of what it is read as. -/
lemma eq_written_of_decodeLast {offset : Nat} {group b : Bytes} (hlen : group.length ≤ 4)
    (h : decodeLast offset group = .ok b) : group = written b := by
  obtain ⟨values, k, hlt, hk, rfl⟩ := eq_symbols_of_decodeLast h
  rw [decodeLast_symbols offset values hlt k hk] at h
  simp only [List.length_append, List.length_map, List.length_replicate] at hlen
  match values with
  | [] =>
    cases h
    have hk0 : k = 0 := by simpa using hk
    rw [hk0]
    rfl
  | [_] => cases h
  | [w, x] =>
    simp only [List.forall_mem_cons] at hlt
    dsimp only at h
    by_cases hk2 : k ≠ 2
    · rw [if_pos hk2] at h
      cases h
    by_cases hx : x % 16 ≠ 0
    · rw [if_neg hk2, if_pos hx] at h
      cases h
    rw [if_neg hk2, if_neg hx] at h
    cases h
    rw [not_not.mp hk2, written, Utf8.toNat_ofNat_octet (by omega),
      show (4 * w + x / 16) / 4 = w by omega, show (4 * w + x / 16) % 4 * 16 = x by omega]
    rfl
  | [w, x, y] =>
    simp only [List.forall_mem_cons] at hlt
    dsimp only at h
    by_cases hk1 : k ≠ 1
    · rw [if_pos hk1] at h
      cases h
    by_cases hy : y % 4 ≠ 0
    · rw [if_neg hk1, if_pos hy] at h
      cases h
    rw [if_neg hk1, if_neg hy] at h
    cases h
    rw [not_not.mp hk1, written, Utf8.toNat_ofNat_octet (by omega),
      Utf8.toNat_ofNat_octet (by omega),
      show (4 * w + x / 16) / 4 = w by omega,
      show (4 * w + x / 16) % 4 * 16 + (x % 16 * 16 + y / 4) / 16 = x by omega,
      show (x % 16 * 16 + y / 4) % 16 * 4 = y by omega]
    rfl
  | w :: x :: y :: z :: more =>
    simp only [List.length_cons] at hlen
    have hmore : more = [] := List.length_eq_zero_iff.mp (by omega)
    have hk0 : k = 0 := by omega
    subst hmore
    subst hk0
    simp only [List.forall_mem_cons] at hlt
    cases h
    rw [written_of_values hlt.1 hlt.2.1 hlt.2.2.1 hlt.2.2.2.1]
    rfl

/-- What is read in groups is the written form of what it is read as. -/
lemma eq_written_of_decodeFrom {offset : Nat} {symbols b : Bytes}
    (h : decodeFrom offset symbols = .ok b) : symbols = written b := by
  induction offset, symbols using decodeFrom.induct generalizing b with
  | case1 offset a₁ a₂ a₃ a₄ e rest ih =>
    rw [decodeFrom] at h
    simp only [Except.bind_eq_ok_iff] at h
    obtain ⟨w, hw, x, hx, y, hy, z, hz, tail, htail, h⟩ := h
    obtain ⟨hw', rfl⟩ := eq_symbolByte_of_valueAt hw
    obtain ⟨hx', rfl⟩ := eq_symbolByte_of_valueAt hx
    obtain ⟨hy', rfl⟩ := eq_symbolByte_of_valueAt hy
    obtain ⟨hz', rfl⟩ := eq_symbolByte_of_valueAt hz
    cases h
    rw [written_of_values hw' hx' hy' hz', ← ih htail]
  | case2 offset last hlast =>
    have hlen : last.length ≤ 4 := by
      match last, hlast with
      | [], _ | [_], _ | [_, _], _ | [_, _, _], _ | [_, _, _, _], _ => simp
      | a :: b :: c :: d :: e :: rest, hlast => exact absurd rfl (hlast a b c d e rest)
    rw [decodeFrom] at h
    · exact eq_written_of_decodeLast hlen h
    · exact hlast

/-! ### Texts -/

/-- The reader of octets accepts the written form and nothing else. The check that it makes first
concerns a length that no written form has. -/
lemma decodeBytes_eq_ok_iff {symbols b : Bytes} :
    decodeBytes symbols = .ok b ↔ symbols = written b := by
  constructor
  · intro h
    rw [decodeBytes] at h
    cases hlast : symbols.getLast? with
    | none =>
      rw [hlast] at h
      cases h
      exact List.getLast?_eq_none_iff.mp hlast
    | some final =>
      rw [hlast] at h
      dsimp only at h
      split at h
      · cases h
      · exact eq_written_of_decodeFrom h
  · rintro rfl
    rw [decodeBytes]
    cases hlast : (written b).getLast? with
    | none =>
      have hnil : b = [] := written_eq_nil_iff.mp (List.getLast?_eq_none_iff.mp hlast)
      rw [hnil]
    | some final =>
      dsimp only
      rw [if_neg (by rw [length_written_mod]; simp), decodeFrom_written]

/-- **One spelling**: a text is read as an octet string exactly when it is its written form. -/
theorem decode_eq_ok_iff {s : String} {b : Bytes} : decode s = .ok b ↔ s = encode b := by
  have hencode : Utf8.encode (encode b) = written b := by
    rw [encode, Utf8.encode, String.toList_ofList, encodeChars_encodeChars]
  rw [decode, decodeBytes_eq_ok_iff, ← hencode]
  constructor
  · exact Utf8.encode_injective
  · rintro rfl
    rfl

end XoLedger.Base64

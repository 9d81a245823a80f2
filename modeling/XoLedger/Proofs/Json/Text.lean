import XoLedger.Json.Decoder
import XoLedger.Proofs.Text.Utf8

/-!
# Texts in JSON

A text is written between quotes, with its quotes, backslashes and control characters escaped.
Whatever the text, the closing quote is found where it was put, and resolving the escapes gives the
text back (`scanText_written`, `textOfRaw_written`). The two readers of a text, the one that looks
for its end and the one that resolves it, run over the same octets, so what a piece of them means is
said once for both (`Writes`).
-/

namespace XoLedger.Json

/-! ### Pieces of a text -/

/-- That `p` is a way to write `octets` in a text: it is passed over and resolved as a whole. -/
structure Writes (p octets : Bytes) : Prop where
  /-- The search for the closing quote goes on after it. -/
  scan (rest : Bytes) :
    scanText .plain (p ++ rest) = (scanText .plain rest).map fun (raw, rest) => (p ++ raw, rest)
  /-- It is resolved, and the rest after it. -/
  resolve (rest : Bytes) :
    unescape .plain (p ++ rest) = (unescape .plain rest).map (octets ++ ·)

namespace Writes

lemma nil : Writes [] [] where
  scan rest := by
    rw [List.nil_append]
    exact Option.map_id'.symm
  resolve rest := by
    rw [List.nil_append]
    exact Option.map_id'.symm

lemma append {p q octets octets' : Bytes} (hp : Writes p octets) (hq : Writes q octets') :
    Writes (p ++ q) (octets ++ octets') where
  scan rest := by
    rw [List.append_assoc, hp.scan, hq.scan, Option.map_map]
    refine Option.map_congr fun x _ => ?_
    simp only [Function.comp_apply, List.append_assoc]
  resolve rest := by
    rw [List.append_assoc, hp.resolve, hq.resolve, Option.map_map]
    refine Option.map_congr fun x _ => ?_
    simp only [Function.comp_apply, List.append_assoc]

/-- An octet that is neither a quote nor a backslash nor a control character stands for itself. -/
lemma plain {b : UInt8} (hcontrol : 32 ≤ b) (hquote : b ≠ 34) (hescape : b ≠ 92) :
    Writes [b] [b] where
  scan rest := by
    rw [List.singleton_append, scanText, if_neg hquote, if_neg (UInt8.not_lt.mpr hcontrol),
      if_neg hescape]
    rfl
  resolve rest := by
    rw [List.singleton_append, unescape, if_neg hescape]
    rfl

/-- An escape of one letter. -/
lemma letter {b : UInt8} (h : isSimpleEscape b) : Writes [92, b] (simpleEscape b) := by
  have hcode : b ≠ 117 := by
    rintro rfl
    exact absurd h (by decide)
  constructor
  · intro rest
    rw [List.cons_append, scanText, if_neg (by decide), if_neg (by decide), if_pos rfl,
      List.singleton_append, scanText, if_neg hcode, if_pos h, Option.map_map]
    rfl
  · intro rest
    rw [List.cons_append, unescape, if_pos rfl, List.singleton_append, unescape, if_neg hcode]

/-- An escape with a number. The numbers that are written take two digits. -/
lemma code {high low : UInt8} (hhigh : isHexDigit high) (hlow : isHexDigit low)
    (hsmall : 16 * hexValue high + hexValue low < 256) :
    Writes [92, 117, 48, 48, high, low]
      (Utf8.encodeChar (Char.ofNat (16 * hexValue high + hexValue low))) := by
  constructor
  · intro rest
    have hzero : isHexDigit 48 = true := by decide
    simp [scanText, hzero, hhigh, hlow, Function.comp_def]
  · intro rest
    have hzero : hexValue 48 = 0 := by decide
    simp [unescape, hzero, finishEscape, show ¬ 0xDC00 ≤ 16 * hexValue high + hexValue low by omega,
      show ¬ 0xD800 ≤ 16 * hexValue high + hexValue low by omega]

/-- Octets past ASCII stand for themselves. -/
lemma wide : ∀ {p : Bytes}, (∀ b ∈ p, 128 ≤ b.toNat) → Writes p p
  | [], _ => nil
  | b :: p, h => by
    have hb : 128 ≤ b.toNat := h b List.mem_cons_self
    have hne : ∀ x : UInt8, x.toNat < 128 → b ≠ x := by
      rintro x hx rfl
      exact absurd hb (Nat.not_le.mpr hx)
    have hplain : Writes [b] [b] := plain (UInt8.le_iff_toNat_le.mpr (Nat.le_trans (by decide) hb))
      (hne 34 (by decide)) (hne 92 (by decide))
    exact hplain.append (wide fun b hb => h b (List.mem_cons_of_mem _ hb))

end Writes

/-! ### Characters -/

/-- The digits of a number are read as its digits. -/
lemma hexDigit_spec : ∀ n < 16, isHexDigit (UInt8.ofNat (Value.hexDigit n).toNat) ∧
    hexValue (UInt8.ofNat (Value.hexDigit n).toNat) = n ∧ (Value.hexDigit n).toNat < 128 := by
  decide

/-- A control character without a letter is written by its number. -/
lemma writes_control {c : Char} (h : c.toNat < 32) :
    Writes (Utf8.encodeChars
      ['\\', 'u', '0', '0', Value.hexDigit (c.toNat / 16), Value.hexDigit (c.toNat % 16)])
      (Utf8.encodeChar c) := by
  obtain ⟨hhigh, hhighValue, hhighLt⟩ := hexDigit_spec (c.toNat / 16) (by omega)
  obtain ⟨hlow, hlowValue, hlowLt⟩ := hexDigit_spec (c.toNat % 16) (by omega)
  have hvalue : 16 * hexValue (UInt8.ofNat (Value.hexDigit (c.toNat / 16)).toNat) +
      hexValue (UInt8.ofNat (Value.hexDigit (c.toNat % 16)).toNat) = c.toNat := by
    rw [hhighValue, hlowValue]
    omega
  have hcode := Writes.code hhigh hlow (by omega)
  rw [hvalue, Char.ofNat_toNat] at hcode
  have hoctets : ∀ d : Char, d.toNat < 128 → Utf8.encodeChar d = [UInt8.ofNat d.toNat] :=
    fun d hd => by rw [Utf8.encodeChar, if_pos hd]
  simp only [Utf8.encodeChars, List.flatMap_cons, List.flatMap_nil, hoctets _ hhighLt,
    hoctets _ hlowLt]
  exact hcode

/-- A character that needs no escape stands for itself. -/
lemma writes_encodeChar {c : Char} (hcontrol : 32 ≤ c.toNat) (hquote : c ≠ '"')
    (hescape : c ≠ '\\') : Writes (Utf8.encodeChar c) (Utf8.encodeChar c) := by
  by_cases hc : c.toNat < 128
  · have hoctet : ∀ d : Char, d.toNat < 128 → c ≠ d →
        UInt8.ofNat c.toNat ≠ UInt8.ofNat d.toNat := by
      intro d hd hne heq
      have htoNat := congrArg UInt8.toNat heq
      rw [Utf8.toNat_ofNat_octet (by omega), Utf8.toNat_ofNat_octet (by omega)] at htoNat
      exact hne (Char.toNat_inj.mp htoNat)
    rw [Utf8.encodeChar, if_pos hc]
    refine Writes.plain (UInt8.le_iff_toNat_le.mpr ?_) (hoctet '"' (by decide) hquote)
      (hoctet '\\' (by decide) hescape)
    rw [Utf8.toNat_ofNat_octet (by omega)]
    exact hcontrol
  · exact Writes.wide fun b hb => Utf8.le_of_mem_encodeChar (Nat.not_lt.mp hc) hb

/-- However a character is written, it is read back. -/
lemma writes_escape (c : Char) :
    Writes (Utf8.encodeChars (Value.escape c)) (Utf8.encodeChar c) := by
  have hletter : ∀ (d e : Char), d.toNat < 128 → c = e → isSimpleEscape (UInt8.ofNat d.toNat) →
      simpleEscape (UInt8.ofNat d.toNat) = Utf8.encodeChar e →
      Writes (Utf8.encodeChars ['\\', d]) (Utf8.encodeChar c) := by
    rintro d e hd rfl hsimple hoctets
    have hd : Utf8.encodeChars ['\\', d] = [92, UInt8.ofNat d.toNat] := by
      simp only [Utf8.encodeChars, List.flatMap_cons, List.flatMap_nil]
      rw [show Utf8.encodeChar d = _ from if_pos hd]
      rfl
    rw [hd, ← hoctets]
    exact Writes.letter hsimple
  have hofNat : ∀ n, c.toNat = n → c = Char.ofNat n := fun n hn => by rw [← hn, Char.ofNat_toNat]
  unfold Value.escape
  split_ifs with hquote hescape hline hreturn htab hback hfeed hcontrol
  · exact hletter '"' '"' (by decide) hquote (by decide) (by decide)
  · exact hletter '\\' '\\' (by decide) hescape (by decide) (by decide)
  · exact hletter 'n' '\n' (by decide) hline (by decide) (by decide)
  · exact hletter 'r' '\r' (by decide) hreturn (by decide) (by decide)
  · exact hletter 't' '\t' (by decide) htab (by decide) (by decide)
  · exact hletter 'b' _ (by decide) (hofNat 8 hback) (by decide) (by decide)
  · exact hletter 'f' _ (by decide) (hofNat 12 hfeed) (by decide) (by decide)
  · exact writes_control hcontrol
  · rw [Utf8.encodeChars, List.flatMap_singleton]
    exact writes_encodeChar (Nat.not_lt.mp hcontrol) hquote hescape

/-! ### Whole texts -/

/-- The octets of a text between its quotes. -/
def written (s : String) : Bytes :=
  Utf8.encodeChars (s.toList.flatMap Value.escape)

lemma writes_written (s : String) : Writes (written s) (Utf8.encode s) := by
  rw [written, Utf8.encode]
  induction s.toList with
  | nil => exact .nil
  | cons c cs ih =>
    rw [List.flatMap_cons, Utf8.encodeChars, List.flatMap_append]
    exact (writes_escape c).append ih

/-- The closing quote is found where it was put. -/
theorem scanText_written (s : String) (rest : Bytes) :
    scanText .plain (written s ++ 34 :: rest) = some (written s, rest) := by
  rw [(writes_written s).scan, scanText, if_pos rfl, Option.map_some]
  simp only [List.append_nil]

/-- What was written is resolved to the text. -/
theorem textOfRaw_written (s : String) : textOfRaw (written s) = .ok s := by
  have hresolve := (writes_written s).resolve []
  rw [List.append_nil, unescape, Option.map_some, List.append_nil] at hresolve
  simp only [textOfRaw, hresolve, Utf8.decode_encode]
  rfl

end XoLedger.Json

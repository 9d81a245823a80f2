import Mathlib.Tactic.Lemma
import XoLedger.Proofs.Text.Split
import XoLedger.Proofs.Text.Utf8
import XoLedger.Url.Parse

/-!
# Pairs that are put into a query are found there

Whatever the names and values are, the pairs that are added to a query are read back, after those
that were there before. Only two things about the written form of a text matter for it: no mark
that separates pairs or parts of a pair occurs in it, and reading takes it back octet by octet.
-/

namespace XoLedger.Url

namespace Form

/-! ### Names and values -/

/-- An octet as it is written. -/
def written (b : UInt8) : List Char :=
  if isPlain b then [Char.ofNat b.toNat] else if b = 32 then ['+'] else Percent.octet b

/-- The octets that percent signs are looked for in. -/
def octets (cs : List Char) : Bytes :=
  Utf8.encodeChars (cs.map fun c => if c = '+' then ' ' else c)

/-- An octet is written as itself, or as a percent sign and its two digits. -/
lemma octets_written :
    ∀ n < 256, (octets (written (UInt8.ofNat n)) = [UInt8.ofNat n] ∧ UInt8.ofNat n ≠ 37) ∨
      octets (written (UInt8.ofNat n)) =
        [37, UInt8.ofNat (Percent.upperDigit (n / 16)).toNat,
          UInt8.ofNat (Percent.upperDigit (n % 16)).toNat] := by
  decide +kernel

/-- The digits of an octet have the values they are written for. -/
lemma value?_upperDigit :
    ∀ n < 16, Hex.value? (UInt8.ofNat (Percent.upperDigit n).toNat).toNat = some n := by
  decide +kernel

/-- No mark occurs in a written octet. -/
lemma marks_notMem_written :
    ∀ n < 256, '&' ∉ written (UInt8.ofNat n) ∧ '=' ∉ written (UInt8.ofNat n) := by
  decide +kernel

lemma octets_append (cs ds : List Char) : octets (cs ++ ds) = octets cs ++ octets ds := by
  rw [octets, List.map_append, Utf8.encodeChars, List.flatMap_append]
  rfl

/-- A written octet is read back, and reading goes on behind it. -/
lemma decode_octets_written (b : UInt8) (rest : Bytes) :
    Percent.decode (octets (written b) ++ rest) = b :: Percent.decode rest := by
  have hb : UInt8.ofNat b.toNat = b := UInt8.ofNat_toNat
  have hlt : b.toNat < 256 := b.toNat_lt
  have hwritten := octets_written b.toNat hlt
  rw [hb] at hwritten
  rcases hwritten with ⟨hself, hne⟩ | hdigits
  · rw [hself, List.singleton_append, Percent.decode.eq_def]
    exact if_neg hne
  · have hhigh := value?_upperDigit (b.toNat / 16) (by omega)
    have hlow := value?_upperDigit (b.toNat % 16) (by omega)
    rw [hdigits, List.cons_append, List.cons_append, List.cons_append, List.nil_append,
      Percent.decode, if_pos rfl]
    simp only [hhigh, hlow]
    rw [Nat.div_add_mod, hb]

/-- Reading a name or a value undoes writing it. -/
theorem decode_encode (s : String) : decode (encode s) = s := by
  have hread : ∀ b : Bytes, Percent.decode (octets (b.flatMap written)) = b := by
    intro b
    induction b with
    | nil => rfl
    | cons x rest ih => rw [List.flatMap_cons, octets_append, decode_octets_written, ih]
  have hencode : encode s = (Utf8.encode s).flatMap written := rfl
  rw [decode, ← octets, hencode, hread, Utf8.decodeLossy_encode]

/-- No mark occurs in a written name or value. -/
lemma marks_notMem_encode (s : String) : '&' ∉ encode s ∧ '=' ∉ encode s := by
  have hmark : ∀ mark, (∀ n < 256, mark ∉ written (UInt8.ofNat n)) → mark ∉ encode s := by
    intro mark h hmem
    obtain ⟨b, -, hb⟩ := List.mem_flatMap.mp hmem
    refine h b.toNat b.toNat_lt ?_
    rw [UInt8.ofNat_toNat]
    exact hb
  exact ⟨hmark '&' fun n hn => (marks_notMem_written n hn).1,
    hmark '=' fun n hn => (marks_notMem_written n hn).2⟩

/-! ### Pairs -/

/-- A written pair is read back. -/
lemma decodePair_encodePair (pair : String × String) : decodePair (encodePair pair) = pair := by
  have hname : ∀ c ∈ encode pair.1, (c != '=') = true := by
    intro c hc
    rw [bne_iff_ne]
    rintro rfl
    exact (marks_notMem_encode pair.1).2 hc
  rw [decodePair, encodePair, List.takeWhile_append_of_pos hname,
    List.dropWhile_append_of_pos hname]
  simp [decode_encode]

/-- A written pair is one part of a query, and not an empty one. -/
lemma splitChars_encodePair (pair : String × String) :
    splitChars '&' (encodePair pair) = [encodePair pair] := by
  refine splitChars_of_sep_notMem fun hmem => ?_
  rw [encodePair, List.mem_append, List.mem_cons] at hmem
  rcases hmem with hmem | hmem | hmem
  · exact (marks_notMem_encode pair.1).1 hmem
  · exact absurd hmem (by decide)
  · exact (marks_notMem_encode pair.2).1 hmem

/-- A pair that is added to a query is read behind those that were there. -/
lemma pairs_append_encodePair (query : List Char) (pair : String × String) :
    pairs ((if query = [] then [] else query ++ ['&']) ++ encodePair pair) =
      pairs query ++ [pair] := by
  have hne : encodePair pair ≠ [] := by simp [encodePair]
  have hpair : pairs (encodePair pair) = [pair] := by
    rw [pairs, splitChars_encodePair]
    simp [hne, decodePair_encodePair]
  by_cases hquery : query = []
  · rw [if_pos hquery, List.nil_append, hpair, hquery]
    rfl
  · rw [if_neg hquery, List.append_assoc, List.singleton_append, pairs, splitChars_append_sep,
      List.filter_append, List.map_append, ← pairs, ← pairs, hpair]

/-- Pairs that are added to a query are read behind those that were there, in order. -/
theorem pairs_append (query : List Char) (added : List (String × String)) :
    pairs (append query added) = pairs query ++ added := by
  induction added generalizing query with
  | nil => rw [append, List.append_nil]
  | cons pair rest ih => rw [append, ih, pairs_append_encodePair, List.append_assoc,
      List.singleton_append]

end Form

/-- Pairs are added to the query and to nothing else. -/
lemma authority_withPairs (url : Url) (added : List (String × String)) :
    (url.withPairs added).authority = url.authority := by
  unfold withPairs
  split
  · rfl
  · rfl

/-- The pairs of a URL to which pairs were added. -/
theorem queryPairs_withPairs (url : Url) (added : List (String × String)) :
    (url.withPairs added).queryPairs = url.queryPairs ++ added := by
  by_cases h : added = []
  · rw [withPairs, if_pos h, h, List.append_nil]
  · rw [withPairs, if_neg h]
    exact Form.pairs_append _ added

end XoLedger.Url

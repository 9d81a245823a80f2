import Mathlib.Data.List.Range
import Mathlib.Tactic.Lemma
import XoLedger.Proofs.Url.Host

/-!
# Labels that are written in more characters than are read

How many characters a label takes in ASCII depends on how far its characters lie apart: a count of
at least 936 states takes three digits or more. So seven hundred characters of one script can take
more than two thousand, and then the label has a form in ASCII that is not read.
-/

namespace XoLedger.Url.Domain

open Label (read? isWide isSound)

/-! ### Lengths of counts -/

namespace Punycode

/-- Counts from 36 times 26 on have three digits or more. -/
lemma three_le_length_writeCount {count : Nat} (h : 936 ≤ count) (bias position : Nat) :
    3 ≤ (writeCount bias position count).length := by
  have htwo : ∀ position count, 26 ≤ count → 2 ≤ (writeCount bias position count).length := by
    intro position count hcount
    have hle := threshold_le bias position
    rw [writeCount, if_neg (by omega), List.length_cons]
    exact Nat.succ_le_succ (List.length_pos_iff.mpr (writeCount_ne_nil _ _ _))
  have hle := threshold_le bias position
  have hpos := threshold_pos bias position
  have hrest : 26 ≤ (count - threshold bias position) / (36 - threshold bias position) := by
    rw [Nat.le_div_iff_mul_le (by omega)]
    omega
  rw [writeCount, if_neg (by omega), List.length_cons]
  exact Nat.succ_le_succ (htwo _ _ hrest)

namespace Writer

variable {basic point : Nat} {w : Writer}

/-- A writer that has gone on: nothing is taken back. -/
def IsBehind (w w' : Writer) : Prop :=
  w.text.length ≤ w'.text.length ∧ w.placed ≤ w'.placed

lemma isBehind_pass (basic point : Nat) (w : Writer) (n : Nat) :
    w.IsBehind (pass basic point w n) := by
  unfold pass IsBehind
  split_ifs
  · exact ⟨Nat.le_refl _, Nat.le_refl _⟩
  · dsimp only
    rw [List.length_append]
    exact ⟨Nat.le_add_right _ _, Nat.le_succ _⟩
  · exact ⟨Nat.le_refl _, Nat.le_refl _⟩

lemma isBehind_foldl (basic point : Nat) (label : List Nat) (w : Writer) :
    w.IsBehind (label.foldl (pass basic point) w) := by
  induction label generalizing w with
  | nil => exact ⟨Nat.le_refl _, Nat.le_refl _⟩
  | cons n rest ih =>
    have hpass := isBehind_pass basic point w n
    have hrest := ih (pass basic point w n)
    exact ⟨hpass.1.trans hrest.1, hpass.2.trans hrest.2⟩

/-- Where the label is passed, its point is put in place, and is written with the count so far or a
greater one. -/
lemma foldl_pass {label : List Nat} (basic : Nat) (hmem : point ∈ label) :
    w.placed + 1 ≤ (label.foldl (pass basic point) w).placed ∧
      (936 ≤ w.count → w.text.length + 3 ≤ (label.foldl (pass basic point) w).text.length) := by
  induction label generalizing w with
  | nil => exact absurd hmem List.not_mem_nil
  | cons n rest ih =>
    rw [List.foldl_cons]
    by_cases heq : n = point
    · have hrest := isBehind_foldl basic point rest (pass basic point w n)
      have hpass : pass basic point w n =
          ⟨w.text ++ writeCount w.bias 36 w.count, 0,
            adapt w.count (w.placed + 1) (w.placed = basic), w.placed + 1⟩ := by
        rw [pass, if_neg (by omega), if_pos heq]
      rw [hpass] at hrest ⊢
      refine ⟨hrest.2, fun hcount => Nat.le_trans ?_ hrest.1⟩
      dsimp only
      rw [List.length_append]
      exact Nat.add_le_add_left (three_le_length_writeCount hcount w.bias 36) _
    · have hrest : point ∈ rest := (List.mem_cons.mp hmem).resolve_left (Ne.symm heq)
      rw [pass]
      split_ifs
      · obtain ⟨hplaced, hlength⟩ := ih (w := { w with count := w.count + 1 }) hrest
        exact ⟨hplaced, fun hcount => hlength (Nat.le_succ_of_le hcount)⟩
      · exact ih hrest

end Writer

/-- Characters at a distance take three digits each, once fifteen are in place. -/
lemma length_writePoints {label : List Nat} (basic : Nat) {step : Nat} (hstep : 60 ≤ step)
    {first n next : Nat} {w : Writer} (hmem : ∀ p ∈ List.range' first n step, p ∈ label)
    (hnext : next + 59 ≤ first) :
    w.text.length + 3 * (n - (15 - w.placed)) ≤
      (writePoints label basic (List.range' first n step) next w).text.length := by
  induction n generalizing first next w with
  | zero => simp [writePoints]
  | succ n ih =>
    rw [List.range'_succ] at hmem ⊢
    obtain ⟨hfirst, hrest⟩ := List.forall_mem_cons.mp hmem
    rw [writePoints]
    generalize hreached : ({ w with count := w.count + (first - next) * (w.placed + 1) } : Writer) =
      reached
    have htext : reached.text.length = w.text.length := by rw [← hreached]
    have hplaced : reached.placed = w.placed := by rw [← hreached]
    have hcount : 15 ≤ w.placed → 936 ≤ reached.count := by
      intro h
      have hmul : 59 * 16 ≤ (first - next) * (w.placed + 1) :=
        Nat.mul_le_mul (by omega) (by omega)
      rw [← hreached]
      dsimp only
      omega
    obtain ⟨hnew, hlong⟩ := Writer.foldl_pass (w := reached) basic hfirst
    have hbehind := (Writer.isBehind_foldl basic first label reached).1
    have hfollows : first + 1 + 59 ≤ first + step := by omega
    have htail := ih (w := { label.foldl (Writer.pass basic first) reached with
      count := (label.foldl (Writer.pass basic first) reached).count + 1 }) hrest hfollows
    dsimp only at htail
    by_cases h : 15 ≤ w.placed
    · have := hlong (hcount h)
      omega
    · omega

/-- Numbers in ascending order are put in the order in which they are. -/
lemma foldr_insert_of_pairwise {ns : List Nat} (h : ns.Pairwise (· < ·)) :
    ns.foldr insert [] = ns := by
  induction ns with
  | nil => rfl
  | cons n ns ih =>
    obtain ⟨hn, hns⟩ := List.pairwise_cons.mp h
    rw [List.foldr_cons, ih hns]
    cases ns with
    | nil => rfl
    | cons m rest => rw [insert, if_pos (hn m List.mem_cons_self)]

/-- A label of characters at a distance is written in about three times as many digits. -/
theorem length_encode_range' {first n step : Nat} (hfirst : 200 ≤ first) (hstep : 60 ≤ step) :
    3 * (n - 15) ≤ (encode (List.range' first n step)).length := by
  have hwide : ∀ p ∈ List.range' first n step, firstPoint ≤ p := by
    intro p hp
    obtain ⟨i, -, rfl⟩ := List.mem_range'.mp hp
    exact Nat.le_add_right_of_le (Nat.le_trans (by decide) hfirst)
  have hbasic : (List.range' first n step).filter (· < firstPoint) = [] :=
    List.filter_eq_nil_iff.mpr fun p hp => by simpa using hwide p hp
  have hpoints : (List.range' first n step).filter (firstPoint ≤ ·) = List.range' first n step :=
    List.filter_eq_self.mpr fun p hp => decide_eq_true (hwide p hp)
  have hsorted : (List.range' first n step).Pairwise (· < ·) :=
    List.pairwise_lt_range' step (by omega)
  have hnext : firstPoint + 59 ≤ first := Nat.le_trans (by decide) hfirst
  have hall : ∀ p ∈ List.range' first n step, p ∈ List.range' first n step := fun _ hp => hp
  have hlength := length_writePoints 0 hstep (w := ⟨[], 0, firstBias, 0⟩) hall hnext
  unfold encode
  rw [hbasic, hpoints, foldr_insert_of_pairwise hsorted]
  simpa using hlength

end Punycode

/-! ### Labels of ideographs -/

/-- Whether a character is one of a range of ideographs. -/
def IsIdeograph (n : Nat) : Prop :=
  0x20000 ≤ n ∧ n ≤ 0x2A6DF

namespace IsIdeograph

variable {n : Nat} (h : IsIdeograph n)

include h

lemma isValid : IsValid n :=
  isValid_of_le 0x20000 0x2A6DF (by decide +kernel) h.1 h.2

lemma isInert : IsInert n :=
  isInert_of_plain (.inr h.1)

/-- An ideograph is found in no ranges that leave out all ideographs. -/
lemma contains_eq {ranges : Ranges}
    (hranges : (ranges.all fun r => r.2 < 0x20000 || 0x2A6DF < r.1) = true) :
    ranges.contains n = false := by
  rw [← Bool.not_eq_true]
  intro hcontains
  obtain ⟨r, hr, hfirst, hlast⟩ := Ranges.exists_of_contains hcontains
  have hout := List.all_eq_true.mp hranges r hr
  rw [Bool.or_eq_true, decide_eq_true_eq, decide_eq_true_eq] at hout
  have := h.1
  have := h.2
  omega

lemma image?_eq : image? n = some [n] := by
  have hwide : ¬ n < 128 := by
    have := h.1
    omega
  have hignored : ignoredRanges.contains n = false := h.contains_eq (by decide)
  have hvalid : validRanges.contains n = true := h.isValid
  rw [image?, if_neg hwide, hignored, hvalid]
  rfl

lemma isMark_eq : XoLedger.isMark n = false := by
  rw [XoLedger.isMark, h.contains_eq (by decide +kernel), h.contains_eq (by decide +kernel)]
  rfl

lemma direction_eq : direction n = .left := by
  have hall : ∀ r ∈ directionRanges, r.2.1 < 0x20000 ∨ 0x2A6DF < r.1 := by decide +kernel
  unfold direction
  split
  · rename_i first last way hfind
    have hout := hall _ (List.mem_of_find?_eq_some hfind)
    have hwithin := List.find?_some hfind
    simp only [Bool.and_eq_true, decide_eq_true_eq] at hwithin
    have := h.1
    have := h.2
    dsimp only at hout
    omega
  · rw [h.contains_eq (by decide +kernel)]
    rfl

end IsIdeograph

section Ideographs

variable {ns : List Nat} (h : ∀ n ∈ ns, IsIdeograph n)

include h

lemma toNat_map_ofNat_ideographs : (ns.map Char.ofNat).map (·.toNat) = ns :=
  toNat_map_ofNat fun n hn => (h n hn).isValid

/-- Ideographs stand for themselves. -/
lemma image_of_isIdeograph : image (ns.map Char.ofNat) = some ns := by
  have hparts : (ns.map Char.ofNat).mapM (fun c => image? c.toNat) =
      some (ns.map fun n => [n]) := by
    rw [Option.mapM_eq_some_iff, List.forall₂_map_left_iff, List.forall₂_map_right_iff,
      List.forall₂_same]
    intro n hn
    rw [Utf8.toNat_ofNat_scalar (h n hn).isValid.scalar, (h n hn).image?_eq]
  have hflat : (ns.map fun n => [n]).flatten = ns := by
    rw [← List.flatMap_def, List.flatMap_singleton']
  rw [image, hparts, Option.map_some, hflat, composed_of_isInert fun n hn => (h n hn).isInert]

lemma joinersFit_of_isIdeograph (before : List Nat) : joinersFit before ns = true := by
  induction ns generalizing before with
  | nil => rfl
  | cons n rest ih =>
    obtain ⟨hn, hrest⟩ := List.forall_mem_cons.mp h
    have := hn.1
    rw [joinersFit, ih hrest, if_neg (by omega), if_neg (by omega)]
    rfl

/-- A label of ideographs is put into ASCII, if it is not too long itself. -/
lemma read?_of_isIdeograph (hne : ns ≠ []) (hlength : ns.length ≤ Label.longest) :
    read? ns = some ⟨ns, asciiSign.map Char.ofNat ++ Punycode.encode ns⟩ := by
  obtain ⟨n, rest, rfl⟩ := List.exists_cons_of_ne_nil hne
  have hn : IsIdeograph n := h n List.mem_cons_self
  have hlow := hn.1
  have hsign : asciiSign.isPrefixOf (n :: rest) = false := by
    rw [← Bool.not_eq_true]
    intro hprefix
    obtain ⟨body, hbody⟩ := isPrefixOf_asciiSign_iff.mp hprefix
    have := (List.cons.inj hbody).1
    omega
  have hwide : isWide (n :: rest) = true :=
    List.any_eq_true.mpr ⟨n, List.mem_cons_self, decide_eq_true (by omega)⟩
  have hsound : isSound (n :: rest) = true := by
    rw [isSound, hsign, joinersFit_of_isIdeograph h, List.head?_cons, Option.any_some, hn.isMark_eq]
    rfl
  rw [read?, hsign, hwide, hsound]
  simpa using hlength

/-- **A label of ideographs** is a domain name, whatever it takes to write it in ASCII. -/
theorem toAscii_of_isIdeograph (hne : ns ≠ []) (hlength : ns.length ≤ Label.longest) :
    toAscii (Utf8.encodeChars (ns.map Char.ofNat)) =
      .ok (asciiSign.map Char.ofNat ++ Punycode.encode ns) := by
  have hdot : '.' ∉ ns.map Char.ofNat := by
    intro hmem
    have hpoint : '.'.toNat ∈ (ns.map Char.ofNat).map (·.toNat) := List.mem_map_of_mem hmem
    rw [toNat_map_ofNat_ideographs h] at hpoint
    exact absurd (h _ hpoint).1 (by decide)
  have hlabels : labels? (ns.map Char.ofNat) =
      some [⟨ns, asciiSign.map Char.ofNat ++ Punycode.encode ns⟩] := by
    rw [labels?, image_of_isIdeograph h]
    dsimp only
    rw [splitChars_of_sep_notMem hdot, List.mapM_cons, toNat_map_ofNat_ideographs h,
      read?_of_isIdeograph h hne hlength]
    rfl
  have hforbidden : (asciiSign.map Char.ofNat ++ Punycode.encode ns).any isForbidden = false := by
    have hpoints : ∀ n ∈ ns, Punycode.isPoint n = true := fun n hn => (h n hn).isValid.isPoint
    rw [List.any_append, Bool.or_eq_false_iff]
    refine ⟨by decide, List.any_eq_false.mpr fun c hc => ?_⟩
    rcases Punycode.mem_encode hpoints hc with ⟨n, hn, hlt, -⟩ | rfl | ⟨m, hm⟩
    · exact absurd ((h n hn).1.trans_lt hlt) (by decide)
    · decide
    · rw [(isPlain_of_value? hm).2]
      decide
  have hagree : directionsAgree [⟨ns, asciiSign.map Char.ofNat ++ Punycode.encode ns⟩] = true := by
    refine directionsAgree_of_hasRight (List.forall_mem_singleton.mpr ?_)
    rw [Label.hasRight, Label.directions, List.any_map, List.any_eq_false]
    intro n hn
    rw [Function.comp_apply, (h n hn).direction_eq]
    decide
  rw [toAscii_of_labels? hlabels, List.map_singleton, joinChars, hforbidden, hagree]
  rfl

/-- No dot stands in the ASCII form of such a label. -/
lemma dot_notMem_ascii : '.' ∉ asciiSign.map Char.ofNat ++ Punycode.encode ns := by
  have hdot : dot ∉ ns := fun hmem => absurd (h _ hmem).1 (by decide)
  rw [List.mem_append, not_or]
  refine ⟨by decide, fun hmem => ?_⟩
  exact (isPlain_of_mem_encode (fun n hn => (h n hn).isValid) hdot hmem).2.2 rfl

/-- Ideographs stay where they are in an authority, and are no marks. -/
lemma isInner_of_isIdeograph {c : Char} (hc : c ∈ ns.map Char.ofNat) :
    IsInner c ∧ c ∉ "%:@[]".toList := by
  have hpoint : c.toNat ∈ (ns.map Char.ofNat).map (·.toNat) := List.mem_map_of_mem hc
  rw [toNat_map_ofNat_ideographs h] at hpoint
  have hlow := (h _ hpoint).1
  have hne : ∀ d : Char, d.toNat < 128 → c ≠ d := by
    rintro d hd rfl
    omega
  have hascii : ∀ d ∈ "%:@[]".toList, d.toNat < 128 := by simp
  refine ⟨⟨decide_eq_false_iff_not.mpr (by omega), ?_⟩, fun hmem => hne c (hascii c hmem) rfl⟩
  simp only [endsAuthority, isSlash, Bool.true_and, Bool.or_eq_false_iff, decide_eq_false_iff_not]
  exact ⟨⟨⟨hne '/' (by decide), hne '\\' (by decide)⟩, hne '?' (by decide)⟩, hne '#' (by decide)⟩

/-- Ideographs are a host: the name that they are in ASCII. -/
theorem parseSpecial_of_isIdeograph (hne : ns ≠ []) (hlength : ns.length ≤ Label.longest) :
    Host.parseSpecial (ns.map Char.ofNat) =
      .ok (.name (asciiSign.map Char.ofNat ++ Punycode.encode ns)) := by
  rw [Host.parseSpecial_eq fun c hc => (isInner_of_isIdeograph h hc).2,
    toAscii_of_isIdeograph h hne hlength]
  exact Host.ofDomain_of_sign (dot_notMem_ascii h)

end Ideographs

/-! ### A label that is too long -/

/-- Seven hundred ideographs at a distance. -/
def distant : List Nat := List.range' 0x20000 700 61

lemma length_distant : distant.length = 700 := List.length_range'

lemma isIdeograph_of_mem_distant {n : Nat} (h : n ∈ distant) : IsIdeograph n := by
  obtain ⟨i, hi, rfl⟩ := List.mem_range'.mp h
  exact ⟨by omega, by omega⟩

/-- They are a label that can be written, but not read where it is written. -/
theorem not_isShort_distant :
    ¬ IsShort (asciiSign.map Char.ofNat ++ Punycode.encode distant) := by
  rw [isShort_asciiSign_append]
  have hlength : 3 * (700 - 15) ≤ (Punycode.encode distant).length :=
    Punycode.length_encode_range' (by decide) (by decide)
  have hlongest : Label.longestWritten = 2000 := rfl
  omega

end XoLedger.Url.Domain

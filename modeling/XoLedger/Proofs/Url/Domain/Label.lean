import XoLedger.Proofs.Text.Split
import XoLedger.Proofs.Url.Domain.Image
import XoLedger.Proofs.Url.Domain.Punycode
import XoLedger.Url.Domain

/-!
# Domain names in ASCII are read again as themselves

The ASCII form of a domain name is a domain name, and its ASCII form is itself. There is one
exception: a label of at most a thousand characters may be written in more than two thousand, and a
label that is written like that is not read (`toAscii_ascii`).
-/

namespace XoLedger.Url.Domain

open Label (read? readWritten? isWide isSound longestWritten)

/-! ### Plain characters -/

/-- A character that stands in a label in ASCII: an ASCII character that is no capital letter and
no dot. -/
def IsPlain (c : Char) : Prop :=
  c.toNat < 128 ∧ lowerAscii c = c ∧ c ≠ '.'

instance (c : Char) : Decidable (IsPlain c) :=
  inferInstanceAs (Decidable (_ ∧ _))

lemma lowerAscii_of_isValid : ∀ n < 128, IsValid n → lowerAscii (Char.ofNat n) = Char.ofNat n := by
  have hbits : ∀ n < 128, validRanges.mask.testBit n = true →
      lowerAscii (Char.ofNat n) = Char.ofNat n := by
    decide +kernel
  exact fun n hn hvalid => hbits n hn (isValid_iff_testBit.mp hvalid)

/-- Digits of counts are plain, and may stand in a name. -/
lemma isPlain_of_value? {c : Char} {n : Nat} (h : Punycode.value? c = some n) :
    IsPlain c ∧ isForbidden c = false := by
  have hascii : ∀ m < 128, (Punycode.value? (Char.ofNat m)).isSome = true →
      IsPlain (Char.ofNat m) ∧ isForbidden (Char.ofNat m) = false := by
    decide
  have hlt : c.toNat < 128 := by
    unfold Punycode.value? at h
    split_ifs at h with hletter hdigit
    · have : c.toNat ≤ 'z'.toNat := hletter.2
      exact Nat.lt_of_le_of_lt this (by decide)
    · have : c.toNat ≤ '9'.toNat := hdigit.2
      exact Nat.lt_of_le_of_lt this (by decide)
  have hc := hascii c.toNat hlt
  rw [Char.ofNat_toNat, h] at hc
  exact hc rfl

lemma IsValid.isPoint {n : Nat} (h : IsValid n) : Punycode.isPoint n = true := by
  simpa [Punycode.isPoint] using h.scalar

/-- The code points of characters that are given by them. -/
lemma toNat_map_ofNat {ns : List Nat} (h : ∀ n ∈ ns, IsValid n) :
    (ns.map Char.ofNat).map (·.toNat) = ns := by
  rw [List.map_map]
  exact (List.map_congr_left fun n hn => Utf8.toNat_ofNat_scalar (h n hn).scalar).trans
    (List.map_id _)

lemma ofNat_map_toNat (cs : List Char) : (cs.map (·.toNat)).map Char.ofNat = cs := by
  rw [List.map_map]
  exact (List.map_congr_left fun c _ => Char.ofNat_toNat c).trans (List.map_id _)

/-- ASCII characters are their own image, but for capital letters. -/
lemma image_of_isPlain {cs : List Char} (h : ∀ c ∈ cs, c = '.' ∨ IsPlain c) :
    image cs = some (cs.map (·.toNat)) := by
  have hlow : ∀ c ∈ cs, c.toNat < 128 ∧ lowerAscii c = c := by
    intro c hc
    rcases h c hc with rfl | hplain
    · decide
    · exact ⟨hplain.1, hplain.2.1⟩
  have hparts : cs.mapM (fun c => image? c.toNat) = some (cs.map fun c => [c.toNat]) := by
    rw [Option.mapM_eq_some_iff, List.forall₂_map_right_iff, List.forall₂_same]
    intro c hc
    rw [image?, if_pos (hlow c hc).1, Char.ofNat_toNat, (hlow c hc).2]
  have hflat : (cs.map fun c => [c.toNat]).flatten = cs.map (·.toNat) := by
    rw [← List.flatMap_def, ← List.map_eq_flatMap]
  rw [image, hparts, Option.map_some, hflat, composed_of_isInert]
  intro n hn
  obtain ⟨c, hc, rfl⟩ := List.mem_map.mp hn
  exact isInert_of_plain (.inl (hlow c hc).1)

/-! ### Labels -/

/-- Whether a label in ASCII is not too long to be read. -/
def IsShort (cs : List Char) : Prop :=
  ∀ body, cs = asciiSign.map Char.ofNat ++ body → body.length ≤ longestWritten

lemma isShort_iff {cs : List Char} : IsShort cs ↔
    (asciiSign.map Char.ofNat <+: cs → cs.length ≤ asciiSign.length + longestWritten) := by
  constructor
  · rintro h ⟨body, rfl⟩
    rw [List.length_append, List.length_map]
    exact Nat.add_le_add_left (h body rfl) _
  · rintro h body rfl
    have := h (List.prefix_append _ _)
    rw [List.length_append, List.length_map] at this
    exact Nat.le_of_add_le_add_left this

instance : DecidablePred IsShort := fun _ => decidable_of_iff' _ isShort_iff

/-- Where a mark stands for the first time is one place. -/
lemma append_cons_inj {m : Nat} {before before' after after' : List Nat} (h : m ∉ before)
    (h' : m ∉ before') (heq : before ++ m :: after = before' ++ m :: after') :
    before = before' ∧ after = after' := by
  induction before generalizing before' with
  | nil =>
    cases before' with
    | nil => exact ⟨rfl, (List.cons.inj heq).2⟩
    | cons n rest =>
      exact absurd (List.cons.inj heq).1 (ne_of_mem_of_not_mem List.mem_cons_self h').symm
  | cons n rest ih =>
    cases before' with
    | nil => exact absurd (List.cons.inj heq).1.symm (ne_of_mem_of_not_mem List.mem_cons_self h).symm
    | cons n' rest' =>
      rw [List.cons_append, List.cons_append, List.cons.injEq] at heq
      obtain ⟨rfl, heq⟩ := heq
      obtain ⟨rfl, hafter⟩ := ih (fun hm => h (.tail n hm)) (fun hm => h' (.tail n hm)) heq
      exact ⟨rfl, hafter⟩

/-- A text that is composed is composed between its dots. -/
lemma composed_of_mem_splitChars {cs : List Char}
    (h : composed (cs.map (·.toNat)) = cs.map (·.toNat)) :
    ∀ part ∈ splitChars '.' cs, composed (part.map (·.toNat)) = part.map (·.toNat) := by
  induction hlength : cs.length using Nat.strong_induction_on generalizing cs with
  | _ length ih =>
    by_cases hdot : '.' ∈ cs
    · obtain ⟨before, after, rfl, hbefore⟩ := List.eq_append_cons_of_mem hdot
      have hnot : dot ∉ before.map (·.toNat) := by
        intro hmem
        obtain ⟨c, hc, heq⟩ := List.mem_map.mp hmem
        obtain rfl : c = '.' := by rw [← Char.ofNat_toNat c, heq]; rfl
        exact hbefore hc
      rw [List.map_append, List.map_cons] at h
      obtain ⟨hfirst, hsecond⟩ := append_cons_inj
        (by rwa [mem_composed_iff_of_low (by decide)]) hnot ((composed_append_dot _ _).symm.trans h)
      intro part hpart
      rw [splitChars_append_sep, splitChars_of_sep_notMem hbefore, List.mem_append,
        List.mem_singleton] at hpart
      rcases hpart with rfl | hpart
      · exact hfirst
      · refine ih after.length ?_ hsecond rfl part hpart
        rw [← hlength, List.length_append, List.length_cons]
        omega
    · rw [splitChars_of_sep_notMem hdot]
      simpa using h

section Label

variable {ns : List Nat} {label : Label}

lemma isPrefixOf_asciiSign_iff :
    asciiSign.isPrefixOf ns = true ↔ ∃ body, ns = asciiSign ++ body := by
  rw [List.isPrefixOf_iff_prefix]
  exact exists_congr fun body => eq_comm

lemma isPlain_ofNat {n : Nat} (hvalid : IsValid n) (hlt : n < 128) (hdot : n ≠ dot) :
    IsPlain (Char.ofNat n) := by
  have htoNat : (Char.ofNat n).toNat = n := Utf8.toNat_ofNat_scalar (.inl (by omega))
  refine ⟨by rwa [htoNat], lowerAscii_of_isValid n hlt hvalid, fun heq => hdot ?_⟩
  rw [← htoNat, heq]
  rfl

/-- A label that is written in ASCII is written in plain characters. -/
lemma isPlain_of_mem_encode (hvalid : ∀ n ∈ ns, IsValid n) (hdot : dot ∉ ns) {c : Char}
    (hc : c ∈ Punycode.encode ns) : IsPlain c := by
  have hpoints : ∀ n ∈ ns, Punycode.isPoint n = true := fun n hn => (hvalid n hn).isPoint
  rcases Punycode.mem_encode hpoints hc with ⟨n, hn, hlt, rfl⟩ | rfl | ⟨n, hn⟩
  · exact isPlain_ofNat (hvalid n hn) hlt (ne_of_mem_of_not_mem hn hdot)
  · decide
  · exact (isPlain_of_value? hn).1

/-- A label that is written behind the sign is read if it is short enough. -/
lemma readWritten?_encode (hvalid : ∀ n ∈ ns, IsValid n) (hdot : dot ∉ ns)
    (hcomposed : composed ns = ns) (hsound : isSound ns = true) {n : Nat} (hn : n ∈ ns)
    (hwide : 128 ≤ n) :
    readWritten? (asciiSign ++ (Punycode.encode ns).map (·.toNat)) =
      if longestWritten < (Punycode.encode ns).length then none
      else some ⟨ns, asciiSign.map Char.ofNat ++ Punycode.encode ns⟩ := by
  have hpoints : ∀ n ∈ ns, Punycode.isPoint n = true := fun n hn => (hvalid n hn).isPoint
  obtain ⟨c, m, hlast, hc⟩ := Punycode.exists_getLast?_encode hpoints hn hwide
  have hnarrow : isWide ((Punycode.encode ns).map (·.toNat)) = false := by
    rw [isWide, List.any_map, List.any_eq_false]
    intro c hc
    have := (isPlain_of_mem_encode hvalid hdot hc).1
    simpa using this
  have hend : ((Punycode.encode ns).map (·.toNat)).getLast? ≠ some 45 := by
    rw [List.getLast?_map, hlast]
    rintro heq
    have hhyphen : c.toNat = 45 := Option.some.inj heq
    obtain rfl : c = '-' := by rw [← Char.ofNat_toNat c, hhyphen]
    cases hc
  have hne : (Punycode.encode ns).map (·.toNat) ≠ [] := by
    intro hempty
    rw [List.map_eq_nil_iff] at hempty
    simp [hempty] at hlast
  have hall : ns.all validRanges.contains = true := List.all_eq_true.mpr hvalid
  simp only [readWritten?, List.drop_left, ofNat_map_toNat, Punycode.decode?_encode hpoints,
    hnarrow, hne, hend, hall, hcomposed, hsound, List.length_map, List.map_append]
  simp

lemma isShort_asciiSign_append (cs : List Char) :
    IsShort (asciiSign.map Char.ofNat ++ cs) ↔ cs.length ≤ longestWritten := by
  constructor
  · exact fun h => h cs rfl
  · intro h body hbody
    rwa [← List.append_cancel_left hbody]

/-- A label that is read is ASCII as it is, or is the label that is written behind the sign. -/
lemma read?_cases (hvalid : ∀ n ∈ ns, IsValid n) (h : read? ns = some label) :
    label.ascii = ns.map Char.ofNat ∧ (∀ n ∈ ns, n < 128) ∧ IsShort label.ascii ∨
      isSound ns = true ∧ (∃ n ∈ ns, 128 ≤ n) ∧
        label = ⟨ns, asciiSign.map Char.ofNat ++ Punycode.encode ns⟩ := by
  unfold read? at h
  split_ifs at h with hsign hwide hsound
  · obtain ⟨body, rfl⟩ := isPrefixOf_asciiSign_iff.mp hsign
    unfold readWritten? at h
    rw [List.drop_left] at h
    dsimp only at h
    split at h
    · cases h
    · rename_i hbody
      simp only [Bool.or_eq_true, decide_eq_true_eq, not_or, Bool.not_eq_true] at hbody
      obtain ⟨⟨⟨hnarrow, -⟩, -⟩, hshort⟩ := hbody
      have hlow : ∀ n ∈ asciiSign ++ body, n < 128 := by
        rw [isWide, List.any_eq_false] at hnarrow
        refine List.forall_mem_append.mpr ⟨by decide, fun n hn => ?_⟩
        simpa using hnarrow n hn
      split at h
      · cases h
      · split_ifs at h
        cases h
        refine .inl ⟨rfl, hlow, ?_⟩
        rw [List.map_append, isShort_asciiSign_append, List.length_map]
        exact Nat.le_of_not_lt hshort
  · obtain rfl := Option.some.inj h
    have hlow : ∀ n ∈ ns, n < 128 := by
      rw [Bool.not_eq_true', isWide, List.any_eq_false] at hwide
      intro n hn
      simpa using hwide n hn
    refine .inl ⟨rfl, hlow, fun body hbody => absurd ?_ hsign⟩
    refine isPrefixOf_asciiSign_iff.mpr ⟨body.map (·.toNat), ?_⟩
    have hns := toNat_map_ofNat hvalid
    have hjoin : ns.map Char.ofNat = asciiSign.map Char.ofNat ++ body := hbody
    rw [hjoin, List.map_append] at hns
    exact hns.symm
  · obtain rfl := Option.some.inj h
    refine .inr ⟨(Bool.and_eq_true_iff.mp hsound).1, ?_, rfl⟩
    simpa [isWide] using hwide

/-- The ASCII form of a label holds plain characters. -/
lemma isPlain_of_mem_ascii (hvalid : ∀ n ∈ ns, IsValid n) (hdot : dot ∉ ns)
    (h : read? ns = some label) {c : Char} (hc : c ∈ label.ascii) : IsPlain c := by
  rcases read?_cases hvalid h with ⟨hascii, hlow, -⟩ | ⟨-, -, rfl⟩
  · rw [hascii] at hc
    obtain ⟨n, hn, rfl⟩ := List.mem_map.mp hc
    exact isPlain_ofNat (hvalid n hn) (hlow n hn) (ne_of_mem_of_not_mem hn hdot)
  · rcases List.mem_append.mp hc with hc | hc
    · exact List.forall_mem_map.mpr (by decide) c hc
    · exact isPlain_of_mem_encode hvalid hdot hc

/-- The ASCII form of a label is read as the label, if it is short enough to be read. -/
lemma read?_ascii (hvalid : ∀ n ∈ ns, IsValid n) (hdot : dot ∉ ns) (hcomposed : composed ns = ns)
    (h : read? ns = some label) :
    (IsShort label.ascii → read? (label.ascii.map (·.toNat)) = some label) ∧
      (¬ IsShort label.ascii → read? (label.ascii.map (·.toNat)) = none) := by
  rcases read?_cases hvalid h with ⟨hascii, -, hshort⟩ | ⟨hsound, ⟨n, hn, hwide⟩, rfl⟩
  · rw [hascii, toNat_map_ofNat hvalid]
    exact ⟨fun _ => h, fun hlong => absurd (hascii ▸ hshort) hlong⟩
  · have hprefix : asciiSign.isPrefixOf
        (asciiSign ++ (Punycode.encode ns).map (·.toNat)) = true :=
      isPrefixOf_asciiSign_iff.mpr ⟨_, rfl⟩
    have hread := readWritten?_encode hvalid hdot hcomposed hsound hn hwide
    dsimp only
    rw [isShort_asciiSign_append, List.map_append]
    have hsign : (asciiSign.map Char.ofNat).map (·.toNat) = asciiSign := rfl
    rw [hsign, read?, if_pos hprefix, hread]
    exact ⟨fun hshort => if_neg (Nat.not_lt.mpr hshort),
      fun hlong => if_pos (Nat.lt_of_not_le hlong)⟩

end Label

/-! ### Names -/

/-- A label that is read off a part of a composed text of valid characters. -/
def IsReadOff (label : Label) : Prop :=
  ∃ ns, (∀ n ∈ ns, IsValid n) ∧ dot ∉ ns ∧ composed ns = ns ∧ read? ns = some label

section ReadOff

variable {label : Label} (h : IsReadOff label)

include h

lemma IsReadOff.isPlain : ∀ c ∈ label.ascii, IsPlain c := by
  obtain ⟨ns, hvalid, hdot, -, hns⟩ := h
  exact fun c hc => isPlain_of_mem_ascii hvalid hdot hns hc

/-- It is read off its ASCII form, too, if that is short enough. -/
lemma IsReadOff.read?_ascii :
    (IsShort label.ascii → read? (label.ascii.map (·.toNat)) = some label) ∧
      (¬ IsShort label.ascii → read? (label.ascii.map (·.toNat)) = none) := by
  obtain ⟨ns, hvalid, hdot, hcomposed, hns⟩ := h
  exact Domain.read?_ascii hvalid hdot hcomposed hns

end ReadOff

/-- Labels without a character that is written from the right agree. -/
lemma directionsAgree_of_hasRight {labels : List Label}
    (h : ∀ label ∈ labels, label.hasRight = false) : directionsAgree labels = true := by
  have hright : labels.any Label.hasRight = false := by
    rw [List.any_eq_false]
    exact fun label hlabel => Bool.eq_false_iff.mp (h label hlabel)
  rw [directionsAgree, hright]
  rfl

/-- A text whose labels are read is put into ASCII, unless something forbidden stands there. -/
lemma toAscii_of_labels? {cs : List Char} {labels : List Label} (h : labels? cs = some labels) :
    toAscii (Utf8.encodeChars cs) =
      if (joinChars '.' (labels.map Label.ascii)).any isForbidden || !directionsAgree labels
      then .error .badDomain else .ok (joinChars '.' (labels.map Label.ascii)) := by
  simp only [toAscii, Utf8.decodeChars, Utf8.decodeFrom_encodeChars, h]

lemma toAscii_of_labels?_eq_none {cs : List Char} (h : labels? cs = none) :
    toAscii (Utf8.encodeChars cs) = .error .badDomain := by
  simp only [toAscii, Utf8.decodeChars, Utf8.decodeFrom_encodeChars, h]

/-- A name is put into ASCII label by label. -/
lemma exists_labels {octets : Bytes} {ascii : List Char} (h : toAscii octets = .ok ascii) :
    ∃ labels : List Label, labels ≠ [] ∧ (∀ label ∈ labels, IsReadOff label) ∧
      ascii = joinChars '.' (labels.map Label.ascii) ∧
      (ascii.any isForbidden || !directionsAgree labels) = false := by
  unfold toAscii at h
  split at h
  · cases h
  · split at h
    · cases h
    · rename_i cs _ labels hlabels
      dsimp only at h
      split at h
      · cases h
      rename_i hgood
      obtain rfl := Except.ok.inj h
      refine ⟨labels, ?_, ?_, rfl, Bool.eq_false_iff.mpr hgood⟩
      all_goals
        unfold labels? at hlabels
        split at hlabels
        · cases hlabels
        rename_i ns himage
      · rintro rfl
        have hlength := (Option.mapM_eq_some_iff.mp hlabels).length_eq
        exact splitChars_ne_nil _ _ (List.length_eq_zero_iff.mp hlength)
      · obtain ⟨hvalid, hcomposed⟩ := isValid_of_image himage
        intro label hlabel
        obtain ⟨part, hpart, hread⟩ := Option.exists_of_mem_mapM hlabels hlabel
        refine ⟨part.map (·.toNat), ?_, ?_, ?_, hread⟩
        · intro n hn
          obtain ⟨c, hc, rfl⟩ := List.mem_map.mp hn
          rw [← toNat_map_ofNat hvalid] at hvalid
          exact hvalid _ (List.mem_map_of_mem (mem_of_mem_splitChars hpart hc))
        · intro hmem
          obtain ⟨c, hc, hdot⟩ := List.mem_map.mp hmem
          obtain rfl : c = '.' := by
            rw [← Char.ofNat_toNat c, hdot]
            rfl
          exact sep_notMem_of_mem_splitChars hpart hc
        · rw [← toNat_map_ofNat hvalid] at hcomposed
          exact composed_of_mem_splitChars hcomposed part hpart

/-- No forbidden character stands in the ASCII form of a name. -/
lemma isForbidden_of_mem {octets : Bytes} {ascii : List Char} (h : toAscii octets = .ok ascii)
    {c : Char} (hc : c ∈ ascii) : isForbidden c = false := by
  obtain ⟨labels, -, -, -, hgood⟩ := exists_labels h
  rw [Bool.or_eq_false_iff, List.any_eq_false] at hgood
  exact Bool.eq_false_iff.mpr (hgood.1 c hc)

/-- **The ASCII form of a domain name** is read as itself, if none of its labels is too long, and
else it is no domain name. -/
theorem toAscii_ascii {octets : Bytes} {ascii : List Char} (h : toAscii octets = .ok ascii) :
    ((∀ part ∈ splitChars '.' ascii, IsShort part) →
        toAscii (Utf8.encodeChars ascii) = .ok ascii) ∧
      ((∃ part ∈ splitChars '.' ascii, ¬ IsShort part) →
        toAscii (Utf8.encodeChars ascii) = .error .badDomain) := by
  obtain ⟨labels, hne, hread, hascii, hgood⟩ := exists_labels h
  have hparts : splitChars '.' ascii = labels.map Label.ascii := by
    rw [hascii]
    refine splitChars_joinChars (by simpa using hne) ?_
    rintro _ hpart hmem
    obtain ⟨label, hlabel, rfl⟩ := List.mem_map.mp hpart
    exact ((hread label hlabel).isPlain _ hmem).2.2 rfl
  have himage : image ascii = some (ascii.map (·.toNat)) := by
    refine image_of_isPlain fun c hc => or_iff_not_imp_left.mpr fun hdot => ?_
    rw [hascii, mem_joinChars_iff hdot] at hc
    obtain ⟨_, hpart, hc⟩ := hc
    obtain ⟨label, hlabel, rfl⟩ := List.mem_map.mp hpart
    exact (hread label hlabel).isPlain c hc
  have hlabels : labels? ascii =
      (labels.map Label.ascii).mapM fun part => read? (part.map (·.toNat)) := by
    rw [labels?, himage]
    dsimp only
    rw [ofNat_map_toNat, hparts]
  rw [hparts]
  constructor
  · intro hshort
    have hall : ((labels.map Label.ascii).mapM fun part => read? (part.map (·.toNat))) =
        some labels := by
      rw [Option.mapM_eq_some_iff, List.forall₂_map_left_iff, List.forall₂_same]
      exact fun label hlabel =>
        (hread label hlabel).read?_ascii.1 (hshort _ (List.mem_map_of_mem hlabel))
    rw [toAscii_of_labels? (hlabels.trans hall), ← hascii, hgood]
    rfl
  · rintro ⟨_, hpart, hlong⟩
    obtain ⟨label, hlabel, rfl⟩ := List.mem_map.mp hpart
    have hnone := (hread label hlabel).read?_ascii.2 hlong
    have hall : ((labels.map Label.ascii).mapM fun part => read? (part.map (·.toNat))) = none := by
      rw [Option.eq_none_iff_forall_ne_some]
      intro labels' hlabels'
      obtain ⟨label', -, hlabel'⟩ := Option.exists_of_mapM hlabels' hpart
      rw [hnone] at hlabel'
      cases hlabel'
    exact toAscii_of_labels?_eq_none (hlabels.trans hall)

/-! ### Digits -/

/-- What makes digits a label: they are plain, allowed, and have no direction. -/
lemma isPlain_of_isDigit {c : Char} (h : c.isDigit = true) :
    IsPlain c ∧ isForbidden c = false ∧ direction c.toNat = .europeanNumber := by
  have hall : ∀ n < 128, (Char.ofNat n).isDigit = true →
      IsPlain (Char.ofNat n) ∧ isForbidden (Char.ofNat n) = false ∧
        direction n = .europeanNumber := by
    decide
  have hlt : c.toNat < 128 := by
    rw [Char.isDigit, Bool.and_eq_true, decide_eq_true_eq, decide_eq_true_eq] at h
    have : c.toNat ≤ 57 := h.2
    omega
  have := hall c.toNat hlt
  rw [Char.ofNat_toNat] at this
  exact this h

/-- Digits are a label that is written as it is. -/
lemma read?_of_isDigit {part : List Char} (h : ∀ c ∈ part, c.isDigit = true) :
    read? (part.map (·.toNat)) = some ⟨part.map (·.toNat), part⟩ := by
  have hsign : ¬ asciiSign.isPrefixOf (part.map (·.toNat)) = true := by
    intro hprefix
    obtain ⟨body, hbody⟩ := isPrefixOf_asciiSign_iff.mp hprefix
    have hx : 120 ∈ part.map (·.toNat) := by
      rw [hbody]
      exact List.mem_cons_self
    obtain ⟨c, hc, hcode⟩ := List.mem_map.mp hx
    have hdigit := h c hc
    rw [← Char.ofNat_toNat c, hcode] at hdigit
    exact absurd hdigit (by decide)
  have hnarrow : isWide (part.map (·.toNat)) = false := by
    rw [isWide, List.any_map, List.any_eq_false]
    intro c hc
    have := (isPlain_of_isDigit (h c hc)).1.1
    simpa using this
  rw [read?, if_neg hsign, hnarrow, ofNat_map_toNat]
  rfl

/-- Numbers with dots between them are a domain name in ASCII. -/
lemma toAscii_of_isDigit {cs : List Char} (h : ∀ c ∈ cs, c = '.' ∨ c.isDigit = true) :
    toAscii (Utf8.encodeChars cs) = .ok cs := by
  have hparts : ∀ part ∈ splitChars '.' cs, ∀ c ∈ part, c.isDigit = true := fun part hpart c hc =>
    (h c (mem_of_mem_splitChars hpart hc)).resolve_left
      (ne_of_mem_of_not_mem hc (sep_notMem_of_mem_splitChars hpart))
  have himage : image cs = some (cs.map (·.toNat)) :=
    image_of_isPlain fun c hc => (h c hc).imp_right fun hdigit => (isPlain_of_isDigit hdigit).1
  have hlabels : labels? cs =
      some ((splitChars '.' cs).map fun part => ⟨part.map (·.toNat), part⟩) := by
    rw [labels?, himage]
    dsimp only
    rw [ofNat_map_toNat, Option.mapM_eq_some_iff, List.forall₂_map_right_iff, List.forall₂_same]
    exact fun part hpart => read?_of_isDigit (hparts part hpart)
  have hforbidden : cs.any isForbidden = false := by
    rw [List.any_eq_false]
    intro c hc
    rcases h c hc with rfl | hdigit
    · decide
    · rw [(isPlain_of_isDigit hdigit).2.1]
      decide
  have hagree : directionsAgree
      ((splitChars '.' cs).map fun part => ⟨part.map (·.toNat), part⟩) = true := by
    refine directionsAgree_of_hasRight (List.forall_mem_map.mpr fun part hpart => ?_)
    rw [Label.hasRight, Label.directions, List.map_map, List.any_map, List.any_eq_false]
    intro c hc
    rw [Function.comp_apply, Function.comp_apply,
      (isPlain_of_isDigit (hparts part hpart c hc)).2.2]
    decide
  have hjoin : ((splitChars '.' cs).map fun part =>
      (⟨part.map (·.toNat), part⟩ : Label)).map Label.ascii = splitChars '.' cs := by
    rw [List.map_map]
    exact List.map_id _
  rw [toAscii_of_labels? hlabels, hjoin, joinChars_splitChars, hforbidden, hagree]
  rfl

end XoLedger.Url.Domain

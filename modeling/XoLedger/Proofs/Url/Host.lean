import Mathlib.Data.List.TakeWhile
import Mathlib.Tactic.Lemma
import XoLedger.Proofs.Url.Domain.Label
import XoLedger.Proofs.Url.Ipv4
import XoLedger.Proofs.Url.Ipv6
import XoLedger.Proofs.Url.Percent
import XoLedger.Url.Parse

/-!
# Written hosts are read as themselves

A host that is read under a special scheme is an address or a name in ASCII. What is written for it
is read as the host again: an address always is, and a name is if none of its labels is too long.
No character of a written host ends it, so it is found again where it stands before a port.
-/

namespace XoLedger.Url

/-- Whether a character stays where it is in an authority: it is not dropped, and ends nothing. -/
def IsInner (c : Char) : Prop :=
  isEdge c = false ∧ endsAuthority true c = false

instance (c : Char) : Decidable (IsInner c) :=
  inferInstanceAs (Decidable (_ ∧ _))

namespace Host

/-! ### What is read -/

/-- A host under a special scheme. -/
inductive IsProper : Host → Prop where
  /-- A name in ASCII that does not end in a number. -/
  | name {octets : Bytes} {cs : List Char} (hascii : Domain.toAscii octets = .ok cs) (hne : cs ≠ [])
    (hnumber : Ipv4.endsInNumber cs = false) : IsProper (.name cs)
  /-- An address of 32 bits. -/
  | ipv4 {address : Nat} (h : address < 2 ^ 32) : IsProper (.ipv4 address)
  /-- An address of eight pieces. -/
  | ipv6 {pieces : List Nat} (h : Ipv6.IsAddress pieces) : IsProper (.ipv6 pieces)

/-- Whether a host is read where it is written: no label of its name is too long. -/
def IsReadable : Host → Prop
  | name cs => ∀ part ∈ splitChars '.' cs, Domain.IsShort part
  | ipv4 _ | ipv6 _ => True

instance : DecidablePred IsReadable
  | name cs => inferInstanceAs (Decidable (∀ part ∈ splitChars '.' cs, Domain.IsShort part))
  | ipv4 _ | ipv6 _ => isTrue trivial

/-- What is read under a special scheme is a host under one. -/
theorem isProper_of_parseSpecial {cs : List Char} {host : Host} (h : parseSpecial cs = .ok host) :
    host.IsProper := by
  unfold parseSpecial at h
  split at h
  · rw [parseBracketed] at h
    split_ifs at h
    split at h
    · rename_i pieces hpieces
      cases h
      exact .ipv6 (Ipv6.isAddress_of_parse? hpieces)
    · cases h
  · obtain ⟨ascii, hascii, h⟩ := Except.bind_eq_ok_iff.mp h
    rw [ofDomain] at h
    split_ifs at h with hempty hnumber
    · split at h
      · rename_i address haddress
        cases h
        exact .ipv4 (Ipv4.lt_of_parse? haddress)
      · cases h
    · cases h
      exact .name hascii hempty (Bool.not_eq_true _ ▸ hnumber)

/-! ### What is written -/

lemma isInner_of_not_isForbidden {c : Char} (h : Domain.isForbidden c = false) :
    IsInner c ∧ c ∉ "%:@[]".toList := by
  simp only [Domain.isForbidden, Bool.or_eq_false_iff, decide_eq_false_iff_not] at h
  obtain ⟨⟨hedge, -⟩, hmarks⟩ := h
  have hne : ∀ d ∈ "%#/:<>?@[\\]^|".toList, c ≠ d := by
    rintro d hd rfl
    rw [List.contains_iff_mem.mpr hd] at hmarks
    cases hmarks
  refine ⟨⟨decide_eq_false_iff_not.mpr hedge, ?_⟩, fun hmem => ?_⟩
  · simp only [endsAuthority, isSlash, Bool.true_and, Bool.or_eq_false_iff, decide_eq_false_iff_not]
    exact ⟨⟨⟨hne '/' (by decide), hne '\\' (by decide)⟩, hne '?' (by decide)⟩, hne '#' (by decide)⟩
  · have hsub : ∀ d ∈ "%:@[]".toList, d ∈ "%#/:<>?@[\\]^|".toList := by simp
    exact hne c (hsub c hmem) rfl

lemma isInner_of_isHexDigit {c : Char} (h : c = ':' ∨ Ipv6.isHexDigit c = true) :
    IsInner c ∧ c ∉ "@[]".toList := by
  have hall : ∀ n < 128, Char.ofNat n = ':' ∨ Ipv6.isHexDigit (Char.ofNat n) = true →
      IsInner (Char.ofNat n) ∧ Char.ofNat n ∉ "@[]".toList := by
    decide
  have hlt : c.toNat < 128 := by
    rcases h with rfl | h
    · decide
    · rw [Ipv6.isHexDigit, decide_eq_true_eq, Ipv4.digitValue] at h
      have hle : ∀ d : Char, c ≤ d → c.toNat ≤ d.toNat := fun _ hcd => hcd
      split_ifs at h with hdigit hsmall hlarge
      · exact Nat.lt_of_le_of_lt (hle _ hdigit.2) (by decide)
      · exact Nat.lt_of_le_of_lt (hle _ hsmall.2) (by decide)
      · exact Nat.lt_of_le_of_lt (hle _ hlarge.2) (by decide)
      · exact absurd h (by decide)
  have := hall c.toNat hlt
  rw [Char.ofNat_toNat] at this
  exact this h

lemma isInner_of_isDigit {c : Char} (h : c = '.' ∨ c.isDigit = true) :
    IsInner c ∧ c ∉ "%:@[]".toList := by
  rcases h with rfl | h
  · decide
  · exact isInner_of_not_isForbidden (Domain.isPlain_of_isDigit h).2.1

namespace IsProper

variable {host : Host} (h : host.IsProper)

include h

lemma text_ne_nil : host.text ≠ [] := by
  cases h with
  | name _ hne _ => exact hne
  | ipv4 _ =>
    rw [text, Ipv4.toList_text]
    simp [Ipv4.octets, joinChars]
  | ipv6 _ => exact List.cons_ne_nil _ _

/-- What is written for a host stays in an authority, and holds no at sign. -/
lemma isInner_of_mem_text {c : Char} (hc : c ∈ host.text) : IsInner c ∧ c ≠ '@' := by
  have hat : ∀ {marks : String}, '@' ∈ marks.toList → c ∉ marks.toList → c ≠ '@' := by
    rintro marks hmem hnot rfl
    exact hnot hmem
  cases h with
  | name hascii _ _ =>
    obtain ⟨hinner, hnot⟩ := isInner_of_not_isForbidden (Domain.isForbidden_of_mem hascii hc)
    exact ⟨hinner, hat (by decide) hnot⟩
  | ipv4 _ =>
    obtain ⟨hinner, hnot⟩ := isInner_of_isDigit (Ipv4.mem_text hc)
    exact ⟨hinner, hat (by decide) hnot⟩
  | ipv6 _ =>
    rw [text, List.cons_append, List.mem_cons, List.mem_append, List.mem_singleton] at hc
    rcases hc with rfl | hc | rfl
    · decide
    · obtain ⟨hinner, hnot⟩ := isInner_of_isHexDigit (Ipv6.mem_text hc)
      exact ⟨hinner, hat (by decide) hnot⟩
    · decide

end IsProper

/-! ### A host before a port -/

/-- Whether a text is no port or a colon and a port. -/
def IsPortText (cs : List Char) : Prop :=
  cs = [] ∨ ∃ digits, cs = ':' :: digits

lemma splitHost_port {port : List Char} (h : IsPortText port) :
    splitHost false port = ([], port) := by
  rcases h with rfl | ⟨digits, rfl⟩
  · rfl
  · rw [splitHost, if_pos (by decide)]

/-- A host without brackets ends at the first colon. -/
lemma splitHost_of_notMem {cs port : List Char} (hcs : ∀ c ∈ cs, c ∉ "%:@[]".toList)
    (hport : IsPortText port) : splitHost false (cs ++ port) = (cs, port) := by
  induction cs with
  | nil => exact splitHost_port hport
  | cons c cs ih =>
    obtain ⟨hc, hcs⟩ := List.forall_mem_cons.mp hcs
    have hcolon : c ≠ ':' := by
      rintro rfl
      exact hc (by decide)
    have hopen : c ≠ '[' := by
      rintro rfl
      exact hc (by decide)
    rw [List.cons_append, splitHost, if_neg fun h => hcolon h.1]
    simp [hopen, ih hcs]

/-- A host in brackets ends where they are closed. -/
lemma splitHost_brackets {cs port : List Char} (hcs : ']' ∉ cs) (hport : IsPortText port) :
    splitHost true (cs ++ ']' :: port) = (cs ++ [']'], port) := by
  induction cs with
  | nil =>
    rw [List.nil_append, splitHost, if_neg (by decide)]
    simp [splitHost_port hport]
  | cons c cs ih =>
    rw [List.mem_cons, not_or] at hcs
    rw [List.cons_append, splitHost, if_neg (by simp)]
    simp [Ne.symm hcs.1, ih hcs.2]

namespace IsProper

variable {host : Host} (h : host.IsProper)

include h

/-- A written host is found before a port. -/
lemma splitHost_text {port : List Char} (hport : IsPortText port) :
    splitHost false (host.text ++ port) = (host.text, port) := by
  cases h with
  | name hascii _ _ =>
    exact splitHost_of_notMem (fun c hc =>
      (isInner_of_not_isForbidden (Domain.isForbidden_of_mem hascii hc)).2) hport
  | ipv4 _ =>
    exact splitHost_of_notMem (fun c hc => (isInner_of_isDigit (Ipv4.mem_text hc)).2) hport
  | @ipv6 pieces _ =>
    have hclose : ']' ∉ (Ipv6.text pieces).toList := fun hmem =>
      (isInner_of_isHexDigit (Ipv6.mem_text hmem)).2 (by decide)
    rw [text, List.cons_append, List.cons_append, splitHost, if_neg (by decide), List.append_assoc,
      List.singleton_append]
    simp [splitHost_brackets hclose hport]

end IsProper

/-! ### Reading a written host -/

/-- What holds no bracket and no percent sign is read as a domain name in ASCII. -/
lemma parseSpecial_eq {cs : List Char} (h : ∀ c ∈ cs, c ∉ "%:@[]".toList) :
    parseSpecial cs = Domain.toAscii (Utf8.encodeChars cs) >>= ofDomain := by
  have hpercent : '%' ∉ cs := fun hmem => h _ hmem (by decide)
  unfold parseSpecial
  split
  · exact absurd (by decide) (h '[' List.mem_cons_self)
  · rw [Percent.decode_encodeChars hpercent]

/-- One label that begins with the sign is a name. -/
lemma ofDomain_of_sign {cs : List Char} (h : '.' ∉ Domain.asciiSign.map Char.ofNat ++ cs) :
    ofDomain (Domain.asciiSign.map Char.ofNat ++ cs) =
      .ok (.name (Domain.asciiSign.map Char.ofNat ++ cs)) := by
  have hsign : Domain.asciiSign.map Char.ofNat ++ cs = 'x' :: ("n--".toList ++ cs) := rfl
  have hnumber : Ipv4.endsInNumber (Domain.asciiSign.map Char.ofNat ++ cs) = false := by
    have hpart : ∀ rest, Ipv4.part? ('x' :: rest) = none := by
      intro rest
      have hx : ¬ Ipv4.digitValue 'x' < 10 := by decide
      simp [Ipv4.part?, Ipv4.number?, hx]
    unfold Ipv4.endsInNumber Ipv4.parts
    rw [splitChars_of_sep_notMem h, hsign]
    simp [hpart]
  rw [ofDomain, hnumber, hsign]
  rfl

/-- **A written host** is read as the host, if it is readable, and else it is no domain name. -/
theorem IsProper.parseSpecial_text {host : Host} (h : host.IsProper) :
    (host.IsReadable → parseSpecial host.text = .ok host) ∧
      (¬ host.IsReadable → parseSpecial host.text = .error .badDomain) := by
  cases h with
  | @name octets cs hascii hne hnumber =>
    have hread := parseSpecial_eq fun c hc =>
      (isInner_of_not_isForbidden (Domain.isForbidden_of_mem hascii hc)).2
    have hof : ofDomain cs = .ok (.name cs) := by
      rw [ofDomain, if_neg hne, hnumber]
      rfl
    obtain ⟨hshort, hlong⟩ := Domain.toAscii_ascii hascii
    dsimp only [text, IsReadable]
    rw [hread]
    refine ⟨fun hall => ?_, fun hnot => ?_⟩
    · rw [hshort hall]
      exact hof
    · rw [hlong (by simpa using hnot)]
      rfl
  | @ipv4 address haddress =>
    refine ⟨fun _ => ?_, fun hnot => absurd trivial hnot⟩
    have hproper : IsProper (.ipv4 address) := .ipv4 haddress
    have hne := hproper.text_ne_nil
    rw [text] at hne ⊢
    rw [parseSpecial_eq fun c hc => (isInner_of_isDigit (Ipv4.mem_text hc)).2,
      Domain.toAscii_of_isDigit fun c hc => Ipv4.mem_text hc, Except.ok_bind, ofDomain, if_neg hne,
      if_pos (Ipv4.endsInNumber_text address), Ipv4.parse?_text haddress]
  | @ipv6 pieces hpieces =>
    refine ⟨fun _ => ?_, fun hnot => absurd trivial hnot⟩
    rw [text, List.cons_append, parseSpecial, parseBracketed, if_pos List.getLast?_concat,
      List.dropLast_concat, Ipv6.parse?_text hpieces]

end Host

end XoLedger.Url

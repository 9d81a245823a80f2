import Mathlib.Data.List.TakeWhile
import Mathlib.Tactic.Lemma
import XoLedger.Proofs.Outcome
import XoLedger.Proofs.Text.Composed
import XoLedger.Proofs.Text.Split
import XoLedger.Proofs.Text.Utf8
import XoLedger.Url.Parse

/-!
# No authority ends in a blank

Blanks and control characters are dropped at the ends of a URL, but not inside it. What stands at
the end of an authority belongs to the port or to the host. A port has digits only. In a domain
name a blank comes through every step: it is no part of an encoded octet, it stands for itself,
nothing is composed with it, and every label keeps it. In the end it is one of the characters that
may not stand there.
-/

namespace XoLedger.Url

/-- An octet that is neither the percent sign nor a digit outlives decoding. -/
lemma Percent.mem_decode {b : UInt8} (hne : b ≠ 37) (hdigit : Hex.value? b.toNat = none)
    {bs : Bytes} (h : b ∈ bs) : b ∈ decode bs := by
  fun_induction decode bs with
  | case1 => exact h
  | case2 hi lo rest x y hlo hhi ih =>
    -- two digits are taken away with their percent sign
    rcases List.mem_cons.mp h with rfl | h
    · exact absurd rfl hne
    rcases List.mem_cons.mp h with rfl | h
    · rw [hdigit] at hhi
      exact absurd hhi (by simp)
    rcases List.mem_cons.mp h with rfl | h
    · rw [hdigit] at hlo
      exact absurd hlo (by simp)
    exact List.mem_cons_of_mem _ (ih h)
  | case3 hi lo rest hnone ih =>
    rcases List.mem_cons.mp h with rfl | h
    · exact absurd rfl hne
    exact List.mem_cons_of_mem _ (ih h)
  | case4 rest hshort ih =>
    rcases List.mem_cons.mp h with rfl | h
    · exact absurd rfl hne
    exact List.mem_cons_of_mem _ (ih h)
  | case5 b' rest hb' ih =>
    rcases List.mem_cons.mp h with rfl | h
    · exact List.mem_cons_self
    exact List.mem_cons_of_mem _ (ih h)

namespace Domain

/-! ### Names -/

section Blank

variable {c : Char} (hc : c.toNat ≤ 32)

include hc

/-- A blank stands for itself. -/
lemma image?_of_blank : image? c.toNat = some [c.toNat] := by
  have hlower : lowerAscii c = c := by
    rw [lowerAscii, if_neg]
    rintro ⟨hA, -⟩
    have : 'A'.toNat ≤ c.toNat := hA
    have : 'A'.toNat = 65 := rfl
    omega
  rw [image?, if_pos (by omega), Char.ofNat_toNat, hlower]

lemma mem_image_of_blank {cs : List Char} {ns : List Nat} (h : image cs = some ns) (hcs : c ∈ cs) :
    c.toNat ∈ ns := by
  rw [image, Option.map_eq_some_iff] at h
  obtain ⟨parts, hparts, rfl⟩ := h
  obtain ⟨part, hmem, hpart⟩ := Option.exists_of_mapM hparts hcs
  rw [image?_of_blank hc, Option.some.injEq] at hpart
  subst hpart
  exact (mem_composed_iff_of_low (by omega)).mpr
    (List.mem_flatten.mpr ⟨_, hmem, List.mem_singleton_self _⟩)

/-- The ASCII form of a label holds the blanks of the label. -/
lemma Label.mem_ascii_of_blank {ns : List Nat} {label : Label} (h : Label.read? ns = some label)
    (hns : c.toNat ∈ ns) : c ∈ label.ascii := by
  have hmap : c ∈ ns.map Char.ofNat := by
    rw [← Char.ofNat_toNat c]
    exact List.mem_map_of_mem hns
  unfold Label.read? at h
  split_ifs at h with hsign hwide hsound
  · unfold readWritten? at h
    dsimp only at h
    split_ifs at h
    split at h
    · simp at h
    · split_ifs at h
      cases h
      exact hmap
  · cases h
    exact hmap
  · cases h
    have hbasic : c ∈ (ns.filter (· < Punycode.firstPoint)).map Char.ofNat := by
      rw [← Char.ofNat_toNat c]
      refine List.mem_map_of_mem (List.mem_filter.mpr ⟨hns, ?_⟩)
      rw [Punycode.firstPoint, decide_eq_true_eq]
      omega
    refine List.mem_append_right _ ?_
    rw [Punycode.encode]
    exact List.mem_append_left _ (List.mem_append_left _ hbasic)

/-- A text with a blank is no domain name. -/
lemma toAscii_of_blank {octets : Bytes} {cs : List Char} (h : Utf8.decodeChars octets = .ok cs)
    (hcs : c ∈ cs) : toAscii octets = .error .badDomain := by
  rw [toAscii, h]
  dsimp only
  cases hlabels : labels? cs with
  | none => rfl
  | some labels =>
    have hmem : c ∈ joinChars '.' (labels.map Label.ascii) := by
      have hdot : c ≠ '.' := by
        rintro rfl
        exact absurd hc (by decide)
      unfold labels? at hlabels
      cases himage : image cs with
      | none => simp [himage] at hlabels
      | some ns =>
        rw [himage] at hlabels
        have hns : c ∈ joinChars '.' (splitChars '.' (ns.map Char.ofNat)) := by
          rw [joinChars_splitChars, ← Char.ofNat_toNat c]
          exact List.mem_map_of_mem (mem_image_of_blank hc himage hcs)
        obtain ⟨part, hpart, hcpart⟩ := (mem_joinChars_iff hdot).mp hns
        obtain ⟨label, hlabel, hread⟩ := Option.exists_of_mapM hlabels hpart
        have hascii := Label.mem_ascii_of_blank hc hread (List.mem_map_of_mem hcpart)
        exact (mem_joinChars_iff hdot).mpr ⟨_, List.mem_map_of_mem hlabel, hascii⟩
    have hforbidden : (joinChars '.' (labels.map Label.ascii)).any isForbidden = true := by
      refine List.any_eq_true.mpr ⟨c, hmem, ?_⟩
      simp [isForbidden, hc]
    dsimp only
    rw [hforbidden, Bool.true_or, if_pos rfl]

end Blank

end Domain

/-! ### Hosts -/

/-- No host ends in a blank. -/
lemma Host.parseSpecial_ne_ok {cs : List Char} {c : Char} (hlast : cs.getLast? = some c)
    (hc : isEdge c = true) (host : Host) : parseSpecial cs ≠ .ok host := by
  rw [isEdge, decide_eq_true_eq] at hc
  unfold parseSpecial
  split
  · rename_i rest
    -- brackets are closed by the last character
    have hopen : rest.getLast? ≠ some ']' := by
      intro hclose
      rw [List.getLast?_cons, hclose, Option.getD_some, Option.some.injEq] at hlast
      subst hlast
      exact absurd hc (by decide)
    rw [parseBracketed, if_neg hopen]
    simp
  · intro hok
    obtain ⟨ascii, hascii, -⟩ := Except.bind_eq_ok_iff.mp hok
    have hoctets : UInt8.ofNat c.toNat ∈ Utf8.encodeChars cs := by
      refine List.mem_flatMap.mpr ⟨c, List.mem_of_getLast? hlast, ?_⟩
      rw [Utf8.encodeChar, if_pos (by omega)]
      exact List.mem_singleton_self _
    have htoNat : (UInt8.ofNat c.toNat).toNat = c.toNat := Utf8.toNat_ofNat_octet (by omega)
    have hpercent : UInt8.ofNat c.toNat ≠ 37 := by
      intro heq
      rw [heq] at htoNat
      have : (37 : UInt8).toNat = 37 := rfl
      omega
    have hdigit : Hex.value? (UInt8.ofNat c.toNat).toNat = none := by
      rw [htoNat, Hex.value?, if_neg (by omega), if_neg (by omega), if_neg (by omega)]
    have hdecoded := Percent.mem_decode hpercent hdigit hoctets
    cases hchars : Utf8.decodeChars (Percent.decode (Utf8.encodeChars cs)) with
    | error e =>
      rw [Domain.toAscii, hchars] at hascii
      exact absurd hascii (by simp)
    | ok ds =>
      have hds : c ∈ ds := by
        rw [Utf8.eq_encodeChars_of_decodeFrom hchars] at hdecoded
        exact Utf8.mem_of_mem_encodeChars (by omega) hdecoded
      rw [Domain.toAscii_of_blank hc hchars hds] at hascii
      exact absurd hascii (by simp)

/-! ### Authorities -/

lemma splitHost_append (inBrackets : Bool) (cs : List Char) :
    (splitHost inBrackets cs).1 ++ (splitHost inBrackets cs).2 = cs := by
  induction cs generalizing inBrackets with
  | nil => rfl
  | cons c cs ih =>
    rw [splitHost]
    split
    · rfl
    · exact congrArg (c :: ·) (ih _)

lemma splitHost_snd (inBrackets : Bool) (cs : List Char) :
    (splitHost inBrackets cs).2 = [] ∨ ∃ digits, (splitHost inBrackets cs).2 = ':' :: digits := by
  induction cs generalizing inBrackets with
  | nil => exact .inl rfl
  | cons c cs ih =>
    rw [splitHost]
    split
    · rename_i hc
      exact .inr ⟨cs, by rw [hc.1]⟩
    · exact ih _

lemma splitUserinfo_snd_suffix (cs : List Char) : (splitUserinfo cs).2 <:+ cs := by
  unfold splitUserinfo
  dsimp only
  split
  · rw [← List.reverse_prefix, List.reverse_reverse]
    exact List.takeWhile_prefix _
  · exact List.suffix_refl cs

lemma getLast?_splitUserinfo_snd {cs : List Char} {c : Char} (hlast : cs.getLast? = some c)
    (hc : c ≠ '@') : (splitUserinfo cs).2.getLast? = some c := by
  unfold splitUserinfo
  dsimp only
  split
  · obtain ⟨ds, rfl⟩ := List.getLast?_eq_some_iff.mp hlast
    simp [hc]
  · exact hlast

/-- A host that is read under a special scheme is read as such. -/
lemma parseSpecial_of_parseHost {usual : Nat} {cs : List Char} {host : Host}
    (h : parseHost (.special usual) cs = .ok host) : Host.parseSpecial cs = .ok host := by
  rw [parseHost] at h
  split_ifs at h
  exact h

/-- An authority that is read is a user, a host and, perhaps, a port. -/
lemma parseAuthority_cases {kind : SchemeKind} {last : Bool} {cs left : List Char} {a : Authority}
    (h : parseAuthority kind last cs = .ok (a, left)) :
    a.username = usernameOf ((splitUserinfo cs).1.getD []) ∧
      a.password = passwordOf ((splitUserinfo cs).1.getD []) ∧
      ∃ host port, (splitUserinfo cs).2 = host ++ port ∧ parseHost kind host = .ok a.host ∧
        (port = [] ∧ a.port = none ∧ left = [] ∨
          ∃ digits, port = ':' :: digits ∧ parsePort kind.usualPort? digits = .ok (a.port, left)) := by
  unfold parseAuthority at h
  rcases hsplit : splitUserinfo cs with ⟨userinfo, rest⟩
  rcases hhost : splitHost false rest with ⟨hostText, portText⟩
  rw [hsplit] at h
  dsimp only at h
  rw [hhost] at h
  dsimp only at h
  split_ifs at h
  obtain ⟨host, hread, h⟩ := Except.bind_eq_ok_iff.mp h
  have hjoin := splitHost_append false rest
  have hport := splitHost_snd false rest
  rw [hhost] at hjoin hport
  rcases hport with rfl | ⟨digits, rfl⟩
  · dsimp only at h
    split_ifs at h
    cases h
    exact ⟨rfl, rfl, _, _, hjoin.symm, hread, .inl ⟨rfl, rfl, rfl⟩⟩
  · dsimp only at h
    split_ifs at h
    obtain ⟨⟨port, left'⟩, hdigits, h⟩ := Except.bind_eq_ok_iff.mp h
    cases h
    exact ⟨rfl, rfl, _, _, hjoin.symm, hread, .inr ⟨digits, rfl, hdigits⟩⟩

/-- Only a backslash ends a port before its text ends. -/
lemma parsePort_left {usual : Option Nat} {cs left : List Char} {port : Option Nat}
    (h : parsePort usual cs = .ok (port, left)) :
    left = cs.dropWhile Char.isDigit ∧ (left = [] ∨ '\\' ∈ left) := by
  unfold parsePort at h
  dsimp only at h
  split at h
  · simp at h
  · split at h
    · rename_i hrest
      cases h
      exact ⟨rfl, .inl hrest⟩
    · rename_i hrest
      cases h
      exact ⟨rfl, .inr (by rw [hrest]; exact List.mem_cons_self)⟩
    · simp at h

/-- What is left over of an authority stands in it, with a backslash. -/
lemma left_of_parseAuthority {kind : SchemeKind} {last : Bool} {cs left : List Char} {a : Authority}
    (h : parseAuthority kind last cs = .ok (a, left)) :
    (left = [] ∨ '\\' ∈ left) ∧ ∀ c ∈ left, c ∈ cs := by
  obtain ⟨-, -, host, port, hsplit, -, hport⟩ := parseAuthority_cases h
  rcases hport with ⟨-, -, rfl⟩ | ⟨digits, rfl, hdigits⟩
  · exact ⟨.inl rfl, List.forall_mem_nil _⟩
  · obtain ⟨hrest, hleft⟩ := parsePort_left hdigits
    refine ⟨hleft, fun c hc => (splitUserinfo_snd_suffix cs).mem ?_⟩
    rw [hrest] at hc
    rw [hsplit]
    exact List.mem_append_right _ (List.mem_cons_of_mem _ ((List.dropWhile_suffix _).mem hc))

/-- Nothing is left over of an authority without a backslash. -/
lemma parseAuthority_left {kind : SchemeKind} {last : Bool} {cs left : List Char} {a : Authority}
    (h : parseAuthority kind last cs = .ok (a, left)) (hcs : '\\' ∉ cs) : left = [] := by
  obtain ⟨hleft, hmem⟩ := left_of_parseAuthority h
  exact hleft.resolve_right fun hslash => hcs (hmem _ hslash)

lemma isDigit_of_isEdge {c : Char} (hc : isEdge c = true) : c.isDigit = false := by
  rw [isEdge, decide_eq_true_eq] at hc
  rw [Char.isDigit, Bool.and_eq_false_imp]
  intro hlow
  rw [decide_eq_true_eq] at hlow
  have : 48 ≤ c.toNat := hlow
  omega

/-- **No authority ends in a blank**: what is left when nothing may be dropped is refused, as a
host or as a port. -/
lemma parseAuthority_ne_ok {usual : Nat} {last : Bool} {cs : List Char} {c : Char}
    (hlast : cs.getLast? = some c) (hc : isEdge c = true) (hcs : '\\' ∉ cs)
    (r : Authority × List Char) : parseAuthority (.special usual) last cs ≠ .ok r := by
  intro h
  obtain ⟨a, left⟩ := r
  have hne : ∀ d : Char, isEdge d = false → c ≠ d := by
    rintro d hd rfl
    rw [hc] at hd
    cases hd
  obtain ⟨-, -, host, port, hsplit, hhost, hport⟩ := parseAuthority_cases h
  have hend : (host ++ port).getLast? = some c := by
    rw [← hsplit]
    exact getLast?_splitUserinfo_snd hlast (hne '@' (by decide))
  rcases hport with ⟨rfl, -⟩ | ⟨digits, rfl, hdigits⟩
  · rw [List.append_nil] at hend
    exact Host.parseSpecial_ne_ok hend hc _ (parseSpecial_of_parseHost hhost)
  · have hdigit : c.isDigit = false := isDigit_of_isEdge hc
    have hmem : c ∈ digits := by
      rw [List.getLast?_append_cons] at hend
      exact (List.mem_cons.mp (List.mem_of_getLast? hend)).resolve_left (hne ':' (by decide))
    have hleft : left = [] := parseAuthority_left h hcs
    rw [(parsePort_left hdigits).1, List.dropWhile_eq_nil_iff] at hleft
    have := hleft c hmem
    rw [hdigit] at this
    cases this

/-- An authority that is there is read alike whether or not something follows it. -/
lemma parseAuthority_last (usual : Nat) (last : Bool) (cs : List Char) :
    parseAuthority (.special usual) last cs = parseAuthority (.special usual) true cs := by
  unfold parseAuthority
  rcases splitUserinfo cs with ⟨userinfo, rest⟩
  dsimp only
  by_cases hempty : userinfo = some [] ∧ rest = []
  · obtain ⟨rfl, rfl⟩ := hempty
    simp [splitHost, parseHost]
  · rw [if_neg (by tauto), if_neg (by tauto)]

end XoLedger.Url

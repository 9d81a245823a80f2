import Mathlib.Data.List.TakeWhile
import Mathlib.Tactic.Lemma
import XoLedger.Proofs.Url.Form
import XoLedger.Proofs.Url.Host
import XoLedger.Proofs.Url.Path

/-!
# Written URLs are read as themselves

A URL with a special scheme is made of parts in which nothing is left to encode. So where such a
URL is written, every part is found again between the same marks, and reading changes none of them.
The one exception is the host: one with a label that is too long is refused (`parse_text`).
-/

namespace XoLedger.Url

open Percent (IsFree)

/-! ### Parts that are read -/

/-- An authority under a special scheme. -/
structure Authority.IsProper (usual : Nat) (a : Authority) : Prop where
  /-- Nothing in the user name has to be encoded. -/
  username : IsFree Percent.inUserinfo a.username
  /-- Nothing in the password has to be encoded. -/
  password : IsFree Percent.inUserinfo a.password
  /-- The host is one under a special scheme. -/
  host : a.host.IsProper
  /-- The port has 16 bits, and is not the usual one. -/
  port : ∀ port ∈ a.port, port ≤ 65535 ∧ port ≠ usual

/-- A segment of a path that has been followed. -/
structure IsSegment (cs : List Char) : Prop where
  /-- Nothing in it has to be encoded. -/
  free : IsFree Percent.inPath cs
  /-- It holds no slash. -/
  slash : ∀ c ∈ cs, isSlash true c = false
  /-- It is not made of dots. -/
  enters : Step.of cs = .enter

/-- A path under a special scheme. -/
def Path.IsProper (path : Path) : Prop :=
  ∃ segments, path = .segments segments ∧ segments ≠ [] ∧ ∀ segment ∈ segments, IsSegment segment

/-- A URL with a special scheme. -/
structure IsProper (url : Url) (usual : Nat) (a : Authority) : Prop where
  /-- The scheme is special. -/
  kind : SchemeKind.of url.scheme = .special usual
  /-- There is an authority. -/
  authority_eq : url.authority = some a
  /-- It is one under a special scheme. -/
  authority : a.IsProper usual
  /-- The path is one under a special scheme. -/
  path : url.path.IsProper
  /-- Nothing in the query has to be encoded. -/
  query : ∀ query ∈ url.query, IsFree Percent.inSpecialQuery query
  /-- Nothing in the fragment has to be encoded. -/
  fragment : ∀ fragment ∈ url.fragment, IsFree Percent.inFragment fragment

/-- Whether a URL is read where it is written. -/
def IsReadable (url : Url) : Prop :=
  ∀ a ∈ url.authority, a.host.IsReadable

instance : DecidablePred IsReadable := fun url =>
  inferInstanceAs (Decidable (∀ a ∈ url.authority, a.host.IsReadable))

lemma port_of_parsePort {usual : Nat} {cs left : List Char} {port : Option Nat}
    (h : parsePort (some usual) cs = .ok (port, left)) :
    ∀ n ∈ port, n ≤ 65535 ∧ n ≠ usual := by
  unfold parsePort at h
  dsimp only at h
  generalize (cs.takeWhile Char.isDigit).foldl (fun n c => 10 * n + (c.toNat - 48)) 0 = read at h
  split at h
  · cases h
  · rename_i hsmall
    have hread : ∀ {P : Prop} [Decidable P], (usual = read → P) →
        ∀ n ∈ (if P then none else some read : Option Nat), n ≤ 65535 ∧ n ≠ usual := by
      intro P _ hP n hn
      split at hn
      · cases hn
      · rename_i hnot
        cases hn
        exact ⟨by omega, fun heq => hnot (hP heq.symm)⟩
    split at h
    · cases h
      exact hread fun heq => .inr (congrArg some heq)
    · cases h
      exact hread fun heq => .inr (congrArg some heq)
    · cases h

/-- Authorities that are read are proper. -/
lemma isProper_of_parseAuthority {usual : Nat} {last : Bool} {cs left : List Char} {a : Authority}
    (h : parseAuthority (.special usual) last cs = .ok (a, left)) : a.IsProper usual := by
  have hdigits : ∀ c ∈ "%0123456789ABCDEF".toList,
      Percent.inUserinfo (UInt8.ofNat c.toNat) = false :=
    List.forall_iff_forall_mem.mp (by decide)
  obtain ⟨husername, hpassword, host, port, -, hhost, hport⟩ := parseAuthority_cases h
  refine ⟨?_, ?_, Host.isProper_of_parseSpecial (parseSpecial_of_parseHost hhost), ?_⟩
  · rw [husername]
    exact Percent.isFree_encode hdigits _
  · rw [hpassword]
    exact Percent.isFree_encode hdigits _
  · rcases hport with ⟨-, hnone, -⟩ | ⟨digits, -, hread⟩
    · rw [hnone]
      simp
    · exact port_of_parsePort hread

lemma isSegment_nil : IsSegment [] :=
  ⟨by simp [IsFree], by simp, rfl⟩

/-- Following segments leads along proper segments. -/
lemma isSegment_follow {path segments : List (List Char)} (hpath : ∀ s ∈ path, IsSegment s)
    (hslash : ∀ s ∈ segments, ∀ c ∈ s, isSlash true c = false) :
    ∀ s ∈ follow path segments, IsSegment s := by
  have hdigits : ∀ c ∈ "%0123456789ABCDEF".toList,
      Percent.inPath (UInt8.ofNat c.toNat) = false ∧ isSlash true c = false :=
    List.forall_iff_forall_mem.mp (by decide)
  have hlast : ∀ {path : List (List Char)}, (∀ s ∈ path, IsSegment s) →
      ∀ s ∈ path ++ [[]], IsSegment s := fun hpath =>
    List.forall_mem_append.mpr ⟨hpath, List.forall_mem_singleton.mpr isSegment_nil⟩
  have hdrop : ∀ {path : List (List Char)}, (∀ s ∈ path, IsSegment s) →
      ∀ s ∈ path.dropLast, IsSegment s := fun hpath s hs =>
    hpath s ((List.dropLast_sublist _).mem hs)
  induction segments generalizing path with
  | nil => exact hpath
  | cons segment rest ih =>
    obtain ⟨hsegment, hrest⟩ := List.forall_mem_cons.mp hslash
    rw [follow]
    split
    · rename_i henter
      refine ih (List.forall_mem_append.mpr ⟨hpath, List.forall_mem_singleton.mpr ?_⟩) hrest
      refine ⟨Percent.isFree_encode (fun c hc => (hdigits c hc).1) _, fun c hc => ?_, henter⟩
      rcases Percent.mem_encode hc with hmem | ⟨hmem, -⟩
      · exact (hdigits c hmem).2
      · exact hsegment c hmem
    · split
      · exact ih (hlast hpath) hrest
      · exact ih hpath hrest
    · split
      · exact ih (hlast (hdrop hpath)) hrest
      · exact ih (hdrop hpath) hrest

lemma follow_ne_nil {segments : List (List Char)} (hne : segments ≠ []) (path : List (List Char)) :
    follow path segments ≠ [] := by
  obtain ⟨init, last, rfl⟩ := (List.eq_nil_or_concat segments).resolve_left hne
  rw [List.concat_eq_append, follow_append (List.cons_ne_nil _ _), follow]
  cases Step.of (Percent.encode Percent.inPath last) <;> simp [follow]

/-- Paths that are read are proper. -/
lemma isProper_parsePath (cs : List Char) : (parsePath true cs).IsProper := by
  unfold parsePath
  split
  · exact ⟨[[]], rfl, List.cons_ne_nil _ _, List.forall_mem_singleton.mpr isSegment_nil⟩
  · refine ⟨_, rfl, follow_ne_nil (splitChars_ne_nil _ _) _,
      isSegment_follow (List.forall_mem_nil _) fun segment hsegment c hc => ?_⟩
    have hne : c ≠ '/' := ne_of_mem_of_not_mem hc (sep_notMem_of_mem_splitChars hsegment)
    obtain ⟨d, -, rfl⟩ := List.mem_map.mp (mem_of_mem_splitChars hsegment hc)
    split at hne
    · exact absurd rfl hne
    · rename_i hslash
      rw [if_neg hslash]
      exact Bool.eq_false_iff.mpr hslash

/-- **URLs that are read** under a special scheme are proper. -/
theorem exists_isProper_of_parse {text : String} {url : Url} {usual : Nat}
    (h : parse text = .ok url) (hkind : SchemeKind.of url.scheme = .special usual) :
    ∃ a, url.IsProper usual a := by
  obtain ⟨scheme, rest, -, h⟩ := parseKept_eq_ok_iff.mp h
  rw [scheme_of_parseAfterScheme h] at hkind
  unfold parseAfterScheme at h
  rw [hkind] at h
  dsimp only at h
  obtain ⟨⟨a, left⟩, hread, h⟩ := Except.bind_eq_ok_iff.mp h
  cases h
  have hquery : ∀ c ∈ "%0123456789ABCDEF".toList,
      Percent.inSpecialQuery (UInt8.ofNat c.toNat) = false :=
    List.forall_iff_forall_mem.mp (by decide)
  have hfragment : ∀ c ∈ "%0123456789ABCDEF".toList,
      Percent.inFragment (UInt8.ofNat c.toNat) = false :=
    List.forall_iff_forall_mem.mp (by decide)
  refine ⟨a, hkind, rfl, isProper_of_parseAuthority hread, isProper_parsePath _, ?_, ?_⟩
  · intro query hmem
    obtain ⟨cs, -, rfl⟩ := Option.map_eq_some_iff.mp hmem
    dsimp only
    rw [hkind]
    exact Percent.isFree_encode hquery cs
  · intro fragment hmem
    obtain ⟨cs, -, rfl⟩ := Option.map_eq_some_iff.mp hmem
    exact Percent.isFree_encode hfragment cs

/-! ### Written authorities -/

lemma splitUserinfo_of_notMem {cs : List Char} (h : '@' ∉ cs) : splitUserinfo cs = (none, cs) := by
  unfold splitUserinfo
  dsimp only
  rw [if_neg h]

lemma splitUserinfo_append {rest : List Char} (h : '@' ∉ rest) (info : List Char) :
    splitUserinfo (info ++ '@' :: rest) = (some info, rest) := by
  have hall : ∀ c ∈ rest.reverse, decide (c ≠ '@') = true := by
    intro c hc
    rw [decide_eq_true_eq]
    exact ne_of_mem_of_not_mem (List.mem_reverse.mp hc) h
  have hafter : ((info ++ '@' :: rest).reverse.takeWhile (· ≠ '@')).reverse = rest := by
    rw [List.reverse_append, List.reverse_cons, List.append_assoc,
      List.takeWhile_append_of_pos hall, List.singleton_append,
      List.takeWhile_cons_of_neg (by decide), List.append_nil, List.reverse_reverse]
  have hbefore : (info ++ '@' :: rest).length - rest.length - 1 = info.length := by
    rw [List.length_append, List.length_cons]
    omega
  unfold splitUserinfo
  dsimp only
  rw [hafter, hbefore, if_pos (by simp), List.take_left]

/-- A written port is read. -/
lemma parsePort_toString {port usual : Nat} (hport : port ≤ 65535) (hne : port ≠ usual) :
    parsePort (some usual) (toString port).toList = .ok (some port, []) := by
  have hdigits : (toString port).toList = Nat.toDigits 10 port := by
    rw [Nat.toString_eq_ofList_toDigits, String.toList_ofList]
  have hall : ∀ c ∈ Nat.toDigits 10 port, c.isDigit = true := fun c hc =>
    Nat.isDigit_of_mem_toDigits (by decide) (by decide) hc
  have hvalue : (Nat.toDigits 10 port).foldl (fun n c => 10 * n + (c.toNat - 48)) 0 = port :=
    Nat.ofDigitChars_ten_toDigits
  have hnone : ¬ (Nat.toDigits 10 port = [] ∨ some usual = some port) := by
    rintro (hempty | heq)
    · exact Nat.toDigits_ne_nil hempty
    · exact hne (Option.some.inj heq).symm
  unfold parsePort
  dsimp only
  rw [hdigits, List.takeWhile_eq_self_iff.mpr hall, List.dropWhile_eq_nil_iff.mpr hall, hvalue,
    if_neg (Nat.not_lt.mpr hport), if_neg hnone]

lemma Authority.isPortText (a : Authority) : Host.IsPortText a.portText := by
  unfold portText
  split
  · exact .inr ⟨_, rfl⟩
  · exact .inl rfl

namespace Authority.IsProper

/-- What stands in a user name or a password stays there, and ends neither. -/
lemma isInner_of_user {cs : List Char} (h : IsFree Percent.inUserinfo cs) :
    ∀ c ∈ cs, IsInner c ∧ c ≠ ':' := by
  refine h.forall_mem ?_
  decide

variable {usual : Nat} {a : Authority} (h : a.IsProper usual)

include h

lemma isInner_of_mem_rest {c : Char} (hc : c ∈ a.host.text ++ a.portText) :
    IsInner c ∧ c ≠ '@' := by
  have hplain : ∀ {d : Char}, IsInner d ∧ d ∉ "%:@[]".toList → IsInner d ∧ d ≠ '@' := by
    rintro d ⟨hinner, hnot⟩
    refine ⟨hinner, ?_⟩
    rintro rfl
    exact hnot (by decide)
  rcases List.mem_append.mp hc with hc | hc
  · exact h.host.isInner_of_mem_text hc
  · unfold portText at hc
    split at hc
    · rename_i port _
      rw [Nat.toString_eq_ofList_toDigits, String.toList_ofList] at hc
      rcases List.mem_cons.mp hc with rfl | hc
      · decide
      · exact hplain (Host.isInner_of_isDigit
          (.inr (Nat.isDigit_of_mem_toDigits (by decide) (by decide) hc)))
    · cases hc

/-- A written authority is cut into its user and the rest. -/
lemma exists_userinfo : ∃ info, splitUserinfo a.text = (info, a.host.text ++ a.portText) ∧
    usernameOf (info.getD []) = a.username ∧ passwordOf (info.getD []) = a.password := by
  have hat : '@' ∉ a.host.text ++ a.portText := fun hmem => (h.isInner_of_mem_rest hmem).2 rfl
  by_cases hnone : a.username = [] ∧ a.password = []
  · refine ⟨none, ?_, ?_, ?_⟩
    · rw [text, userinfo, if_pos hnone, List.nil_append, splitUserinfo_of_notMem hat]
    · rw [hnone.1]
      rfl
    · rw [hnone.2]
      rfl
  · have hcolon : ∀ c ∈ a.username, decide (c ≠ ':') = true := fun c hc =>
      decide_eq_true (isInner_of_user h.username c hc).2
    refine ⟨some (a.username ++ if a.password = [] then [] else ':' :: a.password), ?_, ?_, ?_⟩
    · rw [text, userinfo, if_neg hnone, List.append_assoc _ a.host.text,
        List.append_assoc _ ['@'], List.singleton_append, splitUserinfo_append hat]
    · rw [usernameOf, Option.getD_some, List.takeWhile_append_of_pos hcolon]
      split
      · rw [List.takeWhile_nil, List.append_nil, h.username.encode_eq]
      · rw [List.takeWhile_cons_of_neg (by decide), List.append_nil, h.username.encode_eq]
    · rw [passwordOf, Option.getD_some, List.dropWhile_append_of_pos hcolon]
      split
      · rename_i hempty
        rw [hempty]
        rfl
      · rw [List.dropWhile_cons_of_neg (by decide), List.drop_one, List.tail_cons,
          h.password.encode_eq]

/-- **A written authority** is read as itself, if its host is readable, and else it is none. -/
theorem parseAuthority_text :
    (a.host.IsReadable → parseAuthority (.special usual) true a.text = .ok (a, [])) ∧
      (¬ a.host.IsReadable →
        parseAuthority (.special usual) true a.text = .error .badDomain) := by
  obtain ⟨info, hsplit, husername, hpassword⟩ := h.exists_userinfo
  have hne : a.host ≠ .empty := by
    intro hempty
    have := h.host.text_ne_nil
    rw [hempty] at this
    exact this rfl
  have hhost : parseHost (.special usual) a.host.text = Host.parseSpecial a.host.text := by
    rw [parseHost, if_neg h.host.text_ne_nil]
  obtain ⟨hreadable, hnot⟩ := h.host.parseSpecial_text
  unfold parseAuthority
  rw [hsplit]
  dsimp only
  rw [if_neg (by simp), h.host.splitHost_text a.isPortText, hhost, husername, hpassword]
  constructor
  · intro hread
    rw [hreadable hread, Except.ok_bind]
    cases hport : a.port with
    | none =>
      have htext : a.portText = [] := by rw [portText, hport]
      dsimp only
      rw [htext]
      dsimp only
      rw [if_neg fun hempty => hne hempty.1, ← hport]
      rfl
    | some port =>
      obtain ⟨hlarge, husual⟩ := h.port port hport
      have htext : a.portText = ':' :: (toString port).toList := by rw [portText, hport]
      dsimp only
      rw [htext]
      dsimp only [SchemeKind.usualPort?]
      rw [if_neg hne, parsePort_toString hlarge husual, Except.ok_bind, ← hport]
      rfl
  · intro hread
    rw [hnot hread]
    rfl

end Authority.IsProper

/-- A text without marks is a host. -/
lemma parseAuthority_of_host {usual : Nat} {cs : List Char} {host : Host} (hne : cs ≠ [])
    (hcs : ∀ c ∈ cs, c ∉ "%:@[]".toList) (hread : Host.parseSpecial cs = .ok host)
    (hhost : host ≠ .empty) :
    parseAuthority (.special usual) true cs = .ok (⟨[], [], host, none⟩, []) := by
  have hat : '@' ∉ cs := fun hmem => hcs _ hmem (by decide)
  have hsplit := Host.splitHost_of_notMem hcs (.inl rfl)
  rw [List.append_nil] at hsplit
  unfold parseAuthority
  rw [splitUserinfo_of_notMem hat]
  dsimp only
  rw [if_neg (by simp), hsplit, parseHost, if_neg hne, hread, Except.ok_bind]
  dsimp only
  rw [if_neg fun h => hhost h.1]
  rfl

/-! ### Written paths -/

lemma Path.text_cons (segment : List Char) (rest : List (List Char)) :
    (Path.segments (segment :: rest)).text = '/' :: joinChars '/' (segment :: rest) := by
  induction rest generalizing segment with
  | nil => exact Path.text_singleton segment
  | cons segment' rest ih =>
    rw [← List.singleton_append, Path.text_append, Path.text_singleton, ih]
    rfl

/-- Proper segments are entered one after the other. -/
lemma follow_eq {segments : List (List Char)} (h : ∀ s ∈ segments, IsSegment s)
    (path : List (List Char)) : follow path segments = path ++ segments := by
  induction segments generalizing path with
  | nil => exact (List.append_nil path).symm
  | cons segment rest ih =>
    obtain ⟨hsegment, hrest⟩ := List.forall_mem_cons.mp h
    rw [follow, hsegment.free.encode_eq, hsegment.enters]
    exact (ih hrest _).trans (List.append_assoc _ _ _)

/-- A written path is read as itself. -/
lemma Path.IsProper.parsePath_text {path : Path} (h : path.IsProper) :
    parsePath true path.text = path := by
  obtain ⟨segments, rfl, hne, hall⟩ := h
  obtain ⟨segment, rest, rfl⟩ := List.exists_cons_of_ne_nil hne
  have hslash : ∀ s ∈ segment :: rest, '/' ∉ s := fun s hs hmem =>
    absurd ((hall s hs).slash _ hmem) (by decide)
  have hmap : (joinChars '/' (segment :: rest)).map
      (fun c => if isSlash true c then '/' else c) = joinChars '/' (segment :: rest) := by
    conv_rhs => rw [← List.map_id (joinChars '/' (segment :: rest))]
    refine List.map_congr_left fun c hc => ?_
    by_cases hc' : c = '/'
    · rw [hc']
      rfl
    · obtain ⟨s, hs, hmem⟩ := (mem_joinChars_iff hc').mp hc
      rw [(hall s hs).slash c hmem]
      rfl
  rw [Path.text_cons, parsePath, if_pos (by decide), splitSegments, hmap,
    splitChars_joinChars hne hslash, follow_eq hall, List.nil_append]

/-- A written path begins with a slash. -/
lemma Path.IsProper.endsAuthority {path : Path} (h : path.IsProper) (rest : List Char) :
    EndsAuthority (path.text ++ rest) := by
  obtain ⟨segments, rfl, hne, -⟩ := h
  obtain ⟨segment, others, rfl⟩ := List.exists_cons_of_ne_nil hne
  rw [Path.text_cons]
  exact endsAuthority_slash _

/-- What stands in a written path is never dropped, and no mark. -/
lemma Path.IsProper.isEdge_isMark {path : Path} (h : path.IsProper) :
    ∀ c ∈ path.text, isEdge c = false ∧ isMark c = false := by
  obtain ⟨segments, rfl, -, hall⟩ := h
  intro c hc
  obtain ⟨s, hs, hc⟩ := List.mem_flatMap.mp hc
  rcases List.mem_cons.mp hc with rfl | hc
  · decide
  · refine (hall s hs).free.forall_mem (P := fun c => isEdge c = false ∧ isMark c = false) ?_ c hc
    decide

/-! ### Written URLs -/

/-- A text without anything to drop is read as it is. -/
lemma clean_eq_self {cs : List Char} (h : ∀ c ∈ cs, isEdge c = false) : clean cs = cs := by
  by_cases hne : cs = []
  · rw [hne]
    rfl
  · exact clean_append h hne []

/-- What the special schemes have in common: they are written as they are read. -/
lemma scheme_of_special {scheme : List Char} {usual : Nat}
    (h : SchemeKind.of scheme = .special usual) :
    (∀ c ∈ scheme, isSchemeChar c = true ∧ isEdge c = false ∧ Domain.lowerAscii c = c) ∧
      (scheme.head?.map Char.isAlpha).getD false = true := by
  have hall : ∀ entry ∈ specialPorts,
      (entry.1.toList.Forall fun c =>
        isSchemeChar c = true ∧ isEdge c = false ∧ Domain.lowerAscii c = c) ∧
        (entry.1.toList.head?.map Char.isAlpha).getD false = true := by
    decide
  unfold SchemeKind.of at h
  split at h
  · rename_i name port hfind
    have hname : name.toList = scheme := by simpa using List.find?_some hfind
    rw [← hname]
    exact (hall _ (List.mem_of_find?_eq_some hfind)).imp_left List.forall_iff_forall_mem.mp
  · split_ifs at h

/-- A special scheme is read off its written form. -/
lemma splitScheme?_of_special {scheme : List Char} {usual : Nat}
    (h : SchemeKind.of scheme = .special usual) (rest : List Char) :
    splitScheme? (scheme ++ ':' :: rest) = some (scheme, rest) := by
  obtain ⟨hchars, halpha⟩ := scheme_of_special h
  have hall : ∀ c ∈ scheme, isSchemeChar c = true := fun c hc => (hchars c hc).1
  refine splitScheme?_eq_some_iff.mpr ⟨?_, ?_, ?_⟩
  · rw [List.dropWhile_append_of_pos hall, List.dropWhile_cons_of_neg (by decide)]
  · cases scheme with
    | nil => exact absurd halpha (by decide)
    | cons c scheme => exact halpha
  · rw [List.takeWhile_append_of_pos hall, List.takeWhile_cons_of_neg (by decide), List.append_nil]
    conv_rhs => rw [← List.map_id scheme]
    exact List.map_congr_left fun c hc => (hchars c hc).2.2

/-- A text is read as its scheme, its authority and what follows. -/
lemma parse_of_special {scheme front tail : List Char} {usual : Nat}
    (hkind : SchemeKind.of scheme = .special usual) (hne : front ≠ [])
    (hfront : ∀ c ∈ front, IsInner c) (htail : EndsAuthority tail)
    (hedge : ∀ c ∈ tail, isEdge c = false) :
    parse (String.ofList (scheme ++ ':' :: '/' :: '/' :: (front ++ tail))) =
      (parseAuthority (.special usual) true front).map fun r =>
        Front.complete ⟨scheme, some r.1⟩ (parsePath true) tail := by
  have hclean : ∀ c ∈ scheme ++ ':' :: '/' :: '/' :: (front ++ tail), isEdge c = false := by
    intro c hc
    simp only [List.mem_append, List.mem_cons] at hc
    rcases hc with hc | rfl | rfl | rfl | hc | hc
    · exact ((scheme_of_special hkind).1 c hc).2.1
    · decide
    · decide
    · decide
    · exact (hfront c hc).1
    · exact hedge c hc
  have hslashes : ('/' :: '/' :: (front ++ tail)).dropWhile (isSlash true) = front ++ tail := by
    obtain ⟨c, cs, rfl⟩ := List.exists_cons_of_ne_nil hne
    have hc : isSlash true c = false := by
      have := (hfront c List.mem_cons_self).2
      rw [endsAuthority, Bool.or_eq_false_iff, Bool.or_eq_false_iff] at this
      exact this.1.1
    rw [List.dropWhile_cons_of_pos (by decide), List.dropWhile_cons_of_pos (by decide),
      List.cons_append, List.dropWhile_cons_of_neg (by rw [hc]; decide)]
  have hafter : ∀ cs, parseAfterScheme scheme cs =
      parseHosted scheme (.special usual) (cs.dropWhile (isSlash true)) := by
    intro cs
    unfold parseAfterScheme
    rw [hkind]
  rw [parse_eq, String.toList_ofList, clean_eq_self hclean, parseKept,
    splitScheme?_of_special hkind]
  dsimp only
  rw [hafter, hslashes, parseHosted_special (fun c hc => (hfront c hc).2) htail]

namespace IsProper

variable {url : Url} {usual : Nat} {a : Authority} (h : url.IsProper usual a)

include h

/-- Nothing in a written authority is dropped or ends it. -/
lemma isInner_of_mem_authority : ∀ c ∈ a.text, IsInner c := by
  intro c hc
  rw [Authority.text, List.append_assoc] at hc
  rcases List.mem_append.mp hc with hc | hc
  · unfold Authority.userinfo at hc
    split at hc
    · cases hc
    · simp only [List.mem_append, List.mem_singleton] at hc
      rcases hc with (hc | hc) | rfl
      · exact (Authority.IsProper.isInner_of_user h.authority.username c hc).1
      · split at hc
        · cases hc
        · rcases List.mem_cons.mp hc with rfl | hc
          · decide
          · exact (Authority.IsProper.isInner_of_user h.authority.password c hc).1
      · decide
  · exact (h.authority.isInner_of_mem_rest hc).1

/-- Nothing that follows a written authority is dropped. -/
lemma isEdge_of_mem_rest :
    ∀ c ∈ url.path.text ++ (partAfter '?' url.query ++ partAfter '#' url.fragment),
      isEdge c = false := by
  have hpart : ∀ {encoded : UInt8 → Bool} {mark : Char} {part : Option (List Char)},
      isEdge mark = false → (∀ n ≤ 32, encoded (UInt8.ofNat n) = true) →
      (∀ cs ∈ part, IsFree encoded cs) → ∀ c ∈ partAfter mark part, isEdge c = false := by
    intro encoded mark part hmark hlow hfree c hc
    cases part with
    | none => cases hc
    | some cs =>
      rcases List.mem_cons.mp hc with rfl | hc
      · exact hmark
      · rw [isEdge, decide_eq_false_iff_not]
        intro hle
        exact (hfree cs rfl).notMem (hlow _ hle) hc
  refine List.forall_mem_append.mpr ⟨fun c hc => (h.path.isEdge_isMark c hc).1,
    List.forall_mem_append.mpr ⟨?_, ?_⟩⟩
  · exact hpart (by decide) (by decide) h.query
  · exact hpart (by decide) (by decide) h.fragment

/-- What follows a written authority is read as it was written. -/
lemma complete_text :
    Front.complete ⟨url.scheme, some a⟩ (parsePath true)
      (url.path.text ++ (partAfter '?' url.query ++ partAfter '#' url.fragment)) = url := by
  have hpath : ∀ c, isMark c = true → c ∉ url.path.text := by
    intro c hmark hmem
    rw [(h.path.isEdge_isMark c hmem).2] at hmark
    cases hmark
  have hfragment : '#' ∉ url.path.text ++ partAfter '?' url.query := by
    rw [List.mem_append, not_or]
    refine ⟨hpath _ (by decide), ?_⟩
    cases hquery : url.query with
    | none => exact List.not_mem_nil
    | some query =>
      rw [partAfter, List.mem_cons, not_or]
      exact ⟨by decide, (h.query query hquery).notMem (by decide)⟩
  have hsame : ∀ {encoded : UInt8 → Bool} {part : Option (List Char)},
      (∀ cs ∈ part, IsFree encoded cs) → part.map (Percent.encode encoded) = part := by
    intro encoded part hfree
    cases part with
    | none => rfl
    | some cs => exact congrArg some (hfree cs rfl).encode_eq
  unfold Front.complete
  rw [← List.append_assoc, cutAt_partAfter hfragment]
  dsimp only
  rw [cutAt_partAfter (hpath _ (by decide)), h.kind]
  have hspecial : (SchemeKind.special usual).isSpecial = true := rfl
  rw [if_pos hspecial, hsame h.query, hsame h.fragment, h.path.parsePath_text, ← h.authority_eq]

/-- A written URL is read as far as its authority is. -/
lemma parse_text_eq :
    parse url.text = (parseAuthority (.special usual) true a.text).map fun r =>
      Front.complete ⟨url.scheme, some r.1⟩ (parsePath true)
        (url.path.text ++ (partAfter '?' url.query ++ partAfter '#' url.fragment)) := by
  have hne : a.text ≠ [] := by
    rw [Authority.text, List.append_assoc]
    exact List.append_ne_nil_of_right_ne_nil _
      (List.append_ne_nil_of_left_ne_nil h.authority.host.text_ne_nil _)
  have htext : url.text = String.ofList (url.scheme ++ ':' :: '/' :: '/' :: (a.text ++
      (url.path.text ++ (partAfter '?' url.query ++ partAfter '#' url.fragment)))) := by
    unfold text toList beforePath
    rw [h.authority_eq]
    simp
  rw [htext]
  exact parse_of_special h.kind hne h.isInner_of_mem_authority (h.path.endsAuthority _)
    h.isEdge_of_mem_rest

/-- **A written URL** is read as itself, if its host is readable, and else it is none. -/
theorem parse_text :
    (url.IsReadable → parse url.text = .ok url) ∧
      (¬ url.IsReadable → parse url.text = .error .badDomain) := by
  have hreadable : url.IsReadable ↔ a.host.IsReadable := by
    rw [IsReadable, h.authority_eq]
    simp
  obtain ⟨hread, hnot⟩ := h.authority.parseAuthority_text
  rw [h.parse_text_eq, hreadable]
  constructor
  · intro hhost
    rw [hread hhost]
    exact congrArg Except.ok h.complete_text
  · intro hhost
    rw [hnot hhost]
    rfl

end IsProper

/-! ### Pairs in a query -/

/-- Nothing in a written pair has to be encoded. -/
lemma Form.isFree_encodePair (pair : String × String) :
    IsFree Percent.inSpecialQuery (encodePair pair) := by
  have hwritten : ∀ n < 256, (written (UInt8.ofNat n)).Forall fun c =>
      c.toNat < 128 ∧ Percent.inSpecialQuery (UInt8.ofNat c.toNat) = false := by
    decide +kernel
  have hencode : ∀ s, IsFree Percent.inSpecialQuery (encode s) := by
    intro s c hc
    obtain ⟨b, -, hb⟩ := List.mem_flatMap.mp hc
    refine List.forall_iff_forall_mem.mp (hwritten b.toNat b.toNat_lt) c ?_
    rw [UInt8.ofNat_toNat]
    exact hb
  refine (hencode _).append (List.forall_mem_cons.mpr ⟨by decide, hencode _⟩)

lemma Form.isFree_append {query : List Char} (h : IsFree Percent.inSpecialQuery query)
    (pairs : List (String × String)) : IsFree Percent.inSpecialQuery (append query pairs) := by
  induction pairs generalizing query with
  | nil => exact h
  | cons pair rest ih =>
    refine ih (IsFree.append ?_ (isFree_encodePair pair))
    split
    · simp [IsFree]
    · exact h.append (List.forall_mem_singleton.mpr (by decide))

/-- A URL stays proper when pairs are added to its query. -/
lemma IsProper.withPairs {url : Url} {usual : Nat} {a : Authority} (h : url.IsProper usual a)
    (pairs : List (String × String)) : (url.withPairs pairs).IsProper usual a := by
  unfold Url.withPairs
  split
  · exact h
  · refine ⟨h.kind, h.authority_eq, h.authority, h.path, ?_, h.fragment⟩
    intro query hquery
    obtain rfl := Option.mem_some.mp hquery
    refine Form.isFree_append ?_ pairs
    cases hbefore : url.query with
    | none => simp [IsFree]
    | some before => exact h.query before hbefore

end XoLedger.Url

import XoLedger.Proofs.Gateway.Rest
import XoLedger.Proofs.Url.Path

/-!
# Which base URLs endpoints can be joined to

A server is accepted by one text, and its endpoints are read from others: the same text without
the slashes at its end, a slash, and the path of the endpoint. The two readings agree on the server
exactly if the text can be continued as it stands. It cannot where a query or a fragment would
swallow the endpoint, where a blank at the end would come to stand inside, and where the path ends
in a slash that is not written as one at the end of the text.
-/

namespace XoLedger

/-- A URL is on the server of another one, at a path below the other one's. -/
structure Url.IsBelow (url base : Url) (path : String) : Prop where
  /-- The schemes are the same. -/
  scheme_eq : url.scheme = base.scheme
  /-- The user, the host and the port are the same. -/
  authority_eq : url.authority = base.authority
  /-- The path is added to the other one after a slash. -/
  path_eq : url.path.text = dropEndWhile (· = '/') base.path.text ++ '/' :: path.toList

namespace RestApi

open Url (Front clean kept blanks isEdge parseKept parsePath reached)

/-- The paths of the endpoints that are asked for. -/
def endpointPaths : List String := [batchesPath, statusesPath, statePath]

/-- Whether all endpoints can be asked for below a base, with any query. -/
def IsUsable (api : RestApi) (base : Url) : Prop :=
  ∀ path ∈ endpointPaths, ∀ pairs, ∃ url,
    api.endpoint path pairs = .ok url ∧ url.IsBelow base path

/-- Whether a base URL can be continued as it stands. -/
structure IsJoinable (url : String) : Prop where
  /-- There is no query. -/
  query : '?' ∉ url.toList
  /-- There is no fragment. -/
  fragment : '#' ∉ url.toList
  /-- No blanks are left out at the end. -/
  blank : blanks url.toList = []
  /-- With one slash at its end, the path does not end in two. -/
  gap : ∀ slashed, Url.parse (withoutSlashes url ++ "/") = .ok slashed →
    ¬ ['/', '/'] <:+ slashed.path.text

/-! ### Slashes at the end -/

lemma dropEndWhile_append_slashes (cs : List Char) (n : Nat) :
    dropEndWhile (· = '/') (cs ++ List.replicate n '/') = dropEndWhile (· = '/') cs := by
  induction n with
  | zero => rw [List.replicate_zero, List.append_nil]
  | succ n ih =>
    rw [List.replicate_succ', ← List.append_assoc, ← ih]
    exact List.rdropWhile_concat_pos _ _ _ (by decide)

lemma dropEndWhile_slash_eq_self_iff (cs : List Char) :
    dropEndWhile (· = '/') cs = cs ↔ ¬ ['/', '/'] <:+ cs ++ ['/'] := by
  rcases List.eq_nil_or_concat cs with rfl | ⟨init, last, rfl⟩
  · refine iff_of_true rfl fun h => ?_
    exact absurd h.length_le (by decide)
  · have hsuffix : ['/', '/'] <:+ init ++ [last] ++ ['/'] ↔ last = '/' := by
      rw [← List.reverse_prefix]
      simp [eq_comm]
    have hdrop : dropEndWhile (· = '/') (init ++ [last]) = init ++ [last] ↔ last ≠ '/' := by
      refine List.rdropWhile_eq_self_iff.trans ?_
      simp
    rw [List.concat_eq_append, hdrop, hsuffix]

/-- A text is its part before the slashes at its end, and those. -/
lemma exists_slashes (cs : List Char) :
    ∃ n, cs = dropEndWhile (· = '/') cs ++ List.replicate n '/' := by
  refine ⟨(cs.rtakeWhile (· = '/')).length, ?_⟩
  have hslashes : cs.rtakeWhile (· = '/') =
      List.replicate (cs.rtakeWhile (· = '/')).length '/' := by
    rw [List.eq_replicate_iff]
    refine ⟨rfl, fun c hc => ?_⟩
    simpa using List.mem_rtakeWhile_imp hc
  rw [← hslashes]
  exact List.rdropWhile_append_rtakeWhile.symm

/-- Slashes at the end of a text are not dropped. -/
lemma isEdge_of_mem_slashes {n : Nat} : ∀ c ∈ List.replicate n '/', isEdge c = false := by
  intro c hc
  rw [List.eq_of_mem_replicate hc]
  rfl

/-! ### Where the endpoint is joined -/

/-- How a base URL is read, and how the text of an endpoint: as far as `tail` in the same way,
and then the slashes of the one, and the blanks and the endpoint of the other. -/
structure IsSeam (url : String) (base : Url) (front : Front) (tail : List Char) (n : Nat) :
    Prop where
  /-- The base is read with the slashes at its end. -/
  base_eq : base = front.complete (parsePath true) (tail ++ List.replicate n '/')
  /-- The tail does not belong to the authority. -/
  stop : Url.EndsAuthority tail
  /-- Question marks and number signs stand in the tail. -/
  mark : ∀ c, c = '?' ∨ c = '#' → (c ∈ url.toList ↔ c ∈ tail)
  /-- Blanks at the end are not followed by slashes. -/
  end_eq : blanks url.toList = [] ∨ n = 0
  /-- The endpoint is read after the tail and the blanks. -/
  parse : ∀ name : String, (∀ c ∈ name.toList, isEdge c = false) →
    tail ≠ [] ∨ blanks url.toList = [] →
      Url.parse (withoutSlashes url ++ "/" ++ name) =
        .ok (front.complete (parsePath true) (tail ++ (blanks url.toList ++ '/' :: name.toList)))
  /-- Where there is no tail, no endpoint can be read after blanks. -/
  refuse : ∀ name : String, (∀ c ∈ name.toList, isEdge c = false) →
    tail = [] → blanks url.toList ≠ [] →
      ∀ r, Url.parse (withoutSlashes url ++ "/" ++ name) ≠ .ok r

/-- What is read of a base URL is read of the text of an endpoint, too. -/
lemma exists_clean (url : String) : ∃ core n,
    clean url.toList = core ++ List.replicate n '/' ∧ (blanks url.toList = [] ∨ n = 0) ∧
      ∀ name : String, (∀ c ∈ name.toList, isEdge c = false) →
        clean (withoutSlashes url ++ "/" ++ name).toList =
          core ++ (blanks url.toList ++ '/' :: name.toList) := by
  have htext : ∀ name : String, (withoutSlashes url ++ "/" ++ name).toList =
      dropEndWhile (· = '/') url.toList ++ '/' :: name.toList := by
    intro name
    simp [withoutSlashes]
  have hedge : ∀ name : String, (∀ c ∈ name.toList, isEdge c = false) →
      ∀ c ∈ '/' :: name.toList, isEdge c = false := by
    intro name hname c hc
    rcases List.mem_cons.mp hc with rfl | hc
    · rfl
    · exact hname c hc
  obtain ⟨n, hslashes⟩ := exists_slashes url.toList
  cases n with
  | zero =>
    rw [List.replicate_zero, List.append_nil] at hslashes
    refine ⟨clean url.toList, 0, (List.append_nil _).symm, .inr rfl, fun name hname => ?_⟩
    rw [htext, ← hslashes, Url.clean_append (hedge name hname) (List.cons_ne_nil _ _),
      ← Url.clean_append_blanks, List.append_assoc]
  | succ n =>
    have hne : List.replicate (n + 1) '/' ≠ [] := by simp
    have hblanks : blanks url.toList = [] := by
      rw [hslashes]
      exact Url.blanks_append isEdge_of_mem_slashes hne _
    refine ⟨kept (dropEndWhile (· = '/') url.toList), n + 1, ?_, .inl hblanks, fun name hname => ?_⟩
    · conv_lhs => rw [hslashes]
      exact Url.clean_append isEdge_of_mem_slashes hne _
    · rw [htext, Url.clean_append (hedge name hname) (List.cons_ne_nil _ _), hblanks,
        List.nil_append]

/-- A scheme for the web is a special one. -/
lemma exists_usualPort {base : Url} (h : hasWebScheme base = true) :
    ∃ usual, Url.SchemeKind.of base.scheme = .special usual := by
  rw [hasWebScheme, Bool.or_eq_true, decide_eq_true_eq, decide_eq_true_eq] at h
  rcases h with h | h
  · exact ⟨80, by rw [h]; rfl⟩
  · exact ⟨443, by rw [h]; rfl⟩

/-- Every accepted URL has a place where endpoints are joined. -/
lemma exists_isSeam {url : String} {base : Url} (hbase : Url.parse url = .ok base)
    (hweb : hasWebScheme base = true) : ∃ front tail n, IsSeam url base front tail n := by
  obtain ⟨core, n, hclean, hend, hjoined⟩ := exists_clean url
  obtain ⟨usual, hscheme⟩ := exists_usualPort hweb
  rw [Url.parse_eq, hclean] at hbase
  have hslashes : ∀ c ∈ List.replicate n '/', c = '/' ∨ isEdge c = true := fun c hc =>
    .inl (List.eq_of_mem_replicate hc)
  obtain ⟨front, tail, hread, -⟩ := Url.exists_isRead hslashes hbase hscheme
  refine ⟨front, tail, n, ?_, hread.stop, ?_, hend, ?_, ?_⟩
  · rw [hread.parse _ (Url.endsAuthority_append_slashes hread.stop n), Except.ok.injEq] at hbase
    exact hbase.symm
  · intro c hc
    have hedge : isEdge c = false := by
      rcases hc with rfl | rfl <;> decide
    rw [← hread.mark c hc, ← Url.mem_kept_iff hedge, ← Url.clean_append_blanks, hclean]
    have hblanks : c ∉ blanks url.toList := by
      intro hmem
      rw [Url.isEdge_of_mem_blanks hmem] at hedge
      cases hedge
    have hslashes : c ∉ List.replicate n '/' := by
      intro hmem
      rw [List.eq_of_mem_replicate hmem] at hc
      exact absurd hc (by decide)
    simp [hblanks, hslashes]
  · intro name hname hstop
    rw [Url.parse_eq, hjoined name hname]
    refine hread.parse _ ?_
    cases htail : tail with
    | cons c rest =>
      have := hread.stop
      rw [htail] at this
      exact this
    | nil =>
      rw [hstop.resolve_left fun hne => hne htail]
      exact Url.endsAuthority_slash _
  · intro name hname htail hne r
    rw [Url.parse_eq, hjoined name hname]
    exact hread.refuse htail _ _ hne (fun c hc => Url.isEdge_of_mem_blanks hc)
      (Url.endsAuthority_slash _) r

/-! ### Endpoints below a base -/

/-- The paths of endpoints are names. -/
lemma isName_of_mem {path : String} (h : path ∈ endpointPaths) : Url.IsName path.toList := by
  have hplain : (endpointPaths.all fun path =>
      path.toList.all fun c => !isEdge c && !Url.isMark c) = true := by
    decide +kernel
  have hchars : ∀ c ∈ path.toList, isEdge c = false ∧ Url.isMark c = false := by
    intro c hc
    simpa using List.all_eq_true.mp (List.all_eq_true.mp hplain path h) c hc
  simp only [endpointPaths, List.mem_cons, List.not_mem_nil, or_false] at h
  rcases h with rfl | rfl | rfl <;>
    exact ⟨fun c hc => (hchars c hc).1, fun c hc => (hchars c hc).2, by decide +kernel,
      by decide +kernel, by decide +kernel⟩

/-- An endpoint is usable whatever is asked for, if it is without a query. -/
lemma isUsable_iff_parse {url : String} {base : Url} :
    IsUsable ⟨withoutSlashes url⟩ base ↔
      ∀ path ∈ endpointPaths, ∃ r,
        Url.parse (withoutSlashes url ++ "/" ++ path) = .ok r ∧ r.IsBelow base path := by
  constructor
  · intro h path hpath
    obtain ⟨r, hr, hbelow⟩ := h path hpath []
    refine ⟨r, ?_, hbelow⟩
    rw [endpoint] at hr
    split at hr
    · cases hr
    · rename_i r' hr'
      rw [Except.ok.injEq] at hr
      rw [← hr]
      exact hr'
  · intro h path hpath pairs
    obtain ⟨r, hr, hbelow⟩ := h path hpath
    refine ⟨r.withPairs pairs, ?_, ?_⟩
    · rw [endpoint, hr]
    · rw [Url.withPairs]
      split
      · exact hbelow
      · exact ⟨hbelow.scheme_eq, hbelow.authority_eq, hbelow.path_eq⟩

namespace IsSeam

variable {url : String} {base : Url} {front : Front} {tail : List Char} {n : Nat}

/-- Behind a question mark or a number sign there is no path. -/
lemma path_eq_of_mark (hs : IsSeam url base front tail n) {c : Char} (hc : c = '?' ∨ c = '#')
    (hmem : c ∈ url.toList) {name : String} (hname : ∀ c ∈ name.toList, isEdge c = false) :
    ∃ r, Url.parse (withoutSlashes url ++ "/" ++ name) = .ok r ∧
      r.path = parsePath true (tail.takeWhile fun c => !Url.isMark c) := by
  have htail : c ∈ tail := (hs.mark c hc).mp hmem
  refine ⟨_, hs.parse name hname (.inl (List.ne_nil_of_mem htail)), ?_⟩
  rw [Url.path_complete, List.takeWhile_append, if_neg]
  intro hlength
  have hall := List.takeWhile_eq_self_iff.mp ((List.takeWhile_prefix _).eq_of_length hlength)
  have hmark : Url.isMark c = true := by
    rcases hc with rfl | rfl <;> decide
  simpa [hmark] using hall c htail

/-- Where a base URL has a query or a fragment, all endpoints have one path. -/
lemma not_isUsable_of_mark (hs : IsSeam url base front tail n) {c : Char} (hc : c = '?' ∨ c = '#')
    (hmem : c ∈ url.toList) : ¬ IsUsable ⟨withoutSlashes url⟩ base := by
  intro h
  have hpath : ∀ path ∈ endpointPaths,
      (parsePath true (tail.takeWhile fun c => !Url.isMark c)).text =
        dropEndWhile (· = '/') base.path.text ++ '/' :: path.toList := by
    intro path hpath
    obtain ⟨r, hr, hbelow⟩ := isUsable_iff_parse.mp h path hpath
    obtain ⟨r', hr', hsame⟩ := hs.path_eq_of_mark hc hmem (isName_of_mem hpath).edge
    rw [hr, Except.ok.injEq] at hr'
    subst hr'
    rw [← hsame]
    exact hbelow.path_eq
  have hbatches := hpath batchesPath (by decide)
  rw [hpath statePath (by decide), List.append_cancel_left_eq] at hbatches
  exact absurd hbatches (by decide)

section Unmarked

variable (hs : IsSeam url base front tail n) (hquery : '?' ∉ url.toList)
  (hfragment : '#' ∉ url.toList)

include hs hquery hfragment

lemma isMark_of_mem {c : Char} (hc : c ∈ tail) : Url.isMark c = false := by
  rw [← Bool.not_eq_true, Url.isMark, Bool.or_eq_true, decide_eq_true_eq, decide_eq_true_eq]
  rintro (rfl | rfl)
  · exact hquery ((hs.mark _ (.inl rfl)).mpr hc)
  · exact hfragment ((hs.mark _ (.inr rfl)).mpr hc)

lemma startsPath : Url.StartsPath tail := by
  intro c hc
  have hends := hs.stop c hc
  have hmark := hs.isMark_of_mem hquery hfragment (List.mem_of_mem_head? hc)
  rw [Url.isMark, Bool.or_eq_false_iff] at hmark
  rwa [Url.endsAuthority, hmark.1, hmark.2, Bool.or_false, Bool.or_false] at hends

/-- Without marks, all that follows the authority is path. -/
lemma path_complete {rest : List Char} (hrest : ∀ c ∈ rest, Url.isMark c = false) :
    (front.complete (parsePath true) (tail ++ rest)).path = parsePath true (tail ++ rest) := by
  rw [Url.path_complete, List.takeWhile_eq_self_iff.mpr]
  intro c hc
  rcases List.mem_append.mp hc with hc | hc
  · rw [hs.isMark_of_mem hquery hfragment hc, Bool.not_false]
  · rw [hrest c hc, Bool.not_false]

lemma path_base : base.path = parsePath true (tail ++ List.replicate n '/') := by
  rw [hs.base_eq]
  refine hs.path_complete hquery hfragment fun c hc => ?_
  rw [List.eq_of_mem_replicate hc]
  rfl

/-- The path of an endpoint leads where the path of the base leads with the blanks `t` at its end,
and then to the endpoint. -/
lemma path_joined {t name : List Char} (ht : ∀ c ∈ t, isEdge c = true)
    (hstarts : Url.StartsPath (tail ++ t)) (hname : Url.IsName name) :
    (front.complete (parsePath true) (tail ++ (t ++ '/' :: name))).path =
      .segments (reached (tail ++ t) ++ [name]) := by
  have hmark : ∀ c ∈ t ++ '/' :: name, Url.isMark c = false := by
    intro c hc
    rcases List.mem_append.mp hc with hc | hc
    · exact Url.isMark_of_isEdge (ht c hc)
    · rcases List.mem_cons.mp hc with rfl | hc
      · rfl
      · exact hname.mark c hc
  rw [hs.path_complete hquery hfragment hmark, ← List.append_assoc,
    Url.parsePath_append_name hstarts hname]

/-- Without blanks at its end, a base URL is continued where its path leads. -/
lemma parse_name (hblank : blanks url.toList = []) {name : String}
    (hname : Url.IsName name.toList) :
    ∃ r, Url.parse (withoutSlashes url ++ "/" ++ name) = .ok r ∧ r.scheme = base.scheme ∧
      r.authority = base.authority ∧ r.path = .segments (reached tail ++ [name.toList]) := by
  have hparse := hs.parse name hname.edge (.inr hblank)
  have hstarts : Url.StartsPath (tail ++ []) := by
    rw [List.append_nil]
    exact hs.startsPath hquery hfragment
  have hpath := hs.path_joined hquery hfragment (List.forall_mem_nil _) hstarts hname
  rw [List.append_nil] at hpath
  rw [hblank] at hparse
  refine ⟨_, hparse, ?_, ?_, hpath⟩
  · rw [hs.base_eq]
    rfl
  · rw [hs.base_eq]
    rfl

/-- Slashes that end the path of the base are left out once. Where its path leads must not end in
more of them. -/
lemma path_eq_iff (name : String) :
    (Url.Path.segments (reached tail ++ [name.toList])).text =
        dropEndWhile (· = '/') base.path.text ++ '/' :: name.toList ↔
      ¬ ['/', '/'] <:+ (Url.Path.segments (reached tail ++ [[]])).text := by
  obtain ⟨m, hbase⟩ := Url.exists_text_parsePath (hs.startsPath hquery hfragment) n
  rw [hs.path_base hquery hfragment, hbase, dropEndWhile_append_slashes, Url.Path.text_append,
    Url.Path.text_singleton, List.append_cancel_right_eq, Url.Path.text_append,
    Url.Path.text_singleton, ← dropEndWhile_slash_eq_self_iff, eq_comm]

/-- Without marks and blanks, a base URL is usable exactly if its path has no gap. -/
lemma isUsable_iff_gap (hblank : blanks url.toList = []) :
    IsUsable ⟨withoutSlashes url⟩ base ↔
      ¬ ['/', '/'] <:+ (Url.Path.segments (reached tail ++ [[]])).text := by
  rw [isUsable_iff_parse]
  constructor
  · intro h
    have hmem : batchesPath ∈ endpointPaths := List.mem_cons_self
    obtain ⟨r, hr, -, -, hpath⟩ := hs.parse_name hquery hfragment hblank (isName_of_mem hmem)
    obtain ⟨r', hr', hbelow⟩ := h batchesPath hmem
    rw [hr, Except.ok.injEq] at hr'
    subst hr'
    have := hbelow.path_eq
    rw [hpath] at this
    exact (hs.path_eq_iff hquery hfragment batchesPath).mp this
  · intro h path hmem
    obtain ⟨r, hr, hscheme, hauthority, hpath⟩ :=
      hs.parse_name hquery hfragment hblank (isName_of_mem hmem)
    refine ⟨r, hr, hscheme, hauthority, ?_⟩
    rw [hpath]
    exact (hs.path_eq_iff hquery hfragment path).mpr h

/-- A base URL with one slash at its end is read where its path leads. -/
lemma gap_iff (hblank : blanks url.toList = []) :
    (∀ slashed, Url.parse (withoutSlashes url ++ "/") = .ok slashed →
        ¬ ['/', '/'] <:+ slashed.path.text) ↔
      ¬ ['/', '/'] <:+ (Url.Path.segments (reached tail ++ [[]])).text := by
  have hempty : Url.IsName "".toList :=
    ⟨List.forall_mem_nil _, List.forall_mem_nil _, rfl, rfl, rfl⟩
  obtain ⟨r, hr, -, -, hpath⟩ := hs.parse_name hquery hfragment hblank hempty
  rw [String.append_empty] at hr
  rw [hr]
  constructor
  · intro h
    have := h r rfl
    rwa [hpath] at this
  · rintro h slashed hslashed
    cases hslashed
    rwa [hpath]

/-- A blank at the end of a base URL comes to stand inside its path. -/
lemma not_isUsable_of_blank (hblank : blanks url.toList ≠ []) :
    ¬ IsUsable ⟨withoutSlashes url⟩ base := by
  intro h
  have hmem : batchesPath ∈ endpointPaths := List.mem_cons_self
  have hname := isName_of_mem hmem
  obtain ⟨r, hr, hbelow⟩ := isUsable_iff_parse.mp h batchesPath hmem
  have hne : tail ≠ [] := by
    intro htail
    exact hs.refuse batchesPath hname.edge htail hblank r hr
  have hn : n = 0 := hs.end_eq.resolve_left hblank
  have hbase := hs.path_base hquery hfragment
  rw [hn, List.replicate_zero, List.append_nil] at hbase
  rw [hs.parse batchesPath hname.edge (.inl hne), Except.ok.injEq] at hr
  subst hr
  have hedge : ∀ c ∈ blanks url.toList, isEdge c = true := fun c hc => Url.isEdge_of_mem_blanks hc
  have hstarts := hs.startsPath hquery hfragment
  have hstarts' : Url.StartsPath (tail ++ blanks url.toList) := by
    rw [Url.StartsPath, List.head?_append_of_ne_nil _ hne]
    exact hstarts
  have hpath := hbelow.path_eq
  rw [hs.path_joined hquery hfragment hedge hstarts' hname, Url.Path.text_append,
    Url.Path.text_singleton, List.append_cancel_right_eq, hbase] at hpath
  have hlonger := Url.length_text_parsePath_lt hstarts hne hblank hedge
  have hshorter := (List.rdropWhile_prefix (· = '/') (l := (parsePath true tail).text)).length_le
  rw [hpath] at hlonger
  exact absurd hlonger (Nat.not_lt.mpr hshorter)

end Unmarked

end IsSeam

/-- **A server can be used with the base URL it was accepted with exactly if the URL can be
continued as it stands**: then every endpoint has a URL, whatever is asked for, on the server and
below the path of the base. -/
theorem isUsable_iff_isJoinable {url : String} {api : RestApi} {base : Url}
    (hapi : ofUrl url = .ok api) (hbase : Url.parse url = .ok base) :
    api.IsUsable base ↔ IsJoinable url := by
  obtain ⟨rfl, parsed, hparsed, hweb⟩ := ofUrl_eq_ok_iff.mp hapi
  rw [hbase, Except.ok.injEq] at hparsed
  subst hparsed
  obtain ⟨front, tail, n, hs⟩ := exists_isSeam hbase hweb
  constructor
  · intro h
    have hquery : '?' ∉ url.toList := fun hmem => hs.not_isUsable_of_mark (.inl rfl) hmem h
    have hfragment : '#' ∉ url.toList := fun hmem => hs.not_isUsable_of_mark (.inr rfl) hmem h
    have hblank : blanks url.toList = [] := by
      by_contra hne
      exact hs.not_isUsable_of_blank hquery hfragment hne h
    refine ⟨hquery, hfragment, hblank, ?_⟩
    rw [hs.gap_iff hquery hfragment hblank]
    exact (hs.isUsable_iff_gap hquery hfragment hblank).mp h
  · rintro ⟨hquery, hfragment, hblank, hgap⟩
    rw [hs.gap_iff hquery hfragment hblank] at hgap
    exact (hs.isUsable_iff_gap hquery hfragment hblank).mpr hgap

/-- A server on the machine itself, below a path of its own. -/
def loopback : Url :=
  { scheme := "http".toList
    authority := some ⟨[], [], .ipv6 [0, 0, 0, 0, 0, 0, 0, 1], some 8008⟩
    path := .segments ["sawtooth".toList, []]
    query := none
    fragment := none }

/-- A base URL with a port, a path and a slash at its end is usable. -/
theorem isUsable_loopback :
    ofUrl "http://[::1]:8008/sawtooth/" = .ok ⟨"http://[::1]:8008/sawtooth"⟩ ∧
      Url.parse "http://[::1]:8008/sawtooth/" = .ok loopback ∧
      IsUsable ⟨"http://[::1]:8008/sawtooth"⟩ loopback := by
  have hapi : ofUrl "http://[::1]:8008/sawtooth/" = .ok ⟨"http://[::1]:8008/sawtooth"⟩ := by
    decide +kernel
  have hbase : Url.parse "http://[::1]:8008/sawtooth/" = .ok loopback := by
    decide +kernel
  refine ⟨hapi, hbase, (isUsable_iff_isJoinable hapi hbase).mpr ⟨?_, ?_, ?_, ?_⟩⟩
  · decide +kernel
  · decide +kernel
  · decide +kernel
  · intro slashed hslashed
    have hsame : withoutSlashes "http://[::1]:8008/sawtooth/" ++ "/" =
        "http://[::1]:8008/sawtooth/" := by
      decide +kernel
    rw [hsame, hbase] at hslashed
    cases hslashed
    decide +kernel

/-- A base URL with a blank at its end is accepted, and then no endpoint has a URL: the blank has
become a part of the port. -/
theorem not_isUsable_blank :
    ∃ api base, ofUrl "http://[::1]:8008 " = .ok api ∧ Url.parse "http://[::1]:8008 " = .ok base ∧
      (∀ path ∈ endpointPaths, ∀ pairs,
        api.endpoint path pairs = .error (.badEndpoint path .badPort)) ∧
      ¬ api.IsUsable base := by
  have herror : ∀ path ∈ endpointPaths, ∀ pairs,
      endpoint ⟨"http://[::1]:8008 "⟩ path pairs = .error (.badEndpoint path .badPort) := by
    intro path hpath pairs
    have hparse : ∀ path ∈ endpointPaths,
        Url.parse ("http://[::1]:8008 " ++ "/" ++ path) = .error .badPort := by
      decide +kernel
    rw [endpoint, hparse path hpath]
  refine ⟨⟨"http://[::1]:8008 "⟩, { loopback with path := .segments [[]] }, by decide +kernel,
    by decide +kernel, herror, fun h => ?_⟩
  obtain ⟨r, hr, -⟩ := h statePath (by decide) []
  rw [herror statePath (by decide)] at hr
  cases hr

/-- The query of a base URL swallows the endpoint. -/
example : (endpoint ⟨"http://[::1]:8008?x=1"⟩ statePath []).map Url.text =
    .ok "http://[::1]:8008/?x=1/state" := by
  decide +kernel

end RestApi

end XoLedger

import Mathlib.Data.List.DropRight
import Mathlib.Data.List.TakeWhile
import XoLedger.Proofs.Url.Authority

/-!
# What follows a text is read after it

A URL is read from the left, and its authority ends at the first slash, question mark or number
sign. So when a text is a URL, what comes before its path is settled: it stays as it is, whatever
is written behind the text, as long as that does not lengthen the authority. What is dropped is
another matter: blanks at the end of a text are no longer at the end when something follows.
-/

namespace XoLedger.Url

/-! ### What is dropped -/

/-- The text without what is dropped at its start and inside. -/
def kept (cs : List Char) : List Char :=
  (cs.dropWhile isEdge).filter fun c => !isLineOrTab c

/-- What is dropped at the end of a text and nowhere else. -/
def blanks (cs : List Char) : List Char :=
  ((cs.dropWhile isEdge).rtakeWhile isEdge).filter fun c => !isLineOrTab c

/-- What is kept of a text is what is read and the blanks at its end. -/
lemma clean_append_blanks (cs : List Char) : clean cs ++ blanks cs = kept cs := by
  rw [clean, blanks, kept, ← List.filter_append]
  exact congrArg _ List.rdropWhile_append_rtakeWhile

lemma isEdge_of_mem_blanks {cs : List Char} {c : Char} (h : c ∈ blanks cs) : isEdge c = true :=
  List.mem_rtakeWhile_imp (List.mem_of_mem_filter h)

lemma isLineOrTab_of_not_isEdge {c : Char} (h : isEdge c = false) : isLineOrTab c = false := by
  rw [← Bool.not_eq_true] at h ⊢
  intro hline
  apply h
  rw [isLineOrTab, Bool.or_eq_true, Bool.or_eq_true, decide_eq_true_eq, decide_eq_true_eq,
    decide_eq_true_eq] at hline
  rcases hline with (rfl | rfl) | rfl <;> decide

section Following

variable {rest : List Char} (hrest : ∀ c ∈ rest, isEdge c = false)

include hrest

lemma dropWhile_isEdge_append (cs : List Char) :
    (cs ++ rest).dropWhile isEdge = cs.dropWhile isEdge ++ rest := by
  have hself : rest.dropWhile isEdge = rest := by
    cases rest with
    | nil => rfl
    | cons c rest => rw [List.dropWhile_cons_of_neg (by rw [hrest c List.mem_cons_self]; decide)]
  rw [List.dropWhile_append, hself]
  split
  · rename_i hempty
    rw [List.isEmpty_iff.mp hempty, List.nil_append]
  · rfl

/-- What holds nothing to drop is kept, whatever stands before it. -/
lemma kept_append (cs : List Char) : kept (cs ++ rest) = kept cs ++ rest := by
  rw [kept, kept, dropWhile_isEdge_append hrest, List.filter_append]
  congr 1
  refine List.filter_eq_self.mpr fun c hc => ?_
  rw [isLineOrTab_of_not_isEdge (hrest c hc), Bool.not_false]

lemma blanks_append (hne : rest ≠ []) (cs : List Char) : blanks (cs ++ rest) = [] := by
  have hend : (cs.dropWhile isEdge ++ rest).rtakeWhile isEdge = [] := by
    rw [List.rtakeWhile_eq_nil_iff]
    intro hne'
    rw [List.getLast_append_of_ne_nil hne' hne, hrest _ (List.getLast_mem hne)]
    decide
  rw [blanks, dropWhile_isEdge_append hrest, hend]
  rfl

/-- Nothing is dropped at the end of a text that does not end in something to drop. -/
lemma clean_append (hne : rest ≠ []) (cs : List Char) : clean (cs ++ rest) = kept cs ++ rest := by
  have h := clean_append_blanks (cs ++ rest)
  rwa [blanks_append hrest hne, List.append_nil, kept_append hrest] at h

end Following

/-- A character that is never dropped is kept. -/
lemma mem_kept_iff {c : Char} (hc : isEdge c = false) {cs : List Char} : c ∈ kept cs ↔ c ∈ cs := by
  rw [kept, List.mem_filter, isLineOrTab_of_not_isEdge hc]
  constructor
  · rintro ⟨h, -⟩
    exact (List.dropWhile_suffix _).mem h
  · intro h
    refine ⟨?_, rfl⟩
    rw [← List.takeWhile_append_dropWhile (p := isEdge) (l := cs), List.mem_append] at h
    refine h.resolve_left fun hfront => ?_
    rw [List.mem_takeWhile_imp hfront] at hc
    cases hc

/-! ### Schemes -/

/-- Reads a text of which nothing is to be dropped. -/
def parseKept (cs : List Char) : Except Error Url :=
  match splitScheme? cs with
  | none => .error .relative
  | some (scheme, rest) => parseAfterScheme scheme rest

lemma parse_eq (text : String) : parse text = parseKept (clean text.toList) := rfl

/-- What is read has a scheme, and the rest is read behind it. -/
lemma parseKept_eq_ok_iff {cs : List Char} {url : Url} :
    parseKept cs = .ok url ↔
      ∃ scheme rest, splitScheme? cs = some (scheme, rest) ∧
        parseAfterScheme scheme rest = .ok url := by
  rw [parseKept]
  cases splitScheme? cs with
  | none => simp
  | some parts =>
    obtain ⟨scheme, rest⟩ := parts
    simp

/-- A text with a scheme: a name that starts with a letter, and a colon after it. -/
lemma splitScheme?_eq_some_iff {cs scheme rest : List Char} :
    splitScheme? cs = some (scheme, rest) ↔
      cs.dropWhile isSchemeChar = ':' :: rest ∧ (cs.head?.map Char.isAlpha).getD false = true ∧
        (cs.takeWhile isSchemeChar).map Domain.lowerAscii = scheme := by
  unfold splitScheme?
  split
  · rename_i rest' hrest
    rw [hrest]
    split_ifs with halpha
    · simp only [Option.some.injEq, Prod.mk.injEq, List.cons.injEq, true_and]
      tauto
    · simp [halpha]
  · rename_i hnone
    constructor
    · simp
    · rintro ⟨hcolon, -⟩
      exact absurd hcolon (hnone rest)

/-! What stops within a list stops there whatever follows. -/

section Stopping

variable {p : Char → Bool} {cs : List Char} {c : Char} {rest : List Char}
  (h : cs.dropWhile p = c :: rest)

include h

lemma ne_nil_of_dropWhile : cs ≠ [] := by
  rintro rfl
  cases h

lemma dropWhile_append_of_stop (rest' : List Char) :
    (cs ++ rest').dropWhile p = c :: (rest ++ rest') := by
  rw [List.dropWhile_append, h]
  rfl

lemma takeWhile_append_of_stop (rest' : List Char) :
    (cs ++ rest').takeWhile p = cs.takeWhile p := by
  rw [List.takeWhile_append, if_neg]
  intro hlength
  have := congrArg List.length (List.takeWhile_append_dropWhile (p := p) (l := cs))
  rw [h, List.length_append, List.length_cons] at this
  omega

end Stopping

/-- A scheme is read alike whatever follows its text. -/
lemma splitScheme?_append {cs scheme rest : List Char} (h : splitScheme? cs = some (scheme, rest))
    (rest' : List Char) : splitScheme? (cs ++ rest') = some (scheme, rest ++ rest') := by
  obtain ⟨hcolon, halpha, hscheme⟩ := splitScheme?_eq_some_iff.mp h
  refine splitScheme?_eq_some_iff.mpr ⟨dropWhile_append_of_stop hcolon rest', ?_, ?_⟩
  · rwa [List.head?_append_of_ne_nil _ (ne_nil_of_dropWhile hcolon)]
  · rwa [takeWhile_append_of_stop hcolon]

/-- What holds no colon is no part of a scheme, nor does it end one. -/
lemma splitScheme?_of_append {cs t scheme rest : List Char} (ht : ':' ∉ t)
    (h : splitScheme? (cs ++ t) = some (scheme, rest)) :
    ∃ rest', splitScheme? cs = some (scheme, rest') ∧ rest = rest' ++ t := by
  obtain ⟨hcolon, halpha, hscheme⟩ := splitScheme?_eq_some_iff.mp h
  cases hdrop : cs.dropWhile isSchemeChar with
  | nil =>
    rw [List.dropWhile_append, hdrop, List.isEmpty_nil, if_pos rfl] at hcolon
    have hmem : ':' ∈ t.dropWhile isSchemeChar := by
      rw [hcolon]
      exact List.mem_cons_self
    exact absurd ((List.dropWhile_suffix _).mem hmem) ht
  | cons c rest' =>
    rw [dropWhile_append_of_stop hdrop, List.cons.injEq] at hcolon
    obtain ⟨rfl, hrest⟩ := hcolon
    refine ⟨rest', splitScheme?_eq_some_iff.mpr ⟨hdrop, ?_, ?_⟩, hrest.symm⟩
    · rwa [List.head?_append_of_ne_nil _ (ne_nil_of_dropWhile hdrop)] at halpha
    · rwa [takeWhile_append_of_stop hdrop] at hscheme

/-- Whatever is read behind a scheme has that scheme, and path, query and fragment are read from what
stands there. -/
lemma exists_complete {scheme cs : List Char} {url : Url}
    (h : parseAfterScheme scheme cs = .ok url) :
    ∃ front readPath ds, url = Front.complete front readPath ds ∧ front.scheme = scheme ∧
      ∀ c ∈ ds, c = '/' ∨ c ∈ cs := by
  have hhosted : ∀ {kind ds}, parseHosted scheme kind ds = .ok url → (∀ c ∈ ds, c ∈ cs) →
      ∃ front readPath es, url = Front.complete front readPath es ∧ front.scheme = scheme ∧
        ∀ c ∈ es, c = '/' ∨ c ∈ cs := by
    intro kind ds h hds
    obtain ⟨⟨a, left⟩, hread, h⟩ := Except.bind_eq_ok_iff.mp h
    cases h
    refine ⟨_, _, _, rfl, rfl, fun c hc => .inr (hds c ?_)⟩
    rcases List.mem_append.mp hc with hc | hc
    · exact (List.takeWhile_prefix _).mem ((left_of_parseAuthority hread).2 c hc)
    · exact (List.dropWhile_suffix _).mem hc
  have hdropped : ∀ {n} {c : Char}, c ∈ cs.drop n → c = '/' ∨ c ∈ cs := fun hc =>
    .inr ((List.drop_suffix _ _).mem hc)
  unfold parseAfterScheme at h
  split at h
  · exact hhosted h fun c hc => (List.dropWhile_suffix _).mem hc
  · unfold parseFile at h
    dsimp only at h
    split_ifs at h
    · cases h
      exact ⟨_, _, _, rfl, rfl, fun c hc => (List.mem_cons.mp hc).elim .inl hdropped⟩
    · obtain ⟨host, -, h⟩ := Except.bind_eq_ok_iff.mp h
      cases h
      exact ⟨_, _, _, rfl, rfl, fun c hc => hdropped ((List.drop_suffix _ _).mem hc)⟩
    · obtain ⟨host, -, h⟩ := Except.bind_eq_ok_iff.mp h
      cases h
      exact ⟨_, _, _, rfl, rfl, fun c hc => hdropped ((List.drop_suffix _ _).mem hc)⟩
    · cases h
      exact ⟨_, _, _, rfl, rfl, fun c hc => .inr hc⟩
  · split at h
    · exact hhosted h fun c hc => List.mem_cons_of_mem _ (List.mem_cons_of_mem _ hc)
    · cases h
      exact ⟨_, _, _, rfl, rfl, fun c hc => .inr hc⟩
    · cases h
      exact ⟨_, _, _, rfl, rfl, fun c hc => .inr hc⟩

lemma scheme_of_parseAfterScheme {scheme cs : List Char} {url : Url}
    (h : parseAfterScheme scheme cs = .ok url) : url.scheme = scheme := by
  obtain ⟨front, readPath, ds, rfl, rfl, -⟩ := exists_complete h
  rfl

/-! ### Authorities -/

/-- Whether a text cannot lengthen an authority that stands before it. -/
def EndsAuthority (cs : List Char) : Prop :=
  ∀ c ∈ cs.head?, endsAuthority true c = true

/-- What follows two slashes under a special scheme: an authority up to where it ends, and the
rest. -/
lemma parseHosted_special {scheme front tail : List Char} {usual : Nat}
    (hfront : ∀ c ∈ front, endsAuthority true c = false) (htail : EndsAuthority tail) :
    parseHosted scheme (.special usual) (front ++ tail) =
      (parseAuthority (.special usual) true front).map fun r =>
        Front.complete ⟨scheme, some r.1⟩ (parsePath true) tail := by
  have hall : ∀ c ∈ front, (!endsAuthority true c) = true := by
    intro c hc
    rw [hfront c hc, Bool.not_false]
  have hnone : tail.takeWhile (fun c => !endsAuthority true c) = [] := by
    cases tail with
    | nil => rfl
    | cons c rest =>
      rw [List.takeWhile_cons_of_neg (by rw [htail c rfl]; decide)]
  have htake : (front ++ tail).takeWhile (fun c => !endsAuthority true c) = front := by
    rw [List.takeWhile_append_of_pos hall, hnone, List.append_nil]
  have hdrop : (front ++ tail).dropWhile (fun c => !endsAuthority true c) = tail := by
    have := List.takeWhile_append_dropWhile (p := fun c => !endsAuthority true c)
      (l := front ++ tail)
    rwa [htake, List.append_cancel_left_eq] at this
  unfold parseHosted
  dsimp only [SchemeKind.isSpecial]
  rw [htake, hdrop, parseAuthority_last]
  cases hread : parseAuthority (.special usual) true front with
  | error e => rfl
  | ok r =>
    obtain ⟨a, left⟩ := r
    have hback : '\\' ∉ front := by
      intro hmem
      exact absurd (hfront _ hmem) (by decide)
    rw [parseAuthority_left hread hback]
    rfl

/-! ### Texts that reach behind the authority -/

/-- A text is read as far as its tail: it has a scheme with hosts, and all of its authority that
does not depend on what follows. -/
structure IsRead (cs : List Char) (front : Front) (tail : List Char) : Prop where
  /-- What follows is read after the tail, if it does not lengthen the authority. -/
  parse : ∀ rest, EndsAuthority (tail ++ rest) →
    parseKept (cs ++ rest) = .ok (front.complete (parsePath true) (tail ++ rest))
  /-- An authority that could be lengthened cannot be lengthened with blanks. -/
  refuse : tail = [] → ∀ t rest, t ≠ [] → (∀ c ∈ t, isEdge c = true) → EndsAuthority rest →
    ∀ url, parseKept (cs ++ (t ++ rest)) ≠ .ok url
  /-- Question marks and number signs stand in the tail. -/
  mark : ∀ c, c = '?' ∨ c = '#' → (c ∈ cs ↔ c ∈ tail)
  /-- The tail does not belong to the authority. -/
  stop : EndsAuthority tail

lemma endsAuthority_of_isEdge {c : Char} (h : isEdge c = true) : endsAuthority true c = false := by
  rw [← Bool.not_eq_true]
  intro hends
  simp only [endsAuthority, isSlash, Bool.true_and, Bool.or_eq_true, decide_eq_true_eq] at hends
  rcases hends with ((rfl | rfl) | rfl) | rfl <;> exact absurd h (by decide)

/-- What is read under a special scheme is read as far as its authority goes. -/
lemma IsRead.of_front {scheme cs front tail : List Char} {usual : Nat} {a : Authority}
    {left : List Char}
    (hafter : ∀ rest, parseKept (cs ++ rest) =
      parseHosted scheme (.special usual) (front ++ (tail ++ rest)))
    (hread : parseAuthority (.special usual) true front = .ok (a, left))
    (hfront : ∀ c ∈ front, endsAuthority true c = false) (hstop : EndsAuthority tail)
    (hmark : ∀ c, c = '?' ∨ c = '#' → (c ∈ cs ↔ c ∈ tail)) :
    IsRead cs ⟨scheme, some a⟩ tail where
  parse := by
    intro rest hrest
    rw [hafter, parseHosted_special hfront hrest, hread]
    rfl
  refuse := by
    rintro rfl t rest hne ht hrest url hok
    have hall : ∀ c ∈ front ++ t, endsAuthority true c = false := by
      intro c hc
      rcases List.mem_append.mp hc with hc | hc
      · exact hfront c hc
      · exact endsAuthority_of_isEdge (ht c hc)
    have hlast : (front ++ t).getLast? = some (t.getLast hne) := by
      rw [List.getLast?_append_of_ne_nil _ hne, List.getLast?_eq_some_getLast hne]
    have hback : '\\' ∉ front ++ t := by
      intro hmem
      exact absurd (hall _ hmem) (by decide)
    rw [hafter, List.nil_append, ← List.append_assoc, parseHosted_special hall hrest] at hok
    obtain ⟨r, hr, -⟩ := Except.map_eq_ok_iff.mp hok
    exact parseAuthority_ne_ok hlast (ht _ (List.getLast_mem hne)) hback r hr
  mark := hmark
  stop := hstop

lemma endsAuthority_slash (rest : List Char) : EndsAuthority ('/' :: rest) := by
  intro c hc
  cases hc
  rfl

lemma endsAuthority_append_slashes {tail : List Char} (h : EndsAuthority tail) (n : Nat) :
    EndsAuthority (tail ++ List.replicate n '/') := by
  cases tail with
  | cons c rest => exact h
  | nil =>
    cases n with
    | zero => exact h
    | succ n => exact endsAuthority_slash _

/-- Every text is an authority and what ends it. -/
lemma exists_front (cs : List Char) :
    ∃ front tail, cs = front ++ tail ∧ (∀ c ∈ front, endsAuthority true c = false) ∧
      EndsAuthority tail := by
  refine ⟨cs.takeWhile fun c => !endsAuthority true c, cs.dropWhile fun c => !endsAuthority true c,
    List.takeWhile_append_dropWhile.symm, ?_, ?_⟩
  · intro c hc
    simpa using List.mem_takeWhile_imp hc
  · intro c hc
    have := List.head?_dropWhile_not (fun c => !endsAuthority true c) cs
    rw [hc] at this
    simpa using this

/-- Question marks and number signs end an authority, so they stand behind it. -/
lemma mark_mem_iff {c : Char} (hc : c = '?' ∨ c = '#') {cs scheme body front tail : List Char}
    (hsplit : splitScheme? cs = some (scheme, body))
    (hbody : body.dropWhile (isSlash true) = front ++ tail)
    (hfront : ∀ c ∈ front, endsAuthority true c = false) : c ∈ cs ↔ c ∈ tail := by
  have hcs : cs = cs.takeWhile isSchemeChar ++ ':' ::
      (body.takeWhile (isSlash true) ++ (front ++ tail)) := by
    rw [← hbody, List.takeWhile_append_dropWhile, ← (splitScheme?_eq_some_iff.mp hsplit).1,
      List.takeWhile_append_dropWhile]
  have hmark : isSchemeChar c = false ∧ isSlash true c = false ∧ endsAuthority true c = true ∧
      c ≠ ':' := by
    rcases hc with rfl | rfl <;> decide
  have hname : c ∉ cs.takeWhile isSchemeChar := by
    intro hmem
    simpa [hmark.1] using List.mem_takeWhile_imp hmem
  have hslashes : c ∉ body.takeWhile (isSlash true) := by
    intro hmem
    simpa [hmark.2.1] using List.mem_takeWhile_imp hmem
  have hin : c ∉ front := by
    intro hmem
    simpa [hmark.2.2.1] using hfront c hmem
  conv_lhs => rw [hcs]
  simp [hname, hslashes, hin, hmark.2.2.2]

/-- An authority that is read does not reach into slashes and blanks that stand behind it. -/
lemma endsAuthority_of_parseHosted {scheme front t : List Char} {usual : Nat} {base : Url}
    (hfront : ∀ c ∈ front, endsAuthority true c = false)
    (ht : ∀ c ∈ t, c = '/' ∨ isEdge c = true)
    (h : parseHosted scheme (.special usual) (front ++ t) = .ok base) : EndsAuthority t := by
  obtain ⟨blank, tail, hjoin, hblank, hstop⟩ := exists_front t
  rcases List.eq_nil_or_concat blank with rfl | ⟨init, last, rfl⟩
  · rw [hjoin]
    exact hstop
  · rw [List.concat_eq_append] at hjoin hblank
    have hlast : isEdge last = true := by
      have hmem : last ∈ init ++ [last] := List.mem_append_right init List.mem_cons_self
      refine (ht last ?_).resolve_left ?_
      · rw [hjoin]
        exact List.mem_append_left tail hmem
      · rintro rfl
        exact absurd (hblank _ hmem) (by decide)
    have hall : ∀ c ∈ front ++ (init ++ [last]), endsAuthority true c = false := by
      intro c hc
      exact (List.mem_append.mp hc).elim (hfront c) (hblank c)
    have hback : '\\' ∉ front ++ (init ++ [last]) := by
      intro hmem
      exact absurd (hall _ hmem) (by decide)
    rw [hjoin, ← List.append_assoc, parseHosted_special hall hstop] at h
    obtain ⟨r, hr, -⟩ := Except.map_eq_ok_iff.mp h
    refine absurd hr (parseAuthority_ne_ok ?_ hlast hback r)
    rw [← List.append_assoc, List.getLast?_concat]

/-- What a text is read as is settled before slashes and blanks at its end. -/
lemma exists_isRead {cs t : List Char} {usual : Nat} {base : Url}
    (ht : ∀ c ∈ t, c = '/' ∨ isEdge c = true) (h : parseKept (cs ++ t) = .ok base)
    (hscheme : SchemeKind.of base.scheme = .special usual) :
    ∃ front tail, IsRead cs front tail ∧ front.scheme = base.scheme := by
  have hcolon : ':' ∉ t := by
    intro hmem
    exact absurd (ht _ hmem) (by decide)
  obtain ⟨scheme, rest, hsplit, h⟩ := parseKept_eq_ok_iff.mp h
  obtain ⟨body, hbody, rfl⟩ := splitScheme?_of_append hcolon hsplit
  rw [scheme_of_parseAfterScheme h] at hscheme ⊢
  have hkind : ∀ ds, parseAfterScheme scheme ds =
      parseHosted scheme (.special usual) (ds.dropWhile (isSlash true)) := by
    intro ds
    unfold parseAfterScheme
    rw [hscheme]
  rw [hkind] at h
  cases hhosted : body.dropWhile (isSlash true) with
  | nil =>
    -- slashes only: there is no host, and what follows them is none
    rw [List.dropWhile_append, hhosted, List.isEmpty_nil, if_pos rfl] at h
    have hrest : ∀ c ∈ t.dropWhile (isSlash true), c = '/' ∨ isEdge c = true := fun c hc =>
      ht c ((List.dropWhile_suffix _).mem hc)
    rw [← List.nil_append (t.dropWhile _)] at h
    have hstop := endsAuthority_of_parseHosted (List.forall_mem_nil _) hrest h
    rw [parseHosted_special (List.forall_mem_nil _) hstop] at h
    cases h
  | cons c ds =>
    have hafter : ∀ rest, parseKept (cs ++ rest) =
        parseHosted scheme (.special usual) (c :: ds ++ rest) := by
      intro rest
      rw [parseKept, splitScheme?_append hbody]
      dsimp only
      rw [hkind, dropWhile_append_of_stop hhosted]
      rfl
    obtain ⟨front, tail, hjoin, hfront, hstop⟩ := exists_front (c :: ds)
    rw [dropWhile_append_of_stop hhosted, ← List.cons_append, hjoin, List.append_assoc] at h
    have hends : EndsAuthority (tail ++ t) := by
      cases tail with
      | nil => exact endsAuthority_of_parseHosted hfront ht h
      | cons c' tail => exact hstop
    rw [parseHosted_special hfront hends] at h
    obtain ⟨⟨a, left⟩, hread, -⟩ := Except.map_eq_ok_iff.mp h
    refine ⟨⟨scheme, some a⟩, tail, IsRead.of_front ?_ hread hfront hstop fun c' hc' =>
      mark_mem_iff hc' hbody (hhosted.trans hjoin) hfront, rfl⟩
    intro rest
    rw [hafter, hjoin, List.append_assoc]

/-! ### Queries -/

/-- A part is found behind its mark. -/
lemma cutAt_partAfter {mark : Char} {before : List Char} (h : mark ∉ before)
    (part : Option (List Char)) : cutAt mark (before ++ partAfter mark part) = (before, part) := by
  have hall : ∀ c ∈ before, decide (c ≠ mark) = true := fun c hc =>
    decide_eq_true (ne_of_mem_of_not_mem hc h)
  unfold cutAt
  rw [List.dropWhile_append_of_pos hall, List.takeWhile_append_of_pos hall]
  cases part with
  | none => simp [partAfter]
  | some cs => simp [partAfter]

/-- A text without a question mark has no query. -/
theorem query_eq_none {text : String} {url : Url} (h : parse text = .ok url)
    (hmark : '?' ∉ text.toList) : url.query = none := by
  obtain ⟨scheme, rest, hsplit, h⟩ := parseKept_eq_ok_iff.mp h
  obtain ⟨front, readPath, cs, rfl, -, hcs⟩ := exists_complete h
  have hnot : '?' ∉ cs := by
    intro hmem
    have hrest : '?' ∈ rest := (hcs _ hmem).resolve_left (by decide)
    have hclean : '?' ∈ clean text.toList := by
      refine (List.dropWhile_suffix isSchemeChar).mem ?_
      rw [(splitScheme?_eq_some_iff.mp hsplit).1]
      exact List.mem_cons_of_mem _ hrest
    refine hmark ((mem_kept_iff (by decide)).mp ?_)
    rw [← clean_append_blanks]
    exact List.mem_append_left _ hclean
  have hcut : cutAt '?' (cutAt '#' cs).1 = ((cutAt '#' cs).1, none) := by
    refine (congrArg (cutAt '?') (List.append_nil _).symm).trans (cutAt_partAfter ?_ none)
    intro hmem
    refine hnot ((List.takeWhile_prefix (· ≠ '#')).mem ?_)
    unfold cutAt at hmem
    split at hmem
    · exact hmem
    · exact hmem
  unfold Front.complete
  dsimp only
  rw [hcut]
  rfl

end XoLedger.Url

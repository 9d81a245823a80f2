import XoLedger.Proofs.Gateway.Endpoint
import XoLedger.Proofs.Gateway.Link
import XoLedger.Proofs.Url.Domain.Long
import XoLedger.Proofs.Url.Written

/-!
# What an endpoint is asked for can be read off its URL

The pairs that an endpoint is asked with are the last pairs of its URL, whatever names and values
they have. So a server that sends the URL of a question about a batch as a link tells the batch by
it, provided that the link is a URL: it is none where a label of the host is too long to be read in
ASCII, though it could be read as it was written in the base URL.
-/

namespace XoLedger.RestApi

/-- A server's endpoints have its scheme, if their path holds nothing that is dropped. -/
lemma exists_kind_of_parse {url : String} {api : RestApi} (h : ofUrl url = .ok api)
    {path : String} (hpath : ∀ c ∈ path.toList, Url.isEdge c = false) {plain : Url}
    (hplain : Url.parse (api.baseUrl ++ "/" ++ path) = .ok plain) :
    ∃ usual, Url.SchemeKind.of plain.scheme = .special usual := by
  obtain ⟨rfl, base, hbase, hweb⟩ := ofUrl_eq_ok_iff.mp h
  obtain ⟨usual, hkind⟩ := exists_usualPort hweb
  obtain ⟨front, tail, n, hs⟩ := exists_isSeam hbase hweb
  refine ⟨usual, ?_⟩
  by_cases hjoined : tail ≠ [] ∨ Url.blanks url.toList = []
  · rw [hs.parse path hpath hjoined, Except.ok.injEq] at hplain
    rw [← hplain, ← hkind, hs.base_eq]
    rfl
  · rw [not_or, not_not] at hjoined
    exact absurd hplain (hs.refuse path hpath hjoined.1 hjoined.2 plain)

/-- The pairs of an endpoint's URL are those of the text it is read from, and those it is asked
with. -/
lemma queryPairs_of_endpoint {api : RestApi} {path : String} {pairs : List (String × String)}
    {url : Url} (h : api.endpoint path pairs = .ok url) :
    ∃ plain, Url.parse (api.baseUrl ++ "/" ++ path) = .ok plain ∧
      url.queryPairs = plain.queryPairs ++ pairs ∧
      ('?' ∉ (api.baseUrl ++ "/" ++ path).toList → plain.queryPairs = []) := by
  obtain ⟨plain, hplain, rfl⟩ := exists_of_endpoint h
  refine ⟨plain, hplain, Url.queryPairs_withPairs plain pairs, fun hmark => ?_⟩
  rw [Url.queryPairs, Url.query_eq_none hplain hmark]
  rfl

/-- The written URL of a question about a batch is a link to the batch, if it can be read. -/
lemma batchIdOfLink_of_endpoint {url : String} {api : RestApi} (h : ofUrl url = .ok api)
    (hmark : '?' ∉ api.baseUrl.toList) {batchId wait : String} (hne : batchId ≠ "") {question : Url}
    (hquestion : api.endpoint statusesPath [("id", batchId), ("wait", wait)] = .ok question) :
    (question.IsReadable → batchIdOfLink question.text = .ok batchId) ∧
      (¬ question.IsReadable →
        batchIdOfLink question.text = .error (.notUrl question.text .badDomain)) := by
  obtain ⟨plain, hplain, hpairs, hnone⟩ := queryPairs_of_endpoint hquestion
  have hmem : statusesPath ∈ endpointPaths := by decide
  have hedge := (isName_of_mem hmem).edge
  obtain ⟨usual, hkind⟩ := exists_kind_of_parse h hedge hplain
  obtain ⟨a, hproper⟩ := Url.exists_isProper_of_parse hplain hkind
  have hwritten : (question.IsReadable → Url.parse question.text = .ok question) ∧
      (¬ question.IsReadable → Url.parse question.text = .error .badDomain) := by
    obtain ⟨plain', hplain', rfl⟩ := exists_of_endpoint hquestion
    obtain rfl : plain = plain' := Except.ok.inj (hplain.symm.trans hplain')
    exact (hproper.withPairs _).parse_text
  have htext : '?' ∉ (api.baseUrl ++ "/" ++ statusesPath).toList := by
    rw [String.toList_append, String.toList_append, List.append_assoc, List.mem_append, not_or]
    exact ⟨hmark, by decide⟩
  rw [hnone htext, List.nil_append] at hpairs
  constructor
  · intro hread
    exact batchIdOfLink_eq_ok_iff.mpr ⟨hne, question, hwritten.1 hread, [], [("wait", wait)],
      hpairs, List.forall_mem_nil _⟩
  · intro hread
    rw [batchIdOfLink, hwritten.2 hread]

/-- **What an endpoint is asked with** can be read off its URL: the pairs of the URL are those of
the text that the path makes with the base URL, which has none without a question mark, and then
exactly those that were given, in order. So where the base URL has no query, the batch that a status
endpoint is asked about is read off the written URL, whatever its identifier and whatever the
waiting time, unless a label of the host is too long: then the written URL is no URL. -/
theorem query_can_be_read_back {url : String} {api : RestApi} (h : ofUrl url = .ok api) :
    (∀ path pairs asked, api.endpoint path pairs = .ok asked →
      ∃ plain, Url.parse (api.baseUrl ++ "/" ++ path) = .ok plain ∧
        asked.queryPairs = plain.queryPairs ++ pairs ∧
        ('?' ∉ (api.baseUrl ++ "/" ++ path).toList → plain.queryPairs = [])) ∧
      ('?' ∉ api.baseUrl.toList → ∀ batchId wait question, batchId ≠ "" →
        api.endpoint statusesPath [("id", batchId), ("wait", wait)] = .ok question →
          (question.IsReadable → batchIdOfLink question.text = .ok batchId) ∧
            (¬ question.IsReadable →
              batchIdOfLink question.text = .error (.notUrl question.text .badDomain))) :=
  ⟨fun _ _ _ hasked => queryPairs_of_endpoint hasked, fun hmark _ _ _ hne hquestion =>
    batchIdOfLink_of_endpoint h hmark hne hquestion⟩

/-- A question about a batch to a server on the machine itself. -/
def sampleQuestion : Url :=
  { scheme := "http".toList
    authority := some ⟨[], [], .ipv6 [0, 0, 0, 0, 0, 0, 0, 1], some 8008⟩
    path := .segments ["batch_statuses".toList]
    query := some "id=a%26id%3D+b&wait=5".toList
    fragment := none }

/-- An identifier with marks in it is read off the URL of a question about it. -/
theorem marked_id_can_be_read_back :
    ofUrl "http://[::1]:8008/" = .ok ⟨"http://[::1]:8008"⟩ ∧
      (⟨"http://[::1]:8008"⟩ : RestApi).endpoint statusesPath [("id", "a&id= b"), ("wait", "5")] =
        .ok sampleQuestion ∧
      batchIdOfLink sampleQuestion.text = .ok "a&id= b" := by
  have hserver : ofUrl "http://[::1]:8008/" = .ok ⟨"http://[::1]:8008"⟩ := by decide
  have hasked : (⟨"http://[::1]:8008"⟩ : RestApi).endpoint statusesPath
      [("id", "a&id= b"), ("wait", "5")] = .ok sampleQuestion := by
    decide
  refine ⟨hserver, hasked, ?_⟩
  exact ((query_can_be_read_back hserver).2 (by decide) "a&id= b" "5" sampleQuestion
    (by decide) hasked).1 (by decide)

/-! ### Hosts of ideographs -/

open Url.Domain (IsIdeograph asciiSign distant)

/-- The URL of a server whose host is one label. -/
def labelUrl (ns : List Nat) : String :=
  "http://" ++ String.ofList (ns.map Char.ofNat)

lemma toList_labelUrl (ns : List Nat) :
    (labelUrl ns).toList = "http".toList ++ ':' :: '/' :: '/' :: ns.map Char.ofNat := by
  have hchars : (String.ofList (ns.map Char.ofNat)).toList = ns.map Char.ofNat :=
    String.toList_ofList
  rw [labelUrl, String.toList_append, hchars]
  rfl

/-- The host, put into ASCII. -/
def labelHost (ns : List Nat) : Url.Host :=
  .name (asciiSign.map Char.ofNat ++ Url.Domain.Punycode.encode ns)

section Ideographs

variable {ns : List Nat} (h : ∀ n ∈ ns, IsIdeograph n) (hne : ns ≠ [])

include h

/-- No mark stands in the URL, and no slash at its end. -/
lemma isMark_of_mem_labelUrl {c : Char} (hc : c ∈ (labelUrl ns).toList) : Url.isMark c = false := by
  rw [toList_labelUrl] at hc
  simp only [List.mem_append, List.mem_cons] at hc
  rcases hc with hc | rfl | rfl | rfl | hc
  · have hall : ∀ d ∈ "http".toList, Url.isMark d = false :=
      List.forall_iff_forall_mem.mp (by decide)
    exact hall c hc
  · rfl
  · rfl
  · rfl
  · have hends := (Url.Domain.isInner_of_isIdeograph h hc).1.2
    rw [Url.endsAuthority, Bool.or_assoc, Bool.or_eq_false_iff] at hends
    exact hends.2

include hne

lemma withoutSlashes_labelUrl : withoutSlashes (labelUrl ns) = labelUrl ns := by
  obtain ⟨init, last, rfl⟩ := (List.eq_nil_or_concat ns).resolve_left hne
  rw [List.concat_eq_append] at h ⊢
  have hlast : Char.ofNat last ≠ '/' := by
    have hmem : Char.ofNat last ∈ (init ++ [last]).map Char.ofNat :=
      List.mem_map_of_mem (List.mem_append_right _ (List.mem_singleton_self _))
    intro heq
    rw [heq] at hmem
    exact absurd (Url.Domain.isInner_of_isIdeograph h hmem).1.2 (by decide)
  have htext : (labelUrl (init ++ [last])).toList =
      ("http".toList ++ ':' :: '/' :: '/' :: init.map Char.ofNat) ++ [Char.ofNat last] := by
    rw [toList_labelUrl]
    simp
  rw [withoutSlashes, ← String.ofList_toList (s := labelUrl (init ++ [last])), htext,
    String.toList_ofList]
  exact congrArg String.ofList (List.rdropWhile_concat_neg _ _ _ (by simpa using hlast))

/-- The URL is read, with whatever path stands behind it. -/
lemma parse_labelUrl (hlength : ns.length ≤ Url.Domain.Label.longest) {tail : List Char}
    (htail : Url.EndsAuthority tail) (hedge : ∀ c ∈ tail, Url.isEdge c = false) :
    Url.parse (labelUrl ns ++ String.ofList tail) = .ok (Url.Front.complete
      ⟨"http".toList, some ⟨[], [], labelHost ns, none⟩⟩ (Url.parsePath true) tail) := by
  have hchars : ns.map Char.ofNat ≠ [] := mt List.map_eq_nil_iff.mp hne
  have hempty : labelHost ns ≠ .empty := by
    simp [labelHost, Url.Host.empty, asciiSign]
  have htext : labelUrl ns ++ String.ofList tail =
      String.ofList ("http".toList ++ ':' :: '/' :: '/' :: (ns.map Char.ofNat ++ tail)) := by
    rw [← String.ofList_toList (s := labelUrl ns), toList_labelUrl, ← String.ofList_append,
      List.append_assoc]
    rfl
  have hread : Url.parseAuthority (.special 80) true (ns.map Char.ofNat) =
      .ok (⟨[], [], labelHost ns, none⟩, []) :=
    Url.parseAuthority_of_host hchars
      (fun c hc => (Url.Domain.isInner_of_isIdeograph h hc).2)
      (Url.Domain.parseSpecial_of_isIdeograph h hne hlength) hempty
  have hkind : Url.SchemeKind.of "http".toList = .special 80 := by decide
  have hparse := Url.parse_of_special hkind hchars
    (fun c hc => (Url.Domain.isInner_of_isIdeograph h hc).1) htail hedge
  rw [htext, hparse, hread]
  rfl

/-- A server whose host is a label of ideographs is accepted, and its status endpoint has a URL. -/
lemma exists_question_of_labelUrl (hlength : ns.length ≤ Url.Domain.Label.longest)
    (pairs : List (String × String)) :
    ofUrl (labelUrl ns) = .ok ⟨labelUrl ns⟩ ∧
      ∃ question, endpoint ⟨labelUrl ns⟩ statusesPath pairs = .ok question ∧
        question.authority = some ⟨[], [], labelHost ns, none⟩ := by
  constructor
  · have hnone : Url.EndsAuthority [] := by simp [Url.EndsAuthority]
    have hparse := parse_labelUrl h hne hlength hnone (List.forall_mem_nil _)
    rw [String.ofList_nil, String.append_empty] at hparse
    have hserver : (⟨labelUrl ns⟩ : RestApi) = ⟨withoutSlashes (labelUrl ns)⟩ := by
      rw [withoutSlashes_labelUrl h hne]
    exact ofUrl_eq_ok_iff.mpr ⟨hserver, _, hparse, rfl⟩
  · have hedge : ∀ c ∈ '/' :: statusesPath.toList, Url.isEdge c = false :=
      List.forall_iff_forall_mem.mp (by decide)
    have hparse := parse_labelUrl h hne hlength (Url.endsAuthority_slash _) hedge
    have htext : labelUrl ns ++ String.ofList ('/' :: statusesPath.toList) =
        labelUrl ns ++ "/" ++ statusesPath := by
      rw [String.append_assoc, String.ofList_cons, String.ofList_toList]
      rfl
    rw [htext] at hparse
    exact ⟨_, endpoint_of_parse hparse pairs, Url.authority_withPairs _ _⟩

end Ideographs

/-- **A label of ideographs** can be too long to be read back: the server is accepted, its status
endpoint has a URL, and the written URL is no URL. -/
theorem long_label_cannot_be_read_back :
    ofUrl (labelUrl distant) = .ok ⟨labelUrl distant⟩ ∧
      '?' ∉ (labelUrl distant).toList ∧ '#' ∉ (labelUrl distant).toList ∧
      ∃ question, endpoint ⟨labelUrl distant⟩ statusesPath [("id", "abc"), ("wait", "5")] =
          .ok question ∧
        batchIdOfLink question.text = .error (.notUrl question.text .badDomain) := by
  have hideographs : ∀ n ∈ distant, IsIdeograph n := fun n hn =>
    Url.Domain.isIdeograph_of_mem_distant hn
  have hlength := Url.Domain.length_distant
  have hne : distant ≠ [] := List.ne_nil_of_length_pos (by rw [hlength]; decide)
  have hmark : ∀ c, Url.isMark c = true → c ∉ (labelUrl distant).toList := by
    intro c hc hmem
    rw [isMark_of_mem_labelUrl hideographs hmem] at hc
    cases hc
  obtain ⟨hserver, question, hquestion, hauthority⟩ := exists_question_of_labelUrl hideographs hne
    (by rw [hlength]; decide) [("id", "abc"), ("wait", "5")]
  refine ⟨hserver, hmark _ rfl, hmark _ rfl, question, hquestion, ?_⟩
  refine (batchIdOfLink_of_endpoint hserver (hmark _ rfl) (by decide) hquestion).2 fun hread => ?_
  have hdot := Url.Domain.dot_notMem_ascii hideographs
  refine Url.Domain.not_isShort_distant (hread _ hauthority _ ?_)
  rw [splitChars_of_sep_notMem hdot]
  exact List.mem_singleton_self _

end XoLedger.RestApi

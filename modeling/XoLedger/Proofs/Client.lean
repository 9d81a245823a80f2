import Mathlib.Tactic.Lemma
import XoLedger.Client
import XoLedger.Proofs.Gateway.Rest
import XoLedger.Proofs.Projection

/-!
# One gateway for writing and reading

A client holds its settings, a gateway for what it submits and a projector with a gateway for what
it reads. `Transition` says what one command may do to these three: only a change of the URL touches
the settings and the gateways, and it changes all of them or none. So a client that was connected
goes on to submit to and to read from one and the same server, the one in its settings
(`IsConsistent`), whatever it is told and whatever comes back from the network.
-/

namespace XoLedger

/-- The server in the settings, tried again where more than one call may be made. -/
def Settings.server {σ : Type} (settings : Settings) (carrier : Carrier σ) : Gateway σ :=
  if 1 < settings.gatewayAttempts.toNat then
    ((RestApi.mk settings.baseUrl).gateway carrier).retrying settings.retryPolicy
  else (RestApi.mk settings.baseUrl).gateway carrier

namespace Client

variable {σ : Type} {carrier : Carrier σ}

/-! ### Settings and gateways -/

/-- A policy allows for one call only where the settings do. -/
lemma isSingleShot_iff (settings : Settings) :
    settings.retryPolicy.IsSingleShot ↔ ¬ 1 < settings.gatewayAttempts.toNat := by
  have hmost : settings.retryPolicy.maxAttempts = max settings.gatewayAttempts.toNat 1 := rfl
  unfold RetryPolicy.IsSingleShot
  rw [hmost]
  omega

/-- The gateway that settings ask for is the server in them. -/
lemma eq_server_of_dial {settings : Settings} {gateway : Gateway σ}
    (h : dial carrier settings = .ok gateway) : gateway = settings.server carrier := by
  rw [dial, Except.map_eq_ok_iff] at h
  obtain ⟨api, hapi, rfl⟩ := h
  have hbase : api = ⟨settings.baseUrl⟩ := by
    rw [(RestApi.ofUrl_eq_ok_iff.mp hapi).1, Settings.baseUrl,
      RestApi.withoutSlashes_withoutSlashes]
  unfold Settings.server
  by_cases hmore : 1 < settings.gatewayAttempts.toNat
  · have hpolicy : ¬ settings.retryPolicy.IsSingleShot := fun hsingle =>
      (isSingleShot_iff settings).mp hsingle hmore
    rw [if_pos hmore, hbase]
    exact if_neg hpolicy
  · rw [if_neg hmore, hbase]
    exact if_pos ((isSingleShot_iff settings).mpr hmore)

/-- Submissions and readings go through the server in the settings. -/
structure IsConsistent (carrier : Carrier σ) (c : Client σ) : Prop where
  /-- The gateway for submissions is that server. -/
  gateway_eq : c.gateway = c.settings.server carrier
  /-- The gateway for readings is the same. -/
  projector_eq : c.projector.gateway = c.gateway

/-- A client starts out consistent. -/
lemma IsConsistent.of_connect {settings : Settings} {signer : Signer} {client : Client σ}
    (h : connect carrier settings signer = .ok client) :
    client.settings = settings ∧ client.IsConsistent carrier := by
  rw [connect, Except.map_eq_ok_iff] at h
  obtain ⟨gateway, hdial, rfl⟩ := h
  refine ⟨rfl, ?_, rfl⟩
  exact eq_server_of_dial hdial

/-! ### Commands and steps -/

/-- What a client can be told to do. -/
inductive Command where
  /-- Open a game, with octets for the nonce. -/
  | createGame (random : Bytes) (name : String)
  /-- Put a mark into a cell of a game, with octets for the nonce. -/
  | takeSpace (random : Bytes) (name : String) (space : UInt8)
  /-- Submit a batch. -/
  | submitBatch (batch : Batch)
  /-- Read all games. -/
  | refreshAll
  /-- Read one game. -/
  | refreshOne (name : String)
  /-- Go over to another URL. -/
  | setUrl (url : String)

/-- What comes back from a command. -/
inductive Answer where
  /-- What has become of a batch, or why it was not submitted. -/
  | outcome (result : Except Fault SubmissionOutcome)
  /-- All games, or why not. -/
  | list (result : Except Fault Snapshot)
  /-- One game, or why not. -/
  | game (result : Except Fault Game)
  /-- Nothing, or why the URL cannot be used. -/
  | url (result : Except Fault Unit)
deriving DecidableEq

/-- Does what it is told, over one network. -/
def obey (c : Client σ) (carrier : Carrier σ) : Command → Act σ (Answer × Client σ)
  | .createGame random name => do
    let result ← (c.createGame random name).run
    return (.outcome result, c)
  | .takeSpace random name space => do
    let result ← (c.takeSpace random name space).run
    return (.outcome result, c)
  | .submitBatch batch => do
    let result ← (c.submitBatch batch).run
    return (.outcome result, c)
  | .refreshAll => do
    let (result, c) ← c.refreshAll
    return (.list result, c)
  | .refreshOne name => do
    let (result, c) ← c.refreshOne name
    return (.game result, c)
  | .setUrl url => do
    let (result, c) ← c.setUrl carrier url
    return (.url result, c)

/-- One step of a run. -/
structure Step (σ : Type) where
  /-- The client before. -/
  before : Client σ
  /-- The world before. -/
  world : σ
  /-- What the client was told. -/
  command : Command
  /-- What came back. -/
  answer : Answer
  /-- The client afterwards. -/
  after : Client σ
  /-- The world afterwards. -/
  next : σ

/-- The steps in which a client does one thing after the other. -/
def run (carrier : Carrier σ) (c : Client σ) (world : σ) : List Command → List (Step σ)
  | [] => []
  | command :: commands =>
    let t := c.obey carrier command world
    ⟨c, world, command, t.value.1, t.value.2, t.world⟩ ::
      run carrier t.value.2 t.world commands

/-! ### One step -/

/-- What one command does to a client, and to the world if it is a change of the URL. -/
inductive Transition (carrier : Carrier σ) (c : Client σ) (world : σ) :
    Command → Answer → Client σ → σ → Prop where
  /-- Something is submitted, or not. -/
  | submitted {command : Command} (h : ∀ url, command ≠ .setUrl url)
      (result : Except Fault SubmissionOutcome) (world' : σ) :
      Transition carrier c world command (.outcome result) c world'
  /-- All games are read, or not. -/
  | listed {projector : Projector σ} (result : Except Fault Snapshot) (world' : σ)
      (h : projector.gateway = c.projector.gateway) :
      Transition carrier c world .refreshAll (.list result) { c with projector } world'
  /-- One game is read, or not. -/
  | focused {projector : Projector σ} (name : String) (result : Except Fault Game) (world' : σ)
      (h : projector.gateway = c.projector.gateway) :
      Transition carrier c world (.refreshOne name) (.game result) { c with projector } world'
  /-- The URL is the one in use. -/
  | sameUrl {url : String} (h : RestApi.withoutSlashes url = c.settings.baseUrl) :
      Transition carrier c world (.setUrl url) (.url (.ok ())) c world
  /-- The URL cannot be used. -/
  | badUrl {url : String} {e : RestApi.Error}
      (h : dial carrier { c.settings with restApiUrl := url } = .error e) :
      Transition carrier c world (.setUrl url) (.url (.error e.toFault)) c world
  /-- The URL is used from now on, for submissions and for readings. -/
  | newUrl {url : String} {gateway : Gateway σ}
      (h : dial carrier { c.settings with restApiUrl := url } = .ok gateway) :
      Transition carrier c world (.setUrl url) (.url (.ok ()))
        { c with
          settings := { c.settings with restApiUrl := url }
          gateway
          projector := c.projector.withGateway gateway } world

/-- What a change of the URL does. -/
lemma setUrl_transition (c : Client σ) (carrier : Carrier σ) (world : σ) (url : String) :
    Transition carrier c world (.setUrl url) (.url (c.setUrl carrier url world).value.1)
      (c.setUrl carrier url world).value.2 (c.setUrl carrier url world).world := by
  unfold setUrl
  by_cases hsame : RestApi.withoutSlashes url = c.settings.baseUrl
  · rw [if_pos hsame]
    exact .sameUrl hsame
  · rw [if_neg hsame]
    cases hdial : dial carrier { c.settings with restApiUrl := url } with
    | error e =>
      simp only
      exact .badUrl hdial
    | ok gateway =>
      simp only
      exact .newUrl hdial

/-- What a command does is one of the transitions. -/
theorem obey_transition (c : Client σ) (carrier : Carrier σ) (world : σ) (command : Command) :
    Transition carrier c world command (c.obey carrier command world).value.1
      (c.obey carrier command world).value.2 (c.obey carrier command world).world := by
  cases command with
  | createGame random name => exact .submitted (by simp) _ _
  | takeSpace random name space => exact .submitted (by simp) _ _
  | submitBatch batch => exact .submitted (by simp) _ _
  | refreshAll =>
    exact .listed _ _ (Projector.refreshAll_transition c.projector world).gateway_eq
  | refreshOne name =>
    exact .focused _ _ _ (Projector.refreshOne_transition c.projector world name).gateway_eq
  | setUrl url =>
    have hchange := setUrl_transition c carrier world url
    rw [obey, Act.bind_apply]
    -- only the result matters, not how it is found
    generalize c.setUrl carrier url world = t at hchange ⊢
    exact hchange

namespace Transition

variable {c c' : Client σ} {world world' : σ} {command : Command} {answer : Answer}

/-- A consistent client stays consistent. -/
lemma isConsistent (h : Transition carrier c world command answer c' world')
    (hc : c.IsConsistent carrier) : c'.IsConsistent carrier := by
  cases h with
  | submitted | sameUrl | badUrl => exact hc
  | listed _ _ hgateway | focused _ _ _ hgateway =>
    exact ⟨hc.gateway_eq, hgateway.trans hc.projector_eq⟩
  | newUrl hdial => exact ⟨eq_server_of_dial hdial, rfl⟩

/-- A URL that cannot be used changes nothing. -/
lemma eq_of_error (h : Transition carrier c world command answer c' world') {fault : Fault}
    (hanswer : answer = .url (.error fault)) : c' = c := by
  cases h with
  | badUrl => rfl
  | submitted | listed | focused | sameUrl | newUrl => exact absurd hanswer (by simp)

/-- A URL that can be used is in the settings afterwards, and neither the other settings nor what
is published have changed. -/
lemma of_ok (h : Transition carrier c world command answer c' world') {url : String}
    (hcommand : command = .setUrl url) (hanswer : answer = .url (.ok ())) :
    c'.settings.baseUrl = RestApi.withoutSlashes url ∧
      c'.settings = { c.settings with restApiUrl := c'.settings.restApiUrl } ∧
      c'.projector.games = c.projector.games ∧ c'.projector.focus = c.projector.focus := by
  cases h with
  | sameUrl hsame =>
    obtain rfl := Command.setUrl.inj hcommand
    exact ⟨hsame.symm, rfl, rfl, rfl⟩
  | newUrl hdial =>
    obtain rfl := Command.setUrl.inj hcommand
    exact ⟨rfl, rfl, rfl, rfl⟩
  | submitted | listed | focused | badUrl => exact absurd hanswer (by simp)

/-- A change of the URL is told from its answer, and sends nothing. -/
lemma of_setUrl (h : Transition carrier c world command answer c' world') {url : String}
    (hcommand : command = .setUrl url) : (∃ result, answer = .url result) ∧ world' = world := by
  cases h with
  | sameUrl | badUrl | newUrl => exact ⟨⟨_, rfl⟩, rfl⟩
  | submitted hne => exact absurd hcommand (hne url)
  | listed | focused => exact absurd hcommand (by simp)

/-- Any other command leaves the settings and the gateway for submissions alone. -/
lemma settings_eq (h : Transition carrier c world command answer c' world')
    (hcommand : ∀ url, command ≠ .setUrl url) :
    c'.settings = c.settings ∧ c'.gateway = c.gateway := by
  cases h with
  | submitted | listed | focused => exact ⟨rfl, rfl⟩
  | sameUrl | badUrl | newUrl => exact absurd rfl (hcommand _)

end Transition

/-! ### Whole runs -/

/-- Every step of a run of a consistent client is a transition between consistent clients. -/
theorem run_transition {c : Client σ} (hc : c.IsConsistent carrier) (world : σ)
    (commands : List Command) :
    ∀ step ∈ run carrier c world commands,
      step.before.IsConsistent carrier ∧ step.after.IsConsistent carrier ∧
        Transition carrier step.before step.world step.command step.answer step.after
          step.next := by
  induction commands generalizing c world with
  | nil => exact fun _ hstep => absurd hstep List.not_mem_nil
  | cons command rest ih =>
    intro step hstep
    have hnow := obey_transition c carrier world command
    have hnext := hnow.isConsistent hc
    rw [run, List.mem_cons] at hstep
    rcases hstep with rfl | hstep
    · exact ⟨hc, hnext, hnow⟩
    · exact ih hnext _ step hstep

/-- **One gateway for writing and reading.** Whatever a connected client is told and whatever the
network answers, before and after every step it submits to and reads from one gateway, which is the
server in its settings, tried again exactly where they allow for more than one call. A URL that
cannot be used changes nothing at all; one that can be used is in the settings afterwards, and
neither the other settings nor what is published have changed. -/
theorem gateways_agree {settings : Settings} {signer : Signer} {client : Client σ}
    (hclient : connect carrier settings signer = .ok client) (world : σ)
    (commands : List Command) :
    client.settings = settings ∧ client.IsConsistent carrier ∧
      ∀ step ∈ run carrier client world commands,
        step.before.IsConsistent carrier ∧ step.after.IsConsistent carrier ∧
        ((∀ url, step.command ≠ .setUrl url) →
          step.after.settings = step.before.settings ∧
          step.after.gateway = step.before.gateway) ∧
        ∀ url, step.command = .setUrl url →
          step.next = step.world ∧
          ((∃ fault, step.answer = .url (.error fault) ∧ step.after = step.before) ∨
            step.answer = .url (.ok ()) ∧
            step.after.settings.baseUrl = RestApi.withoutSlashes url ∧
            step.after.settings =
              { step.before.settings with restApiUrl := step.after.settings.restApiUrl } ∧
            step.after.projector.games = step.before.projector.games ∧
            step.after.projector.focus = step.before.projector.focus) := by
  obtain ⟨hsettings, hconsistent⟩ := IsConsistent.of_connect hclient
  refine ⟨hsettings, hconsistent, ?_⟩
  intro step hstep
  obtain ⟨hbefore, hafter, hnow⟩ := run_transition hconsistent world commands step hstep
  refine ⟨hbefore, hafter, hnow.settings_eq, ?_⟩
  intro url hcommand
  obtain ⟨⟨result, hanswer⟩, hworld⟩ := hnow.of_setUrl hcommand
  refine ⟨hworld, ?_⟩
  cases result with
  | error fault => exact .inl ⟨fault, hanswer, hnow.eq_of_error hanswer⟩
  | ok done => exact .inr ⟨hanswer, hnow.of_ok hcommand hanswer⟩

/-- A client that is told to go to a server it cannot use, and then to one it can use, ends with
the second in its settings, and reads from where it submits to. -/
theorem gateways_agree_second_url :
    let settings : Settings := { restApiUrl := "http://[::1]:8008/", gatewayAttempts := 2 }
    ∃ client first second,
      connect Network.carrier settings (.ofKey ⟨1, by decide, by decide⟩) = .ok client ∧
        run Network.carrier client .down [.setUrl "ftp://[::1]", .setUrl "http://[::2]/"] =
          [first, second] ∧
        second.after.settings.baseUrl = "http://[::2]" ∧
        second.after.projector.gateway = second.after.gateway := by
  intro settings
  let client : Client Network := ofGateway settings (.ofKey ⟨1, by decide, by decide⟩)
    (((RestApi.mk "http://[::1]:8008").gateway Network.carrier).retrying settings.retryPolicy)
  have hapi : RestApi.ofUrl settings.baseUrl = .ok ⟨"http://[::1]:8008"⟩ := by decide +kernel
  have hclient :
      connect Network.carrier settings (.ofKey ⟨1, by decide, by decide⟩) = .ok client := by
    rw [connect, dial, hapi]
    rfl
  let commands : List Command := [.setUrl "ftp://[::1]", .setUrl "http://[::2]/"]
  have hanswers : (run Network.carrier client .down commands).map Step.answer =
      [.url (.error (.badRequest "REST API URL must be http or https, got ftp")),
        .url (.ok ())] := by
    decide +kernel
  obtain ⟨first, second, hrun⟩ : ∃ first second,
      run Network.carrier client .down commands = [first, second] := ⟨_, _, rfl⟩
  have hcommand : second.command = .setUrl "http://[::2]/" := by
    have hlast := congrArg (fun steps => steps.getLast?.map Step.command) hrun
    exact (Option.some.inj hlast).symm
  rw [hrun, List.map_cons, List.map_singleton, List.cons.injEq, List.singleton_inj] at hanswers
  obtain ⟨-, -, hsteps⟩ := gateways_agree hclient .down commands
  obtain ⟨-, hafter, -, hchange⟩ := hsteps second (by rw [hrun]; simp)
  refine ⟨client, first, second, hclient, hrun, ?_, hafter.projector_eq⟩
  obtain ⟨-, ⟨fault, herror, -⟩ | ⟨-, hbase, -⟩⟩ := hchange "http://[::2]/" hcommand
  · rw [hanswers.2] at herror
    simp at herror
  · rw [hbase]
    decide +kernel

end Client

end XoLedger

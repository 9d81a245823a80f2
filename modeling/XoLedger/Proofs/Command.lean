import XoLedger.Command.Run
import XoLedger.Proofs.Play
import XoLedger.Proofs.Report
import XoLedger.Proofs.Settings

/-!
# How a player is told what has become of an intent

The program opens a game or takes a cell in five steps: it reads and checks its settings, finds the
player, makes a batch of what is intended, submits it and asks what has become of it. `Completes`
says that all five have gone well and the batch was not refused. Exactly then a line is printed and
the program ends with success, and nothing is sent before the first three steps are done.
-/

namespace XoLedger

open RetryPolicy RestApi

/-! ### What the server tells -/

/-- What the server with these endpoints tells about a batch: its reply with index `m` acknowledges
the submission, and the one with index `n` after that has the report. -/
structure Settings.Endpoints.Tells {settings : Settings} (e : settings.Endpoints) (net : Network)
    (m n : Nat) (submission : Submission) (report : BatchReport) : Prop where
  /-- Up to the first of these replies, submissions fail in passing. -/
  submitted : StopsAt IsPassingFailure (fun i => submissionOf e.batches (net.reply i))
    (max 1 settings.gatewayAttempts.toNat) m
  /-- This reply acknowledges the submission. -/
  acknowledged : submissionOf e.batches (net.reply m) = .ok submission
  /-- Up to the second one, the status is open. -/
  asked : StopsAt IsOpenStatus (fun i =>
    statusOf (e.statusUrl submission.batchId) submission.batchId (net.reply (m + 1 + i)))
    (max 1 settings.gatewayAttempts.toNat) n
  /-- This reply has the report. -/
  reported : statusOf (e.statusUrl submission.batchId) submission.batchId
    (net.reply (m + 1 + n)) = .ok report

/-- What the server in the settings tells about a batch. -/
def Settings.Tells (settings : Settings) (net : Network) (submission : Submission)
    (report : BatchReport) : Prop :=
  ∃ (e : settings.Endpoints) (m n : Nat), e.Tells net m n submission report

namespace Client

open Course

variable {settings : Settings} {signer : Signer} {client : Client Network} {net : Network}

/-- Once a batch is acknowledged, what is told about it is in a later reply. -/
lemma submitBatch_run_of_acknowledged
    (hclient : connect Network.carrier settings signer = .ok client) (e : settings.Endpoints)
    (hup : net.isUp = true) (batch : Batch) {m : Nat} {submission : Submission}
    (hm : StopsAt IsPassingFailure (fun i => submissionOf e.batches (net.reply i))
      settings.retryPolicy.attempts m)
    (hacknowledged : submissionOf e.batches (net.reply m) = .ok submission) :
    ∃ n, StopsAt IsOpenStatus (fun i =>
        statusOf (e.statusUrl submission.batchId) submission.batchId (net.reply (m + 1 + i)))
        settings.retryPolicy.attempts n ∧
      ((client.submitBatch batch).run net).value =
        (statusOf (e.statusUrl submission.batchId) submission.batchId
          (net.reply (m + 1 + n))).map (fun report =>
            ⟨submission.batchId, report.status, report.invalidTransactions⟩) := by
  obtain ⟨hsettings, hgateway⟩ := eq_of_connect hclient
  obtain ⟨m', hm', hvalue, hworld⟩ := submit_run e hup batch
  obtain rfl := hm.unique hm'
  rw [hacknowledged, ← hgateway] at hvalue
  rw [← hgateway] at hworld
  have hup' : (net.after (List.replicate (m + 1) (e.post batch))).isUp = true := hup
  obtain ⟨n, hn, hstatus, -⟩ := status_run e hup' submission.batchId
  simp only [Network.reply_after, List.length_replicate] at hn hstatus
  refine ⟨n, hn, ?_⟩
  rw [(submitBatch_run_of_submitted hvalue).1, hworld, hgateway, hsettings, hstatus]

/-- A submission ends with an outcome exactly if the server tells one. -/
lemma submitBatch_value_eq_ok_iff
    (hclient : connect Network.carrier settings signer = .ok client) (hup : net.isUp = true)
    (batch : Batch) (outcome : SubmissionOutcome) :
    ((client.submitBatch batch).run net).value = .ok outcome ↔
      ∃ submission report, settings.Tells net submission report ∧
        outcome = ⟨submission.batchId, report.status, report.invalidTransactions⟩ := by
  constructor
  · intro h
    obtain ⟨hsettings, hgateway⟩ := eq_of_connect hclient
    obtain ⟨submission, hsubmission, -⟩ := exists_of_bind_run_ok h
    obtain ⟨e⟩ : Nonempty settings.Endpoints := by
      have hvalue := (submitBatch_run_of_submitted hsubmission).1
      rw [h] at hvalue
      obtain ⟨report, hreport, -⟩ := Except.map_eq_ok_iff.mp hvalue.symm
      exact exists_endpoints_of_submitBatch hsettings hgateway hsubmission hreport
    obtain ⟨m, hm, hsubmitted, -⟩ := submit_run e hup batch
    have hacknowledged : submissionOf e.batches (net.reply m) = .ok submission := by
      rw [← hsubmitted, ← hgateway]
      exact hsubmission
    obtain ⟨n, hn, hvalue⟩ := submitBatch_run_of_acknowledged hclient e hup batch hm hacknowledged
    rw [hvalue, Except.map_eq_ok_iff] at h
    obtain ⟨report, hreported, rfl⟩ := h
    rw [settings.attempts_retryPolicy] at hm hn
    exact ⟨submission, report, ⟨e, m, n, hm, hacknowledged, hn, hreported⟩, rfl⟩
  · rintro ⟨submission, report, ⟨e, m, n, htells⟩, rfl⟩
    have hm := htells.submitted
    have hn := htells.asked
    rw [← settings.attempts_retryPolicy] at hm hn
    obtain ⟨n', hn', hvalue⟩ :=
      submitBatch_run_of_acknowledged hclient e hup batch hm htells.acknowledged
    obtain rfl := hn.unique hn'
    rw [hvalue, htells.reported]
    rfl

end Client

/-! ### What the player intends -/

/-- An intent makes sense: a new game has a name, and a cell is on the board. -/
def Intent.IsSensible (name : String) : Intent → Prop
  | .create => trim name ≠ ""
  | .take space => 1 ≤ space.toNat ∧ space.toNat ≤ 9

/-- What a player intends with a game is accepted, and becomes a batch. -/
structure Intent.IsAccepted (intent : Intent) (signer : Signer) (random : Bytes) (name : String)
    (batch : Batch) : Prop where
  /-- The intent makes sense. -/
  isSensible : intent.IsSensible name
  /-- The name of the game can be written into a payload. -/
  comma_not_mem : ',' ∉ name.toList
  /-- The batch is made and signed. -/
  outcome_eq : Batch.outcome signer ⟨name, intent, Nonce.ofRandom random⟩ = .ok batch

/-- A batch that is made has a name without commas in it. -/
lemma Intent.isAccepted_iff {intent : Intent} {signer : Signer} {random : Bytes} {name : String}
    {batch : Batch} :
    intent.IsAccepted signer random name batch ↔
      intent.IsSensible name ∧
        Batch.outcome signer ⟨name, intent, Nonce.ofRandom random⟩ = .ok batch := by
  constructor
  · intro h
    exact ⟨h.isSensible, h.outcome_eq⟩
  · rintro ⟨hsensible, houtcome⟩
    refine ⟨hsensible, ?_, houtcome⟩
    intro hcomma
    rw [Batch.outcome_of_comma_mem hcomma] at houtcome
    cases houtcome

namespace Command

/-- What is intended with which game, if a command is about an intent. -/
def Task.intent? : Task → Option (String × Intent)
  | .create name => some (name, .create)
  | .take name space => some (name, .take space)
  | .list | .board _ | .watch | .keygen => none

lemma ne_keygen_of_intent {task : Task} {intended : String × Intent}
    (h : task.intent? = some intended) : task ≠ .keygen := by
  rintro rfl
  cases h

/-! ### Getting ready -/

/-- The settings can be read and used, the URL in the words counting first, and there is a player:
the one in the settings, or a new one. -/
structure Context.IsReady {σ : Type} (context : Context σ) (url : Option String)
    (settings : Settings) (signer : Signer) : Prop where
  /-- The settings are read. -/
  read : ∃ read, Settings.load context.environment context.envFile = .ok read ∧
    settings = { read with restApiUrl := url.getD read.restApiUrl }
  /-- They make sense. -/
  valid : ∃ remarks, settings.validate = .ok remarks
  /-- The key in them is one, if there is any. -/
  player : (settings.privateKey = none ∧ signer = .ofKey context.freshKey) ∨
    ∃ text key, settings.privateKey = some text ∧ PrivateKey.parse text = .ok key ∧
      signer = .ofKey key

section Setup

variable {σ : Type} {context : Context σ} {url : Option String} {settings : Settings}
  {signer : Signer}

/-- Settings are found exactly if they can be read and used. -/
lemma settings_eq_ok_iff {remarks : List Log.Line} :
    Command.settings context url = .ok (settings, remarks) ↔
      (∃ read, Settings.load context.environment context.envFile = .ok read ∧
        settings = { read with restApiUrl := url.getD read.restApiUrl }) ∧
      settings.validate = .ok remarks := by
  unfold Command.settings
  simp only [Except.bind_eq_ok_iff, Except.mapError_eq_ok_iff]
  constructor
  · rintro ⟨read, hread, remarks', hvalid, heq⟩
    obtain ⟨rfl, rfl⟩ := Prod.mk.inj (Except.ok.inj heq)
    exact ⟨⟨read, hread, rfl⟩, hvalid⟩
  · rintro ⟨⟨read, hread, rfl⟩, hvalid⟩
    exact ⟨read, hread, remarks, hvalid, rfl⟩

/-- The player is the one in the settings, or a new one. -/
lemma signer_eq_ok_iff :
    Command.signer context settings = .ok signer ↔
      (settings.privateKey = none ∧ signer = .ofKey context.freshKey) ∨
        ∃ text key, settings.privateKey = some text ∧ PrivateKey.parse text = .ok key ∧
          signer = .ofKey key := by
  unfold Command.signer
  cases hkey : settings.privateKey with
  | none => simp [eq_comm]
  | some text =>
    cases hparse : PrivateKey.parse text with
    | error cause => simp [hparse]
    | ok key => simp [hparse, eq_comm]

/-- There is a client exactly if everything is ready for one, and then it is connected to the
server in the settings. -/
lemma client_eq_ok_iff {c : Client σ} :
    (∃ remarks, Command.client context url = .ok (c, remarks)) ↔
      ∃ settings signer, context.IsReady url settings signer ∧
        Client.connect context.carrier settings signer = .ok c := by
  unfold Command.client
  simp only [Except.bind_eq_ok_iff, Except.mapError_eq_ok_iff]
  constructor
  · rintro ⟨lines, ⟨settings, remarks⟩, hsettings, signer, hsigner, c', hc, heq⟩
    obtain ⟨rfl, -⟩ := Prod.mk.inj (Except.ok.inj heq)
    obtain ⟨hread, hvalid⟩ := settings_eq_ok_iff.mp hsettings
    exact ⟨settings, signer, ⟨hread, ⟨remarks, hvalid⟩, signer_eq_ok_iff.mp hsigner⟩, hc⟩
  · rintro ⟨settings, signer, ⟨hread, ⟨remarks, hvalid⟩, hplayer⟩, hc⟩
    exact ⟨_, (settings, remarks), settings_eq_ok_iff.mpr ⟨hread, hvalid⟩, signer,
      signer_eq_ok_iff.mpr hplayer, c, hc, rfl⟩

/-- There is one choice of settings and one player at most. -/
lemma Context.IsReady.unique {settings' : Settings} {signer' : Signer}
    (h : context.IsReady url settings signer) (h' : context.IsReady url settings' signer') :
    settings = settings' ∧ signer = signer' := by
  obtain ⟨read, hread, rfl⟩ := h.read
  obtain ⟨read', hread', rfl⟩ := h'.read
  obtain rfl := Except.ok.inj (hread.symm.trans hread')
  have hsigner := signer_eq_ok_iff.mpr h.player
  rw [signer_eq_ok_iff.mpr h'.player] at hsigner
  exact ⟨rfl, (Except.ok.inj hsigner).symm⟩

/-- Where nothing is ready, the program ends with a failure and sends nothing. -/
lemma runTask_of_not_isReady {task : Task} (htask : task ≠ .keygen)
    (h : ¬ ∃ settings signer, context.IsReady url settings signer) (world : σ) :
    ∃ message, (runTask context url task world).value = .failure message ∧
      (runTask context url task world).world = world := by
  rw [runTask, if_neg htask]
  cases hc : Command.client context url with
  | error e => exact ⟨e.message, rfl, rfl⟩
  | ok made =>
    obtain ⟨settings, signer, hready, -⟩ := client_eq_ok_iff.mp ⟨made.2, hc⟩
    exact absurd ⟨settings, signer, hready⟩ h

/-- What is noted changes nothing. -/
lemma noteAll_world (lines : List Log.Line) (world : σ) :
    (noteAll lines world).world = world := by
  induction lines with
  | nil => rfl
  | cons line rest ih => exact ih

/-- Settings that pass the check can be connected. -/
lemma exists_connect_of_isReady (h : context.IsReady url settings signer) :
    ∃ c, Client.connect context.carrier settings signer = .ok c := by
  obtain ⟨remarks, hvalid⟩ := h.valid
  obtain ⟨-, ⟨base, hbase, hweb⟩, -⟩ := Settings.validate_eq_ok_iff.mp hvalid
  have hapi := ofUrl_eq_ok_iff.mpr ⟨rfl, exists_parse_withoutSlashes hbase hweb⟩
  rw [Client.connect, Client.dial, Settings.baseUrl, hapi]
  exact ⟨_, rfl⟩

/-- Where everything is ready, the program does with a client what the command says. -/
lemma runTask_of_isReady {task : Task} (htask : task ≠ .keygen)
    (h : context.IsReady url settings signer) (world : σ) :
    ∃ c, Client.connect context.carrier settings signer = .ok c ∧
      (runTask context url task world).value = (perform context c task world).value ∧
      (runTask context url task world).world = (perform context c task world).world := by
  obtain ⟨c, hconnect⟩ := exists_connect_of_isReady h
  obtain ⟨remarks, hc⟩ := client_eq_ok_iff.mpr ⟨settings, signer, h, hconnect⟩
  refine ⟨c, hconnect, ?_⟩
  rw [runTask, if_neg htask, hc]
  change (perform context c task (noteAll remarks world).world).value = _ ∧
    (perform context c task (noteAll remarks world).world).world = _
  rw [noteAll_world]
  exact ⟨rfl, rfl⟩

end Setup

/-! ### Doing what is intended -/

/-- A command about an intent plays it if it makes sense, and fails otherwise. -/
lemma perform_of_intent {σ : Type} (context : Context σ) (c : Client σ) {task : Task}
    {name : String} {intent : Intent} (hintent : task.intent? = some (name, intent)) (world : σ) :
    (intent.IsSensible name →
      (perform context c task world).value = .ofResult
          (((c.play context.random name intent).run world).value.bind outcomeLines) ∧
        (perform context c task world).world =
          ((c.play context.random name intent).run world).world) ∧
      (¬ intent.IsSensible name →
        ∃ fault, (perform context c task world).value = .ofResult (.error fault) ∧
          (perform context c task world).world = world) := by
  cases task with
  | create name' =>
    cases hintent
    constructor
    · intro hsensible
      rw [perform, Client.createGame, if_neg hsensible]
      exact ⟨rfl, rfl⟩
    · intro hsenseless
      rw [perform, Client.createGame, if_pos (not_not.mp hsenseless)]
      exact ⟨_, rfl, rfl⟩
  | take name' space =>
    cases hintent
    have hspace := Client.senseless_space_iff space
    constructor
    · intro hsensible
      rw [perform, Client.takeSpace, if_neg fun h => hspace.mp h hsensible]
      exact ⟨rfl, rfl⟩
    · intro hsenseless
      rw [perform, Client.takeSpace, if_pos (hspace.mpr hsenseless)]
      exact ⟨_, rfl, rfl⟩
  | list | board | watch | keygen => cases hintent

/-- Lines are printed about an outcome unless the batch was refused. -/
lemma outcomeLines_eq_ok_iff {outcome : SubmissionOutcome} {lines : List String} :
    outcomeLines outcome = .ok lines ↔
      outcome.status ≠ .invalid ∧ lines = [s!"{outcome.batchId} {outcome.status.word}"] := by
  unfold outcomeLines SubmissionOutcome.ensureCommitted
  by_cases hinvalid : outcome.status = .invalid
  · simp [hinvalid]
  · simp [hinvalid, eq_comm]

/-- For an intent that is not accepted nothing is done. -/
lemma perform_of_not_isAccepted {σ : Type} (context : Context σ) (c : Client σ) {task : Task}
    {name : String} {intent : Intent} (hintent : task.intent? = some (name, intent))
    (h : ∀ batch, ¬ intent.IsAccepted c.signer context.random name batch) (world : σ) :
    ∃ fault, (perform context c task world).value = .ofResult (.error fault) ∧
      (perform context c task world).world = world := by
  obtain ⟨hplayed, hrefused⟩ := perform_of_intent context c hintent world
  by_cases hsensible : intent.IsSensible name
  · obtain ⟨hvalue, hworld⟩ := hplayed hsensible
    cases houtcome : Batch.outcome c.signer ⟨name, intent, Nonce.ofRandom context.random⟩ with
    | ok batch => exact absurd (Intent.isAccepted_iff.mpr ⟨hsensible, houtcome⟩) (h batch)
    | error fault =>
      obtain ⟨hplay, hstill⟩ := Client.play_run_of_error houtcome world
      refine ⟨fault, ?_, hworld.trans hstill⟩
      rw [hvalue, hplay]
      rfl
  · exact hrefused hsensible

/-- For an intent that is accepted its batch is submitted. -/
lemma perform_of_isAccepted {σ : Type} (context : Context σ) (c : Client σ) {task : Task}
    {name : String} {intent : Intent} (hintent : task.intent? = some (name, intent)) {batch : Batch}
    (h : intent.IsAccepted c.signer context.random name batch) (world : σ) :
    (perform context c task world).value =
      .ofResult (((c.submitBatch batch).run world).value >>= outcomeLines) := by
  rw [((perform_of_intent context c hintent world).1 h.isSensible).1,
    (Client.play_run_of_ok h.outcome_eq world).1]
  rfl

/-- Lines come of an intent exactly if it is accepted, the server tells what has become of the batch
and the batch was not refused. Nothing is sent for an intent that is not accepted. -/
lemma perform_cases (context : Context Network) {settings : Settings} {signer : Signer}
    {c : Client Network} (hconnect : Client.connect Network.carrier settings signer = .ok c)
    {task : Task} {name : String} {intent : Intent} (hintent : task.intent? = some (name, intent))
    {net : Network} (hup : net.isUp = true) :
    ∃ result, (perform context c task net).value = .ofResult result ∧
      (∀ lines, result = .ok lines ↔ ∃ batch submission report,
        intent.IsAccepted signer context.random name batch ∧
          settings.Tells net submission report ∧ report.status ≠ .invalid ∧
          lines = [s!"{submission.batchId} {report.status.word}"]) ∧
      ((∀ batch, ¬ intent.IsAccepted signer context.random name batch) →
        (perform context c task net).world = net) := by
  obtain rfl : c.signer = signer := by
    obtain ⟨gateway, -, rfl⟩ := Except.map_eq_ok_iff.mp hconnect
    rfl
  by_cases haccepted : ∃ batch, intent.IsAccepted c.signer context.random name batch
  · obtain ⟨batch, haccepted⟩ := haccepted
    have htold := Client.submitBatch_value_eq_ok_iff hconnect hup batch
    refine ⟨_, perform_of_isAccepted context c hintent haccepted net, ?_, ?_⟩
    · intro lines
      rw [Except.bind_eq_ok_iff]
      constructor
      · rintro ⟨outcome, hdone, hlines⟩
        obtain ⟨submission, report, htells, rfl⟩ := (htold outcome).mp hdone
        exact ⟨batch, submission, report, haccepted, htells, outcomeLines_eq_ok_iff.mp hlines⟩
      · rintro ⟨-, submission, report, -, htells, hlines⟩
        have hdone := (htold _).mpr ⟨submission, report, htells, rfl⟩
        exact ⟨_, hdone, outcomeLines_eq_ok_iff.mpr hlines⟩
    · intro hnone
      exact absurd haccepted (hnone batch)
  · have hnone := not_exists.mp haccepted
    obtain ⟨fault, hvalue, hworld⟩ := perform_of_not_isAccepted context c hintent hnone net
    refine ⟨_, hvalue, ?_, fun _ => hworld⟩
    intro lines
    constructor
    · intro hlines
      cases hlines
    · rintro ⟨batch, -, -, haccepted', -⟩
      exact absurd haccepted' (hnone batch)

/-! ### From the words to the exit code -/

/-- Everything is ready, and what is intended with a game becomes a batch. -/
def Context.Accepts (context : Context Network) (url : Option String) (name : String)
    (intent : Intent) (settings : Settings) (batch : Batch) : Prop :=
  ∃ signer, context.IsReady url settings signer ∧
    intent.IsAccepted signer context.random name batch

/-- What is intended becomes a batch, which is acknowledged, reported about and not refused. -/
def Context.Completes (context : Context Network) (url : Option String) (name : String)
    (intent : Intent) (net : Network) (submission : Submission) (report : BatchReport) : Prop :=
  ∃ settings batch, context.Accepts url name intent settings batch ∧
    settings.Tells net submission report ∧ report.status ≠ .invalid

section Outcome

variable {context : Context Network} {url : Option String} {task : Task} {name : String}
  {intent : Intent} {net : Network}

/-- A command about an intent ends with a line if it completes, and with a failure if not. -/
lemma runTask_cases (hcarrier : context.carrier = Network.carrier)
    (hintent : task.intent? = some (name, intent)) (hup : net.isUp = true) :
    (∃ lines, (runTask context url task net).value = .success lines ∧
      (∃ submission report, context.Completes url name intent net submission report) ∧
      ∀ submission report, context.Completes url name intent net submission report →
        lines = [s!"{submission.batchId} {report.status.word}"]) ∨
    ∃ message, (runTask context url task net).value = .failure message ∧
      ¬ ∃ submission report, context.Completes url name intent net submission report := by
  by_cases hready : ∃ settings signer, context.IsReady url settings signer
  · obtain ⟨settings, signer, hready⟩ := hready
    obtain ⟨c, hconnect, hvalue, -⟩ := runTask_of_isReady (ne_keygen_of_intent hintent) hready net
    rw [hcarrier] at hconnect
    obtain ⟨result, hresult, hlines, -⟩ := perform_cases context hconnect hintent hup
    -- the settings and the player that are ready are the ones with which the command completes
    have hcompletes : ∀ {submission report},
        context.Completes url name intent net submission report →
          result = .ok [s!"{submission.batchId} {report.status.word}"] := by
      rintro submission report ⟨settings', batch, ⟨signer', hready', haccepted⟩, htells, hstatus⟩
      obtain ⟨rfl, rfl⟩ := hready.unique hready'
      exact (hlines _).mpr ⟨batch, submission, report, haccepted, htells, hstatus, rfl⟩
    rw [hvalue, hresult]
    cases result with
    | ok lines =>
      obtain ⟨batch, submission, report, haccepted, htells, hstatus, -⟩ := (hlines lines).mp rfl
      refine .inl ⟨lines, rfl, ?_, fun _ _ h => Except.ok.inj (hcompletes h)⟩
      exact ⟨submission, report, settings, batch, ⟨signer, hready, haccepted⟩, htells, hstatus⟩
    | error fault =>
      refine .inr ⟨fault.message, rfl, ?_⟩
      rintro ⟨submission, report, h⟩
      exact nomatch hcompletes h
  · obtain ⟨message, hvalue, -⟩ :=
      runTask_of_not_isReady (ne_keygen_of_intent hintent) hready net
    refine .inr ⟨message, hvalue, ?_⟩
    rintro ⟨submission, report, settings, batch, ⟨signer, hready', -⟩, -⟩
    exact hready ⟨settings, signer, hready'⟩

/-- A command about an intent sends nothing before there is a batch. -/
lemma runTask_world_of_not_accepts (hcarrier : context.carrier = Network.carrier)
    (hintent : task.intent? = some (name, intent)) (hup : net.isUp = true)
    (h : ¬ ∃ settings batch, context.Accepts url name intent settings batch) :
    (runTask context url task net).world = net := by
  by_cases hready : ∃ settings signer, context.IsReady url settings signer
  · obtain ⟨settings, signer, hready⟩ := hready
    obtain ⟨c, hconnect, -, hworld⟩ := runTask_of_isReady (ne_keygen_of_intent hintent) hready net
    rw [hcarrier] at hconnect
    obtain ⟨result, -, -, hsilent⟩ := perform_cases context hconnect hintent hup
    rw [hworld]
    exact hsilent fun batch haccepted => h ⟨settings, batch, signer, hready, haccepted⟩
  · obtain ⟨message, -, hworld⟩ :=
      runTask_of_not_isReady (ne_keygen_of_intent hintent) hready net
    exact hworld

end Outcome

/-- **A line and success, or neither.** The program is told to open a game or to take a cell,
whatever its environment, its words and the replies of the server are. It ends with success exactly
if its settings can be read and used, the key in them, if any, is one, the intent is accepted, the
submission is acknowledged and a status comes back that is not the one of a refused batch; then it
prints one line, the identifier of the batch and that status. In all other cases it fails and
prints no line. If it has not come as far as to a batch, it has sent nothing. -/
theorem run_succeeds_iff_completes {context : Context Network}
    (hcarrier : context.carrier = Network.carrier) {words : List Bytes} {url : Option String}
    {task : Task} (hwords : parse? words = some (.run url task)) {name : String} {intent : Intent}
    (hintent : task.intent? = some (name, intent)) (replies : List Reply) (fallback : Reply) :
    let net := Network.scripted replies fallback
    let t := run context words net
    (t.value.code = 0 ↔
      ∃ submission report, context.Completes url name intent net submission report) ∧
    (∀ submission report, context.Completes url name intent net submission report →
      t.value = .success [s!"{submission.batchId} {report.status.word}"]) ∧
    ((¬ ∃ submission report, context.Completes url name intent net submission report) →
      t.value.code = 1 ∧ t.value.stdout = "") ∧
    ((¬ ∃ settings batch, context.Accepts url name intent settings batch) →
      t.world.requests = []) := by
  intro net t
  have hrun : t = runTask context url task net := by
    simp only [t, run, hwords]
  have hup : net.isUp = true := rfl
  have hsilent : (¬ ∃ settings batch, context.Accepts url name intent settings batch) →
      (runTask context url task net).world.requests = [] := by
    intro h
    rw [runTask_world_of_not_accepts hcarrier hintent hup h]
    rfl
  rw [hrun]
  rcases runTask_cases hcarrier hintent hup with
    ⟨lines, hvalue, hcompletes, hlines⟩ | ⟨message, hvalue, hincomplete⟩
  · rw [hvalue]
    refine ⟨iff_of_true rfl hcompletes, ?_, ?_, hsilent⟩
    · intro submission report h
      rw [hlines submission report h]
    · intro h
      exact absurd hcompletes h
  · rw [hvalue]
    refine ⟨iff_of_false Nat.one_ne_zero hincomplete, ?_, ?_, hsilent⟩
    · intro submission report h
      exact absurd ⟨submission, report, h⟩ hincomplete
    · intro _
      exact ⟨rfl, rfl⟩

/-- The player of the server close by, without settings of their own. -/
def nearbyContext : Context Network where
  carrier := Network.carrier
  environment := []
  envFile := none
  freshKey := Client.neighbour.signer.key
  random := [7]
  watchRounds := 0

/-- The replies of a server that acknowledges a submission and reports that it has taken effect. -/
def willingReplies : List Reply :=
  [.answer 202 (Utf8.encode "\x7b\"link\":\"http://[::1]/batch_statuses?id=ab\"\x7d"),
    .answer 200 (Utf8.encode "\x7b\"data\":[\x7b\"id\":\"ab\",\"status\":\"COMMITTED\"\x7d]\x7d")]

/-- The words of a player who wants to take a cell that is not on the board. -/
def strayWords : List Bytes :=
  ["take", "mine", "0", "--url", "http://[::1]:8008"].map Utf8.encode

/-- However willing the server is, a cell that is not on the board is not asked for: the program
fails and has sent nothing. -/
theorem run_fails_off_the_board :
    (run nearbyContext strayWords (.scripted willingReplies .dropped)).value.code = 1 ∧
      (run nearbyContext strayWords (.scripted willingReplies .dropped)).value.stdout = "" ∧
      (run nearbyContext strayWords (.scripted willingReplies .dropped)).world.requests = [] := by
  have hwords : parse? strayWords = some (.run (some "http://[::1]:8008") (.take "mine" 0)) := by
    decide +kernel
  have hnone : ¬ ∃ settings batch,
      nearbyContext.Accepts (some "http://[::1]:8008") "mine" (.take 0) settings batch := by
    rintro ⟨settings, batch, signer, -, haccepted⟩
    exact absurd haccepted.isSensible.1 (by decide)
  obtain ⟨-, -, hfails, hsilent⟩ := run_succeeds_iff_completes
    (rfl : nearbyContext.carrier = Network.carrier) hwords rfl willingReplies .dropped
  obtain ⟨hcode, hstdout⟩ := hfails (by
    rintro ⟨submission, report, settings, batch, haccepts, -⟩
    exact hnone ⟨settings, batch, haccepts⟩)
  exact ⟨hcode, hstdout, hsilent hnone⟩

end Command

end XoLedger

import Mathlib.Tactic.Lemma
import XoLedger.Proofs.Submission

/-!
# What is told about a batch is what was reported

A submission that succeeds ends with an outcome. It was read off the last answer about batches that
the server gave: off the first report in it with the identifier of the batch, or off the first
report of all if there is none with it. The second case is real: a server that reports about
another batch only has that batch's status taken for the one of the submitted batch.
-/

namespace XoLedger

/-! ### One report among several -/

/-- The report that is taken from several for one about a batch: the first with its identifier, or
the first of all if none has it. -/
def BatchReport.IsTakenFrom (report : BatchReport) (reports : List BatchReport)
    (batchId : String) : Prop :=
  reports.find? (·.id = batchId) = some report ∨
    (∀ other ∈ reports, other.id ≠ batchId) ∧ reports.head? = some report

namespace BatchReport

variable {report : BatchReport} {reports : List BatchReport} {batchId : String}

/-- A report is found in an answer if there is any. -/
lemma isTakenFrom_of_reportOf (h : RestApi.reportOf batchId reports = .ok report) :
    report.IsTakenFrom reports batchId := by
  cases reports with
  | nil => exact absurd h (by simp [RestApi.reportOf])
  | cons first rest =>
    unfold RestApi.reportOf at h
    have hreport := Except.ok.inj h
    cases hfind : (first :: rest).find? (·.id = batchId) with
    | some own =>
      rw [hfind, Option.getD_some] at hreport
      exact .inl (hreport ▸ hfind)
    | none =>
      rw [hfind, Option.getD_none] at hreport
      refine .inr ⟨fun other hother => ?_, congrArg some hreport⟩
      simpa using List.find?_eq_none.mp hfind other hother

/-- A report that is taken for one about a batch has its identifier, or no report has it. -/
lemma IsTakenFrom.id_eq_or (h : report.IsTakenFrom reports batchId) :
    report ∈ reports ∧
      (report.id = batchId ∨
        (∀ other ∈ reports, other.id ≠ batchId) ∧ reports.head? = some report) := by
  rcases h with hfind | ⟨hnone, hhead⟩
  · exact ⟨List.mem_of_find?_eq_some hfind, .inl (by simpa using List.find?_some hfind)⟩
  · exact ⟨List.mem_of_mem_head? hhead, .inr ⟨hnone, hhead⟩⟩

end BatchReport

/-! ### Requests that can be made -/

namespace RestApi

variable {api : RestApi} {net : Network}

/-- An exchange succeeds only if its request can be made. -/
lemma isSendable_of_exchange {α : Type} {read : Json.Decoder α} {request : Request} {a : α}
    (h : ((exchange Network.carrier read request).run net).value = .ok a) :
    isSendable request.url = true := by
  by_contra hsend
  rw [exchange, if_neg hsend] at h
  cases h

/-- An endpoint that something is sent to is one for which requests can be made. -/
lemma exists_url_of_endpoint {path : String} {pairs : List (String × String)} {url : Url}
    (hurl : ((Course.ofExcept Error.toFault (api.endpoint path pairs)).run net).value = .ok url)
    (hsend : isSendable url = true) :
    ∃ plain, Url.parse (api.baseUrl ++ "/" ++ path) = .ok plain ∧ isSendable plain = true := by
  rw [Course.ofExcept_run_apply, Except.mapError_eq_ok_iff] at hurl
  obtain ⟨plain, hplain, rfl⟩ := exists_of_endpoint hurl
  rw [isSendable_withPairs] at hsend
  exact ⟨plain, hplain, hsend⟩

/-- A submission succeeds only if its request can be made. -/
lemma exists_url_of_submit {list : BatchList} {submission : Submission}
    (h : ((api.submit Network.carrier list).run net).value = .ok submission) :
    ∃ url, Url.parse (api.baseUrl ++ "/" ++ batchesPath) = .ok url ∧ isSendable url = true := by
  unfold submit at h
  obtain ⟨url, hurl, h⟩ := Course.exists_of_bind_run_ok h
  obtain ⟨-, -, h⟩ := Course.exists_of_bind_run_ok h
  obtain ⟨answer, hanswer, -⟩ := Course.exists_of_bind_run_ok h
  exact exists_url_of_endpoint hurl (isSendable_of_exchange hanswer)

/-- A question about a batch is answered only if its request can be made. -/
lemma exists_url_of_status {batchId : String} {waitSecs : UInt64} {report : BatchReport}
    (h : ((api.status Network.carrier batchId waitSecs).run net).value = .ok report) :
    ∃ url, Url.parse (api.baseUrl ++ "/" ++ statusesPath) = .ok url ∧ isSendable url = true := by
  unfold status at h
  obtain ⟨url, hurl, h⟩ := Course.exists_of_bind_run_ok h
  obtain ⟨-, -, h⟩ := Course.exists_of_bind_run_ok h
  obtain ⟨answer, hanswer, -⟩ := Course.exists_of_bind_run_ok h
  exact exists_url_of_endpoint hurl (isSendable_of_exchange hanswer)

/-- What is made of a reply about a batch is taken from the reports in it. -/
lemma exists_answer_of_statusOf {url : Url} {batchId : String} {reply : Reply}
    {report : BatchReport} (h : statusOf url batchId reply = .ok report) :
    ∃ answer, answerOf StatusAnswer.shape.read url reply = .ok answer ∧
      report.IsTakenFrom answer.data batchId := by
  unfold statusOf at h
  obtain ⟨answer, hanswer, hreport⟩ := Except.bind_eq_ok_iff.mp h
  exact ⟨answer, hanswer, BatchReport.isTakenFrom_of_reportOf hreport⟩

end RestApi

namespace Client

open Course RestApi RetryPolicy

/-- A submission that is told about could be made: its endpoints can be built. -/
lemma exists_endpoints_of_submitBatch {settings : Settings} {client : Client Network}
    (hsettings : client.settings = settings)
    (hgateway : client.gateway = settings.gateway Network.carrier) {net : Network} {batch : Batch}
    {submission : Submission} {report : BatchReport}
    (hsubmission : ((client.gateway.submit ⟨[batch]⟩).run net).value = .ok submission)
    (hreport : ((client.gateway.status submission.batchId client.settings.batchWaitSecs).run
      ((client.gateway.submit ⟨[batch]⟩).run net).world).value = .ok report) :
    Nonempty settings.Endpoints := by
  rw [hgateway, hsettings] at hreport
  rw [hgateway] at hsubmission
  obtain ⟨m, hm⟩ := settings.retryPolicy.repeatCall_isRepeated "submit_batches"
    ((RestApi.mk settings.baseUrl).submit Network.carrier ⟨[batch]⟩)
    (settings.retryPolicy.attempts - 1) net
  obtain ⟨batches, hbatches, hbatches'⟩ :=
    exists_url_of_submit (hm.value.symm.trans hsubmission)
  obtain ⟨n, hn⟩ := settings.retryPolicy.repeatStatus_isRepeated submission.batchId
    ((RestApi.mk settings.baseUrl).status Network.carrier submission.batchId
      settings.batchWaitSecs)
    (settings.retryPolicy.attempts - 1)
    (((settings.gateway Network.carrier).submit ⟨[batch]⟩).run net).world
  obtain ⟨statuses, hstatuses, hstatuses'⟩ := exists_url_of_status (hn.value.symm.trans hreport)
  exact ⟨⟨batches, statuses, hbatches, hstatuses, hbatches', hstatuses'⟩⟩

/-- **What is told is what was reported.** When a submission ends with an outcome, the last request
was a question about the batch in the outcome, and the reply to it holds a report with the status
and the refused transactions of the outcome: the first report with the identifier of the batch, or
the first of all if none has it. So a batch is told to have taken effect only if the server said so
about it, or said nothing about it and reported first that another one has. -/
theorem reported_of_submitBatch {settings : Settings} {signer : Signer} {client : Client Network}
    (hclient : connect Network.carrier settings signer = .ok client) {net : Network}
    (hup : net.isUp = true) {batch : Batch} {outcome : SubmissionOutcome}
    (h : ((client.submitBatch batch).run net).value = .ok outcome) :
    ∃ (e : settings.Endpoints) (sent : List Request) (answer : StatusAnswer)
      (report : BatchReport),
      ((client.submitBatch batch).run net).world.requests =
        net.requests ++ sent ++ [e.ask outcome.batchId] ∧
      answerOf StatusAnswer.shape.read (e.statusUrl outcome.batchId) (net.reply sent.length) =
        .ok answer ∧
      report.IsTakenFrom answer.data outcome.batchId ∧
      report.status = outcome.status ∧
      report.invalidTransactions = outcome.invalidTransactions ∧
      (outcome.status = .committed →
        (∃ own ∈ answer.data, own.id = outcome.batchId ∧ own.status = .committed) ∨
        (∀ other ∈ answer.data, other.id ≠ outcome.batchId) ∧
          ∃ first, answer.data.head? = some first ∧ first.status = .committed) := by
  obtain ⟨hsettings, hgateway⟩ := eq_of_connect hclient
  obtain ⟨submission, hsubmission, -⟩ := exists_of_bind_run_ok h
  obtain ⟨hvalue, hworld⟩ := submitBatch_run_of_submitted hsubmission
  rw [hvalue, Except.map_eq_ok_iff] at h
  obtain ⟨report, hreport, rfl⟩ := h
  obtain ⟨e⟩ := exists_endpoints_of_submitBatch hsettings hgateway hsubmission hreport
  -- from here on the requests are known, and with them the replies that were read
  obtain ⟨m, -, -, hposted⟩ := submit_run e hup batch
  rw [hgateway, hsettings, hposted] at hreport hworld
  have hup' : (net.after (List.replicate (m + 1) (e.post batch))).isUp = true := hup
  obtain ⟨n, -, hstatus, hasked⟩ := status_run e hup' submission.batchId
  rw [hstatus, Network.reply_after, List.length_replicate] at hreport
  obtain ⟨answer, hanswer, htaken⟩ := exists_answer_of_statusOf hreport
  have hsent : ((client.submitBatch batch).run net).world.requests =
      net.requests ++ (List.replicate (m + 1) (e.post batch) ++
        List.replicate n (e.ask submission.batchId)) ++ [e.ask submission.batchId] := by
    rw [hworld, hasked, Network.requests_after, Network.requests_after,
      List.replicate_succ' (n := n)]
    simp only [List.append_assoc]
  have hlength : (List.replicate (m + 1) (e.post batch) ++
      List.replicate n (e.ask submission.batchId)).length = m + 1 + n := by
    rw [List.length_append, List.length_replicate, List.length_replicate]
  refine ⟨e, _, answer, report, hsent, ?_, htaken, rfl, rfl, ?_⟩
  · rw [hlength]
    exact hanswer
  · intro hcommitted
    obtain ⟨hmem, hown | ⟨hnone, hhead⟩⟩ := htaken.id_eq_or
    · exact .inl ⟨report, hmem, hown, hcommitted⟩
    · exact .inr ⟨hnone, report, hhead, hcommitted⟩

/-- A client of the server close by. -/
def neighbour : Client Network :=
  ofGateway nearby (.ofKey ⟨1, by decide, by decide⟩) (nearby.gateway Network.carrier)

/-- A client can be connected to it. -/
lemma connect_neighbour :
    connect Network.carrier nearby (.ofKey ⟨1, by decide, by decide⟩) = .ok neighbour := by
  have hapi : ofUrl nearby.baseUrl = .ok ⟨"http://[::1]:8008"⟩ := by decide +kernel
  rw [connect, dial, hapi]
  rfl

/-- The server acknowledges the batch `ab` and then reports about `cd` first, which has taken
effect, and about `ab` next, which has been refused: the refusal is told. -/
theorem reported_of_submitBatch_second :
    let net := Network.scripted
      [.answer 202 (Utf8.encode "\x7b\"link\":\"http://[::1]/batch_statuses?id=ab\"\x7d"),
        .answer 200
          (Utf8.encode ("\x7b\"data\":[\x7b\"id\":\"cd\",\"status\":\"COMMITTED\"\x7d," ++
            "\x7b\"id\":\"ab\",\"status\":\"INVALID\"\x7d]\x7d"))]
      .dropped
    ((neighbour.submitBatch {}).run net).value = .ok ⟨"ab", .invalid, []⟩ ∧
      ∃ (e : nearby.Endpoints) (sent : List Request) (answer : StatusAnswer)
        (report : BatchReport),
        ((neighbour.submitBatch {}).run net).world.requests = sent ++ [e.ask "ab"] ∧
        answerOf StatusAnswer.shape.read (e.statusUrl "ab") (net.reply sent.length) = .ok answer ∧
        report.IsTakenFrom answer.data "ab" ∧ report.status = .invalid := by
  intro net
  have htold : ((neighbour.submitBatch {}).run net).value = .ok ⟨"ab", .invalid, []⟩ := by
    decide +kernel
  obtain ⟨e, sent, answer, report, hsent, hanswer, htaken, hstatus, -, -⟩ :=
    reported_of_submitBatch connect_neighbour (rfl : net.isUp = true) htold
  exact ⟨htold, e, sent, answer, report, hsent, hanswer, htaken, hstatus⟩

/-- The server acknowledges the batch `ab` and then reports about `cd` only, which has taken
effect: `ab` is told to have taken effect, although no report of the only answer is about it. -/
theorem submitBatch_tells_of_other_batch :
    let net := Network.scripted
      [.answer 202 (Utf8.encode "\x7b\"link\":\"http://[::1]/batch_statuses?id=ab\"\x7d"),
        .answer 200
          (Utf8.encode "\x7b\"data\":[\x7b\"id\":\"cd\",\"status\":\"COMMITTED\"\x7d]\x7d")]
      .dropped
    connect Network.carrier nearby (.ofKey ⟨1, by decide, by decide⟩) = .ok neighbour ∧
      ((neighbour.submitBatch {}).run net).value = .ok ⟨"ab", .committed, []⟩ ∧
      ((neighbour.submitBatch {}).run net).world.requests =
        [nearbyEndpoints.post {}, nearbyEndpoints.ask "ab"] ∧
      ∃ answer, answerOf StatusAnswer.shape.read (nearbyEndpoints.statusUrl "ab") (net.reply 1) =
          .ok answer ∧
        ∀ report ∈ answer.data, report.id ≠ "ab" := by
  intro net
  have hdata : (answerOf StatusAnswer.shape.read (nearbyEndpoints.statusUrl "ab")
      (net.reply 1)).map StatusAnswer.data = .ok [⟨"cd", .committed, []⟩] := by
    decide +kernel
  obtain ⟨answer, hanswer, hreports⟩ := Except.map_eq_ok_iff.mp hdata
  refine ⟨connect_neighbour, by decide +kernel, by decide +kernel, answer, hanswer, ?_⟩
  rw [hreports]
  decide

end Client

end XoLedger

import Mathlib.Tactic.Lemma
import XoLedger.Proofs.Gateway.Link
import XoLedger.Proofs.Listing

/-!
# What is made of a reply

Whatever a server replies to one of the three requests, exactly one of four things is made of it: a
fault of the network if the answer did not arrive whole, else a fault with the status if that is no
success, else a fault of the gateway if the body does not say what was asked, and else what it says
(`replies_classified`). The first that applies is made, in this order for all three requests.
-/

namespace XoLedger

/-- Whether an answer with this status is a success. -/
def IsSuccess (status : Nat) : Prop := 200 ≤ status ∧ status < 300

instance (status : Nat) : Decidable (IsSuccess status) :=
  inferInstanceAs (Decidable (_ ∧ _))

/-- What is made of a reply whose body may lack what was asked, or say it. -/
structure IsClassified {α : Type} (Lacks : Bytes → Prop) (Says : Bytes → α → Prop) (reply : Reply)
    (result : Except Fault α) : Prop where
  /-- The network is at fault for what did not arrive, or not as a whole. -/
  transport_iff : (∃ reason, result = .error (.transport reason)) ↔
    reply = .dropped ∨ reply = .truncated
  /-- The status is told if it is no success, and with it the body. -/
  http_iff (status : Nat) (text : String) : result = .error (.http status text) ↔
    ∃ body, reply = .answer status body ∧ ¬ IsSuccess status ∧ text = Utf8.decodeLossy body
  /-- The gateway is at fault for a success that lacks what was asked. -/
  malformed_iff : (∃ reason, result = .error (.malformedResponse reason)) ↔
    ∃ status body, reply = .answer status body ∧ IsSuccess status ∧ Lacks body
  /-- What a success says is told. -/
  ok_iff (a : α) : result = .ok a ↔
    ∃ status body, reply = .answer status body ∧ IsSuccess status ∧ Says body a
  /-- Nothing else is made of a reply. -/
  complete : (∃ reason, result = .error (.transport reason)) ∨
    (∃ status text, result = .error (.http status text)) ∨
    (∃ reason, result = .error (.malformedResponse reason)) ∨ ∃ a, result = .ok a

namespace IsClassified

variable {α : Type} {Lacks Lacks' : Bytes → Prop} {Says Says' : Bytes → α → Prop}
variable {status : Nat} {body : Bytes}

lemma of_lost {reply : Reply} {reason : String} (h : reply = .dropped ∨ reply = .truncated) :
    IsClassified Lacks Says reply (.error (.transport reason)) := by
  rcases h with rfl | rfl <;> constructor <;> simp

lemma of_not_isSuccess (h : ¬ IsSuccess status) :
    IsClassified Lacks Says (.answer status body)
      (.error (.http status (Utf8.decodeLossy body))) := by
  constructor
  case http_iff =>
    intro status' text
    simp only [Except.error.injEq, Fault.http.injEq, Reply.answer.injEq]
    constructor
    · rintro ⟨rfl, rfl⟩
      exact ⟨body, ⟨rfl, rfl⟩, h, rfl⟩
    · rintro ⟨body', ⟨rfl, rfl⟩, -, rfl⟩
      exact ⟨rfl, rfl⟩
  all_goals simp [h]

lemma of_lacks {reason : String} (h : IsSuccess status) (hlacks : Lacks body)
    (htold : ∀ a, ¬ Says body a) :
    IsClassified Lacks Says (.answer status body) (.error (.malformedResponse reason)) := by
  constructor <;> simp [h, hlacks, htold]
  rintro status' text rfl hno
  exact absurd h hno

lemma of_told {a : α} (h : IsSuccess status) (hlacks : ¬ Lacks body)
    (htold : ∀ b, Says body b ↔ a = b) :
    IsClassified Lacks Says (.answer status body) (.ok a) := by
  constructor <;> simp [h, hlacks, htold]
  rintro status' text rfl hno
  exact absurd h hno

/-- The same is made of a reply if its body is described in other words. -/
lemma congr {reply : Reply} {result : Except Fault α} (h : IsClassified Lacks Says reply result)
    (hlacks : ∀ body, Lacks body ↔ Lacks' body) (htold : ∀ body a, Says body a ↔ Says' body a) :
    IsClassified Lacks' Says' reply result := by
  obtain rfl : Lacks = Lacks' := funext fun body => propext (hlacks body)
  obtain rfl : Says = Says' := funext fun body => funext fun a => propext (htold body a)
  exact h

end IsClassified

namespace RestApi

open Client

/-! ### Bodies -/

section Bodies

variable {α β : Type} {read : Json.Decoder α} {f : α → Except Fault β}

/-- A body is no text of what a decoder reads. -/
def IsNoText (read : Json.Decoder α) (body : Bytes) : Prop :=
  ∃ e, Json.decode read body = .error e

/-- What is read off a body and then checked is classified, if the check blames the gateway. -/
lemma isClassified_answerOf_bind
    (hf : ∀ a e, f a = .error e → ∃ reason, e = .malformedResponse reason)
    (url : Url) (reply : Reply) :
    IsClassified
      (fun body => IsNoText read body ∨ ∃ a, Json.decode read body = .ok a ∧ ∀ b, f a ≠ .ok b)
      (fun body b => ∃ a, Json.decode read body = .ok a ∧ f a = .ok b)
      reply (answerOf read url reply >>= f) := by
  unfold answerOf
  cases reply with
  | dropped => exact .of_lost (.inl rfl)
  | truncated => exact .of_lost (.inr rfl)
  | answer status body =>
    by_cases hstatus : IsSuccess status
    · have hbody : readReply url (.answer status body) = .ok body := if_pos hstatus
      rw [hbody, Except.ok_bind]
      cases hread : Json.decode read body with
      | error e =>
        refine .of_lacks hstatus (.inl ⟨e, hread⟩) ?_
        simp [hread]
      | ok a =>
        rw [Except.mapError_ok, Except.ok_bind]
        cases hchecked : f a with
        | error e =>
          obtain ⟨reason, rfl⟩ := hf a e hchecked
          refine .of_lacks hstatus (.inr ⟨a, hread, by simp [hchecked]⟩) ?_
          simp [hread, hchecked]
        | ok b =>
          refine .of_told hstatus ?_ ?_
          · simp [IsNoText, hread, hchecked]
          · simp [hread, hchecked]
    · have hfault : readReply url (.answer status body) =
          .error (.http status (Utf8.decodeLossy body)) := if_neg hstatus
      rw [hfault]
      exact .of_not_isSuccess hstatus

end Bodies

/-- What is taken from reports for one about a batch is one that is taken for it, and there is none
only if there is no report. -/
lemma reportOf_eq_ok_iff {batchId : String} {reports : List BatchReport} {report : BatchReport} :
    reportOf batchId reports = .ok report ↔ report.IsTakenFrom reports batchId := by
  refine ⟨BatchReport.isTakenFrom_of_reportOf, ?_⟩
  rintro (hown | ⟨hnone, hfirst⟩)
  · cases reports with
    | nil => simp at hown
    | cons first rest => rw [reportOf, hown, Option.getD_some]
  · cases reports with
    | nil => simp at hfirst
    | cons first rest =>
      have hfind : (first :: rest).find? (·.id = batchId) = none :=
        List.find?_eq_none.mpr fun other hother => by simpa using hnone other hother
      rw [reportOf, hfind, Option.getD_none, ← Option.some_inj.mp hfirst]

/-- There is nothing to take only where there is no report. -/
lemma reportOf_ne_ok_iff {batchId : String} {reports : List BatchReport} :
    (∀ report, reportOf batchId reports ≠ .ok report) ↔ reports = [] := by
  cases reports <;> simp [reportOf]

/-! ### The three requests -/

section Replies

variable (url : Url) (reply : Reply)

/-- What is made of a reply to a submission. -/
lemma submissionOf_isClassified :
    IsClassified
      (fun body => IsNoText Acknowledgement.shape.read body ∨
        ∃ answer, Json.decode Acknowledgement.shape.read body = .ok answer ∧
          ∀ batchId, ¬ AsksAbout answer.link batchId)
      (fun body submission => ∃ answer,
        Json.decode Acknowledgement.shape.read body = .ok answer ∧
          AsksAbout answer.link submission.batchId ∧ submission.link = answer.link)
      reply (submissionOf url reply) := by
  have hok (answer : Acknowledgement) (submission : Submission) :
      ((batchIdOfLink answer.link).mapError LinkError.toFault >>= fun batchId =>
          pure (Submission.mk answer.link batchId)) = .ok submission ↔
        AsksAbout answer.link submission.batchId ∧ submission.link = answer.link := by
    obtain ⟨link, batchId⟩ := submission
    rw [Except.bind_eq_ok_iff]
    simp only [Except.mapError_eq_ok_iff, batchIdOfLink_eq_ok_iff]
    constructor
    · rintro ⟨batchId, hasks, rfl, rfl⟩
      exact ⟨hasks, rfl⟩
    · rintro ⟨hasks, rfl⟩
      exact ⟨batchId, hasks, rfl⟩
  refine (isClassified_answerOf_bind ?_ url reply).congr ?_ ?_
  · intro answer e he
    cases hlink : batchIdOfLink answer.link with
    | error cause =>
      rw [hlink] at he
      exact ⟨cause.message, (Except.error.inj he).symm⟩
    | ok batchId =>
      rw [hlink] at he
      cases he
  · intro body
    refine or_congr_right (exists_congr fun answer => and_congr_right fun _ => ?_)
    constructor
    · intro hnone batchId hasks
      exact hnone ⟨answer.link, batchId⟩ ((hok answer _).mpr ⟨hasks, rfl⟩)
    · intro hnone submission hsubmission
      exact hnone _ ((hok answer submission).mp hsubmission).1
  · intro body submission
    exact exists_congr fun answer => and_congr_right fun _ => hok answer submission

/-- What is made of a reply about a batch. -/
lemma statusOf_isClassified (batchId : String) :
    IsClassified
      (fun body => IsNoText StatusAnswer.shape.read body ∨
        ∃ answer, Json.decode StatusAnswer.shape.read body = .ok answer ∧ answer.data = [])
      (fun body report => ∃ answer,
        Json.decode StatusAnswer.shape.read body = .ok answer ∧
          report.IsTakenFrom answer.data batchId)
      reply (statusOf url batchId reply) := by
  refine (isClassified_answerOf_bind ?_ url reply).congr ?_ ?_
  · intro answer e he
    cases hdata : answer.data with
    | nil =>
      rw [hdata] at he
      exact ⟨_, (Except.error.inj he).symm⟩
    | cons first rest =>
      rw [hdata] at he
      cases he
  · intro body
    exact or_congr_right (exists_congr fun answer => and_congr_right fun _ => reportOf_ne_ok_iff)
  · intro body report
    exact exists_congr fun answer => and_congr_right fun _ => reportOf_eq_ok_iff

/-- What is made of a reply about the state. -/
lemma stateOf_isClassified :
    IsClassified (IsNoText StateAnswer.shape.read)
      (fun body entries => ∃ answer,
        Json.decode StateAnswer.shape.read body = .ok answer ∧ entries = answer.data)
      reply (stateOf url reply) := by
  refine (isClassified_answerOf_bind ?_ url reply).congr ?_ ?_
  · intro answer e he
    cases he
  · intro body
    refine or_iff_left ?_
    rintro ⟨answer, -, hnone⟩
    exact hnone answer.data rfl
  · intro body entries
    refine exists_congr fun answer => and_congr_right fun _ => ?_
    exact ⟨fun h => (Except.ok.inj h).symm, fun h => congrArg Except.ok h.symm⟩

end Replies

/-- **What is made of a reply.** Each of the three calls whose request can be made sends that one
request, whatever is replied to it. The network is at fault if the answer was lost or broke off;
else the status is told if it is no success; else the gateway is at fault if the body is no text of
what was asked for, acknowledges with a link that asks about no batch, or reports about no batch;
and else what the body says is told: the batch in the link, the first report about the batch that
was asked about or the first of all if there is none, and all entries in their order. -/
theorem replies_classified (api : RestApi) {net : Network} (hup : net.isUp = true) :
    (∀ url list, api.endpoint batchesPath [] = .ok url → isSendable url = true →
      let t := (api.submit Network.carrier list).run net
      t.world = net.after [⟨.post, url, some batchesType, list.encode⟩] ∧
      IsClassified
        (fun body => IsNoText Acknowledgement.shape.read body ∨
          ∃ answer, Json.decode Acknowledgement.shape.read body = .ok answer ∧
            ∀ batchId, ¬ AsksAbout answer.link batchId)
        (fun body submission => ∃ answer,
          Json.decode Acknowledgement.shape.read body = .ok answer ∧
            AsksAbout answer.link submission.batchId ∧ submission.link = answer.link)
        (net.reply 0) t.value) ∧
    (∀ url batchId (waitSecs : UInt64),
      api.endpoint statusesPath [("id", batchId), ("wait", toString waitSecs.toNat)] = .ok url →
      isSendable url = true →
      let t := (api.status Network.carrier batchId waitSecs).run net
      t.world = net.after [question url] ∧
      IsClassified
        (fun body => IsNoText StatusAnswer.shape.read body ∨
          ∃ answer, Json.decode StatusAnswer.shape.read body = .ok answer ∧ answer.data = [])
        (fun body report => ∃ answer,
          Json.decode StatusAnswer.shape.read body = .ok answer ∧
            report.IsTakenFrom answer.data batchId)
        (net.reply 0) t.value) ∧
    (∀ url address, api.endpoint statePath [("address", address)] = .ok url →
      isSendable url = true →
      let t := (api.fetch Network.carrier address).run net
      t.world = net.after [question url] ∧
      IsClassified (IsNoText StateAnswer.shape.read)
        (fun body entries => ∃ answer,
          Json.decode StateAnswer.shape.read body = .ok answer ∧ entries = answer.data)
        (net.reply 0) t.value) := by
  refine ⟨?_, ?_, ?_⟩
  · intro url list hurl hsend
    obtain ⟨plain, hplain, rfl⟩ := exists_of_endpoint hurl
    obtain ⟨hvalue, hworld⟩ := submit_isOneRequest list hplain hsend net hup
    refine ⟨hworld, ?_⟩
    rw [hvalue]
    exact submissionOf_isClassified _ (net.reply 0)
  · intro url batchId waitSecs hurl hsend
    obtain ⟨plain, hplain, rfl⟩ := exists_of_endpoint hurl
    rw [isSendable_withPairs] at hsend
    obtain ⟨hvalue, hworld⟩ := status_isOneRequest batchId waitSecs hplain hsend net hup
    refine ⟨hworld, ?_⟩
    rw [hvalue]
    exact statusOf_isClassified _ (net.reply 0) batchId
  · intro url address hurl hsend
    obtain ⟨plain, hplain, rfl⟩ := exists_of_endpoint hurl
    rw [isSendable_withPairs] at hsend
    obtain ⟨hvalue, hworld⟩ := fetch_isOneRequest address hplain hsend net hup
    refine ⟨hworld, ?_⟩
    rw [hvalue]
    exact stateOf_isClassified _ (net.reply 0)

/-- The answer of the server close by breaks off when it is asked about the batch `ab`, and it is
asked once; and the first of two pages is told as the entry on it. -/
theorem replies_classified_nearby :
    let api := RestApi.mk nearby.baseUrl
    let t := (api.status Network.carrier "ab" nearby.batchWaitSecs).run
      (.scripted [.truncated, .dropped] .dropped)
    t.world.requests = [nearbyEndpoints.ask "ab"] ∧
      (∃ reason, t.value = .error (.transport reason)) ∧
      ((api.fetch Network.carrier Address.gamePrefix).run (.scripted [firstPage] .dropped)).value =
        .ok [openEntry] := by
  intro api t
  obtain ⟨-, hstatus, -⟩ := replies_classified api
    (rfl : (Network.scripted [.truncated, .dropped] .dropped).isUp = true)
  obtain ⟨-, -, hfetch⟩ := replies_classified api
    (rfl : (Network.scripted [firstPage] .dropped).isUp = true)
  obtain ⟨hworld, hlost⟩ := hstatus _ "ab" nearby.batchWaitSecs
    (endpoint_of_parse nearbyEndpoints.parse_statuses _) (by decide +kernel)
  obtain ⟨-, hpage⟩ := hfetch _ Address.gamePrefix
    (endpoint_of_parse parse_nearbyState _) (by decide +kernel)
  refine ⟨congrArg Network.requests hworld, hlost.transport_iff.mpr (.inr rfl), ?_⟩
  obtain ⟨answer, hanswer, hdata, -⟩ := exists_answer_firstPage
  obtain ⟨body, hbody, hread⟩ := Except.bind_eq_ok_iff.mp hanswer
  obtain rfl := Except.ok.inj hbody
  exact (hpage.ok_iff _).mpr
    ⟨_, _, rfl, by decide, answer, Except.mapError_eq_ok_iff.mp hread, hdata.symm⟩

end RestApi

end XoLedger

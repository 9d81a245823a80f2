import Mathlib.Tactic.Lemma
import XoLedger.Gateway.Rest
import XoLedger.Proofs.Gateway.Retry
import XoLedger.Proofs.Outcome
import XoLedger.Proofs.Text.Blank
import XoLedger.Proofs.Url.Form

/-!
# One call, one request

Each call to a gateway behind a REST interface sends one request and makes something of the one
reply to it. So a call that is made again and again sends the same request as often as it is made,
and its results are readings of the replies in their order, whatever the server replies.
-/

namespace XoLedger

/-! ### Networks that answer -/

namespace Network

/-- The reply to the request that is sent after `n` others. -/
def reply (net : Network) (n : Nat) : Reply :=
  net.replies.getD n net.fallback

/-- A network after requests have been sent, each of which was replied to. -/
def after (net : Network) (sent : List Request) : Network :=
  { net with replies := net.replies.drop sent.length, requests := net.requests ++ sent }

@[simp] lemma requests_after (net : Network) (sent : List Request) :
    (net.after sent).requests = net.requests ++ sent := rfl

lemma reply_after (net : Network) (sent : List Request) (n : Nat) :
    (net.after sent).reply n = net.reply (sent.length + n) := by
  rw [reply, after, reply, List.getD_eq_getElem?_getD, List.getElem?_drop,
    ← List.getD_eq_getElem?_getD]

lemma after_nil (net : Network) : net.after [] = net := by
  rw [after, List.append_nil]
  rfl

lemma after_after (net : Network) (sent sent' : List Request) :
    (net.after sent).after sent' = net.after (sent ++ sent') := by
  rw [after, after, after, List.drop_drop, List.append_assoc, List.length_append]

/-- A request that leaves the machine is replied to. -/
lemma send_of_isUp {net : Network} (h : net.isUp = true) (request : Request) :
    send request net = (net.reply 0, net.after [request]) := by
  obtain ⟨isUp, replies, fallback, requests⟩ := net
  rw [send, if_pos h]
  cases replies with
  | nil => rfl
  | cons reply rest => rfl

end Network

namespace RestApi

/-! ### Servers and their URLs -/

/-- Slashes at the end of a URL are gone for good. -/
lemma withoutSlashes_withoutSlashes (url : String) :
    withoutSlashes (withoutSlashes url) = withoutSlashes url := by
  rw [withoutSlashes, withoutSlashes, String.toList_ofList, dropEndWhile_dropEndWhile]

/-- A text stands for a server when it is a URL with a scheme for the web. The slashes at its end
are left out. -/
lemma ofUrl_eq_ok_iff {url : String} {api : RestApi} :
    ofUrl url = .ok api ↔
      api = ⟨withoutSlashes url⟩ ∧
        ∃ parsed, Url.parse url = .ok parsed ∧ hasWebScheme parsed = true := by
  unfold ofUrl
  cases hparse : Url.parse url with
  | error cause => simp
  | ok parsed =>
    simp only [Except.ok.injEq, exists_eq_left']
    split
    · rename_i hweb
      simp [hweb, eq_comm]
    · rename_i hweb
      simp [hweb]

/-! ### Endpoints -/

/-- Pairs in the query do not matter for whether a request can be made. -/
lemma isSendable_withPairs (url : Url) (pairs : List (String × String)) :
    isSendable (url.withPairs pairs) = isSendable url := by
  rw [isSendable, Url.authority_withPairs, isSendable]

/-- The URL of an endpoint is built from a text that can be read. -/
lemma exists_of_endpoint {api : RestApi} {path : String} {pairs : List (String × String)}
    {url : Url} (h : api.endpoint path pairs = .ok url) :
    ∃ plain, Url.parse (api.baseUrl ++ "/" ++ path) = .ok plain ∧ url = plain.withPairs pairs := by
  unfold endpoint at h
  cases hparse : Url.parse (api.baseUrl ++ "/" ++ path) with
  | error cause => simp [hparse] at h
  | ok plain =>
    simp only [hparse] at h
    exact ⟨plain, rfl, (Except.ok.inj h).symm⟩

/-- The URL of an endpoint can be built if the text for it can be read. -/
lemma endpoint_of_parse {api : RestApi} {path : String} {plain : Url}
    (h : Url.parse (api.baseUrl ++ "/" ++ path) = .ok plain) (pairs : List (String × String)) :
    api.endpoint path pairs = .ok (plain.withPairs pairs) := by
  rw [endpoint, h]

/-! ### Calls that are one request -/

section OneRequest

variable {α : Type}

/-- A call sends a request and reads the reply to it. -/
def IsOneRequest (call : Course Network α) (request : Request)
    (read : Reply → Except Fault α) : Prop :=
  ∀ net : Network, net.isUp = true →
    (call.run net).value = read (net.reply 0) ∧ (call.run net).world = net.after [request]

variable {call : Course Network α} {request : Request} {read : Reply → Except Fault α}

/-- Every time such a call is made, the request is sent once more. -/
lemma IsOneRequest.worldAfter (h : IsOneRequest call request read) {net : Network}
    (hup : net.isUp = true) (n : Nat) :
    Course.worldAfter call net n = net.after (List.replicate n request) := by
  induction n with
  | zero => exact net.after_nil.symm
  | succ n ih =>
    rw [Course.worldAfter, ih, (h (net.after _) hup).2, Network.after_after, List.replicate_succ']

/-- Every time such a call is made, the next reply is read. -/
lemma IsOneRequest.valueAfter (h : IsOneRequest call request read) {net : Network}
    (hup : net.isUp = true) (n : Nat) :
    Course.valueAfter call net n = read (net.reply n) := by
  rw [Course.valueAfter, h.worldAfter hup, (h (net.after _) hup).1, Network.reply_after,
    List.length_replicate, Nat.add_zero]

/-- Such a call, repeated, sends the request as often as it is made, and makes of the last reply
what there is to make of it. -/
lemma IsOneRequest.of_isRepeated (h : IsOneRequest call request read) {net : Network}
    (hup : net.isUp = true) {again : Except Fault α → Prop} {most n : Nat}
    {t : Trace Network (Except Fault α)}
    (hn : RetryPolicy.IsRepeated again call net most n t) :
    RetryPolicy.StopsAt again (fun i => read (net.reply i)) most n ∧
      t.value = read (net.reply n) ∧ t.world = net.after (List.replicate (n + 1) request) := by
  have hresults : Course.valueAfter call net = fun i => read (net.reply i) :=
    funext (h.valueAfter hup)
  refine ⟨?_, ?_, ?_⟩
  · rw [← hresults]
    exact hn.stopsAt
  · rw [hn.value, hresults]
  · rw [hn.world, h.worldAfter hup]

/-- What is made of the value afterwards sends nothing. -/
lemma IsOneRequest.bind {β : Type} (h : IsOneRequest call request read) {f : α → Course Network β}
    {g : α → Except Fault β} (hf : ∀ a, Course.Tells (f a) (g a)) :
    IsOneRequest (call >>= f) request (fun reply => read reply >>= g) := by
  intro net hup
  obtain ⟨hvalue, hworld⟩ := Course.Tells.bind_run hf call net
  rw [hvalue, hworld, (h net hup).1, (h net hup).2]
  exact ⟨rfl, rfl⟩

/-- A line that is noted beforehand sends nothing. -/
lemma IsOneRequest.of_note {level : Log.Level} {message : String}
    (h : IsOneRequest call request read) :
    IsOneRequest (Course.note level message >>= fun _ => call) request read := by
  intro net hup
  rw [(Course.note_bind_run level message _ net).1, (Course.note_bind_run level message _ net).2]
  exact h net hup

/-- What is carried to the server is one request. -/
lemma carrier_isOneRequest (request : Request) :
    IsOneRequest (liftM (Network.carrier request)) request .ok := by
  intro net hup
  rw [Course.lift_run_apply, Network.carrier, Act.change, Network.send_of_isUp hup]
  exact ⟨rfl, rfl⟩

end OneRequest

/-! ### What replies say -/

/-- What a reply to a request for `url` says, if it says something. -/
def answerOf {α : Type} (read : Json.Decoder α) (url : Url) (reply : Reply) : Except Fault α := do
  let body ← readReply url reply
  (Json.decode read body).mapError fun e => .malformedResponse e.message

/-- What a reply to a submission says. -/
def submissionOf (url : Url) (reply : Reply) : Except Fault Submission := do
  let answer ← answerOf Acknowledgement.shape.read url reply
  let batchId ← (batchIdOfLink answer.link).mapError LinkError.toFault
  return ⟨answer.link, batchId⟩

/-- What a reply to a question about a batch says. -/
def statusOf (url : Url) (batchId : String) (reply : Reply) : Except Fault BatchReport := do
  let answer ← answerOf StatusAnswer.shape.read url reply
  reportOf batchId answer.data

/-- What a reply to a question about the state says. -/
def stateOf (url : Url) (reply : Reply) : Except Fault (List StateEntry) := do
  let answer ← answerOf StateAnswer.shape.read url reply
  return answer.data

/-- An exchange is one request, if the request can be made. -/
lemma exchange_isOneRequest {α : Type} (read : Json.Decoder α) {request : Request}
    (h : isSendable request.url = true) :
    IsOneRequest (exchange Network.carrier read request) request
      (answerOf read request.url) := by
  rw [exchange, if_pos h]
  refine (carrier_isOneRequest request).bind fun reply => ?_
  exact (Course.Tells.ofExcept_id _).bind fun body => Course.Tells.ofExcept _ _

/-- A submission is one request. -/
lemma submit_isOneRequest {api : RestApi} {url : Url} (list : BatchList)
    (hurl : Url.parse (api.baseUrl ++ "/" ++ batchesPath) = .ok url)
    (hsend : isSendable url = true) :
    IsOneRequest (api.submit Network.carrier list)
      ⟨.post, url, some batchesType, list.encode⟩ (submissionOf url) := by
  have hendpoint : api.endpoint batchesPath [] = .ok url := endpoint_of_parse hurl []
  rw [submit, hendpoint, Course.ofExcept, pure_bind]
  refine IsOneRequest.of_note ((exchange_isOneRequest _ hsend).bind fun answer => ?_)
  exact (Course.Tells.ofExcept _ _).bind fun batchId => Course.Tells.pure _

/-- A question about a batch is one request. -/
lemma status_isOneRequest {api : RestApi} {url : Url} (batchId : String) (waitSecs : UInt64)
    (hurl : Url.parse (api.baseUrl ++ "/" ++ statusesPath) = .ok url)
    (hsend : isSendable url = true) :
    IsOneRequest (api.status Network.carrier batchId waitSecs)
      (question (url.withPairs [("id", batchId), ("wait", toString waitSecs.toNat)]))
      (statusOf (url.withPairs [("id", batchId), ("wait", toString waitSecs.toNat)]) batchId) := by
  rw [status, endpoint_of_parse hurl, Course.ofExcept, pure_bind]
  refine IsOneRequest.of_note ((exchange_isOneRequest _ hsend).bind fun answer => ?_)
  exact Course.Tells.ofExcept_id _

/-- A question about the state is one request. -/
lemma fetch_isOneRequest {api : RestApi} {url : Url} (address : String)
    (hurl : Url.parse (api.baseUrl ++ "/" ++ statePath) = .ok url)
    (hsend : isSendable url = true) :
    IsOneRequest (api.fetch Network.carrier address)
      (question (url.withPairs [("address", address)]))
      (stateOf (url.withPairs [("address", address)])) := by
  rw [fetch, endpoint_of_parse hurl, Course.ofExcept, pure_bind]
  refine IsOneRequest.of_note ((exchange_isOneRequest _ hsend).bind fun answer => ?_)
  exact Course.Tells.pure _

end RestApi

end XoLedger

import Mathlib.Tactic.Lemma
import Mathlib.Tactic.SplitIfs
import XoLedger.Gateway.Memory
import XoLedger.Proofs.Gateway.Calls

/-!
# A ledger in memory keeps account

A ledger in memory is given answers to come, is told to fail, and is called: directly or by a
gateway that tries again, which may call it more than once. Everything that happens to it is written
down as a step, with the ledger before and after. `Transition` says what one step may do. From it
follows, by induction over the steps, what the ledger's own records come to (`Account`): no answer
is given twice or left out, and the records hold exactly the calls that were made, or that
succeeded.
-/

namespace XoLedger

namespace MemoryLedger

/-! ### Steps -/

/-- Something that happens to a ledger, with what comes of it. -/
inductive Deed where
  /-- An answer is added to those to come. -/
  | pushed (status : BatchStatus) (invalid : List InvalidTransaction)
  /-- Some calls are to fail. -/
  | toldToFail (count : Nat)
  /-- Batches are submitted. -/
  | submitted (list : BatchList) (result : Except Fault Submission)
  /-- Somebody asks about a batch. -/
  | asked (batchId : String) (waitSecs : UInt64) (result : Except Fault BatchReport)
  /-- Somebody asks for the entries at an address. -/
  | fetched (address : String) (result : Except Fault (List StateEntry))

namespace Deed

/-- The call that reached the ledger, if one did. -/
def call? : Deed → Option Call
  | submitted list _ => some (.submit list)
  | asked batchId waitSecs _ => some (.status batchId waitSecs)
  | fetched address _ => some (.fetch address)
  | pushed _ _ | toldToFail _ => none

/-- Whether a call has failed. -/
def isFailure : Deed → Bool
  | submitted _ (.error _) | asked _ _ (.error _) | fetched _ (.error _) => true
  | _ => false

/-- The answer that is added to those to come. -/
def pushed? : Deed → Option (BatchStatus × List InvalidTransaction)
  | pushed status invalid => some (status, invalid)
  | _ => none

/-- The answer that is given about a batch. -/
def told? : Deed → Option (BatchStatus × List InvalidTransaction)
  | asked _ _ (.ok report) => some (report.status, report.invalidTransactions)
  | _ => none

/-- The submission that is taken. -/
def taken? : Deed → Option BatchList
  | submitted list (.ok _) => some list
  | _ => none

/-- The question about a batch, answered or not. -/
def asked? : Deed → Option (String × UInt64)
  | asked batchId waitSecs _ => some (batchId, waitSecs)
  | _ => none

/-- The address that is asked for, with or without an answer. -/
def address? : Deed → Option String
  | fetched address _ => some address
  | _ => none

end Deed

/-- Something that happened to a ledger. -/
structure Step where
  /-- The ledger before. -/
  before : MemoryLedger
  /-- What happened. -/
  deed : Deed
  /-- The ledger afterwards. -/
  after : MemoryLedger

namespace Step

/-- The answers that were added to those to come, in order. -/
def pushed (steps : List Step) : List (BatchStatus × List InvalidTransaction) :=
  steps.filterMap fun step => step.deed.pushed?

/-- The answers that were given about batches while there were answers to come, in order. -/
def handedOut (steps : List Step) : List (BatchStatus × List InvalidTransaction) :=
  (steps.filter fun step => !step.before.statuses.isEmpty).filterMap fun step => step.deed.told?

/-- The submissions that were taken, in order. -/
def taken (steps : List Step) : List BatchList :=
  steps.filterMap fun step => step.deed.taken?

/-- The questions about batches, in order. -/
def asked (steps : List Step) : List (String × UInt64) :=
  steps.filterMap fun step => step.deed.asked?

/-- The addresses that were asked for, in order. -/
def addresses (steps : List Step) : List String :=
  steps.filterMap fun step => step.deed.address?

variable (past later : List Step)

@[simp] lemma pushed_append : pushed (past ++ later) = pushed past ++ pushed later :=
  List.filterMap_append

@[simp] lemma handedOut_append : handedOut (past ++ later) = handedOut past ++ handedOut later := by
  simp only [handedOut, List.filter_append, List.filterMap_append]

@[simp] lemma taken_append : taken (past ++ later) = taken past ++ taken later :=
  List.filterMap_append

@[simp] lemma asked_append : asked (past ++ later) = asked past ++ asked later :=
  List.filterMap_append

@[simp] lemma addresses_append : addresses (past ++ later) = addresses past ++ addresses later :=
  List.filterMap_append

end Step

/-- What one step may do. -/
inductive Transition (l : MemoryLedger) : Deed → MemoryLedger → Prop where
  /-- The answers to come are one more. -/
  | pushed (status : BatchStatus) (invalid : List InvalidTransaction) :
      Transition l (.pushed status invalid) { l with statuses := l.statuses ++ [(status, invalid)] }
  /-- The next calls fail, as many as are given. -/
  | toldToFail (count : Nat) : Transition l (.toldToFail count) { l with failures := count }
  /-- A submission fails and leaves no trace. -/
  | submissionFailed {list : BatchList} (failing : 0 < l.failures) :
      Transition l (.submitted list (.error refusal)) { l with failures := l.failures - 1 }
  /-- A submission is taken. -/
  | submissionTaken {list : BatchList} {submission : Submission} (working : l.failures = 0) :
      Transition l (.submitted list (.ok submission)) { l with submitted := l.submitted ++ [list] }
  /-- A question about a batch is put down and fails. -/
  | questionFailed {batchId : String} {waitSecs : UInt64} (failing : 0 < l.failures) :
      Transition l (.asked batchId waitSecs (.error refusal))
        { l with
          statusCalls := l.statusCalls ++ [(batchId, waitSecs)]
          failures := l.failures - 1 }
  /-- A question about a batch is put down and gets the first of the answers to come. -/
  | nextTold {batchId : String} {waitSecs : UInt64} {status : BatchStatus}
      {invalid : List InvalidTransaction} {rest : List (BatchStatus × List InvalidTransaction)}
      (working : l.failures = 0) (next : l.statuses = (status, invalid) :: rest) :
      Transition l (.asked batchId waitSecs (.ok ⟨batchId, status, invalid⟩))
        { l with statusCalls := l.statusCalls ++ [(batchId, waitSecs)], statuses := rest }
  /-- There are no answers to come, and the batch has taken effect. -/
  | committedTold {batchId : String} {waitSecs : UInt64} (working : l.failures = 0)
      (none_left : l.statuses = []) :
      Transition l (.asked batchId waitSecs (.ok ⟨batchId, .committed, []⟩))
        { l with statusCalls := l.statusCalls ++ [(batchId, waitSecs)] }
  /-- A question about an address is put down and fails. -/
  | fetchFailed {address : String} (failing : 0 < l.failures) :
      Transition l (.fetched address (.error refusal))
        { l with stateCalls := l.stateCalls ++ [address], failures := l.failures - 1 }
  /-- A question about an address is put down and answered. -/
  | fetched {address : String} {entries : List StateEntry} (working : l.failures = 0) :
      Transition l (.fetched address (.ok entries))
        { l with stateCalls := l.stateCalls ++ [address] }

/-! ### What each call does -/

lemma submit_transition (list : BatchList) (l : MemoryLedger) :
    Transition l (.submitted list (submit list l).1) (submit list l).2 := by
  rw [submit, unlessFailing]
  split_ifs with hfailing
  · exact .submissionFailed hfailing
  · exact .submissionTaken (Nat.eq_zero_of_not_pos hfailing)

lemma status_transition (batchId : String) (waitSecs : UInt64) (l : MemoryLedger) :
    Transition l (.asked batchId waitSecs (status batchId waitSecs l).1)
      (status batchId waitSecs l).2 := by
  obtain ⟨entries, submitted, statuses, statusCalls, stateCalls, failures⟩ := l
  rw [status, unlessFailing]
  split_ifs with hfailing
  · exact .questionFailed hfailing
  · have hworking : failures = 0 := Nat.eq_zero_of_not_pos hfailing
    cases statuses with
    | nil => exact .committedTold hworking rfl
    | cons answer rest => exact .nextTold hworking rfl

lemma fetch_transition (address : String) (l : MemoryLedger) :
    Transition l (.fetched address (fetch address l).1) (fetch address l).2 := by
  rw [fetch, unlessFailing]
  split_ifs with hfailing
  · exact .fetchFailed hfailing
  · exact .fetched (Nat.eq_zero_of_not_pos hfailing)

/-! ### Steps in a row -/

/-- Steps that lead from one ledger to another. -/
inductive Path : MemoryLedger → List Step → MemoryLedger → Prop where
  /-- Nothing happens. -/
  | nil (l : MemoryLedger) : Path l [] l
  /-- Something happens, and then everything else. -/
  | cons {step : Step} {steps : List Step} {l : MemoryLedger}
      (first : Transition step.before step.deed step.after) (others : Path step.after steps l) :
      Path step.before (step :: steps) l

lemma Transition.path {l l' : MemoryLedger} {deed : Deed} (h : Transition l deed l') :
    Path l [⟨l, deed, l'⟩] l' :=
  @Path.cons ⟨l, deed, l'⟩ [] l' h (.nil l')

namespace Path

variable {l m l' : MemoryLedger} {step : Step} {past later : List Step}

lemma append (h : Path l past m) (h' : Path m later l') : Path l (past ++ later) l' := by
  induction h with
  | nil => exact h'
  | cons first others ih => exact .cons first (ih h')

/-- Every step of a path is one that may be, and the steps so far lead to it. -/
lemma exists_of_append (h : Path l (past ++ step :: later) l') :
    Path l past step.before ∧ Transition step.before step.deed step.after := by
  induction past generalizing l with
  | nil =>
    cases h with
    | cons first others => exact ⟨.nil _, first⟩
  | cons earlier past ih =>
    cases h with
    | cons first others =>
      obtain ⟨hpath, hstep⟩ := ih others
      exact ⟨.cons first hpath, hstep⟩

end Path

/-! ### The records -/

/-- What the records of a ledger come to, over some steps. -/
structure Account (l : MemoryLedger) (steps : List Step) (l' : MemoryLedger) : Prop where
  /-- The answers that were to come and those that were added are, in this order, the ones that
  were handed out and those that are still to come. -/
  statuses : l.statuses ++ Step.pushed steps = Step.handedOut steps ++ l'.statuses
  /-- The submissions that were taken are the ones on record. -/
  submitted : l'.submitted = l.submitted ++ Step.taken steps
  /-- So are all questions about batches, whether or not they failed. -/
  statusCalls : l'.statusCalls = l.statusCalls ++ Step.asked steps
  /-- And so are all questions about addresses. -/
  stateCalls : l'.stateCalls = l.stateCalls ++ Step.addresses steps
  /-- What is stored stays. -/
  entries : l'.entries = l.entries

namespace Account

variable {l m l' : MemoryLedger} {past later : List Step}

lemma nil (l : MemoryLedger) : Account l [] l where
  statuses := List.append_nil _
  submitted := (List.append_nil _).symm
  statusCalls := (List.append_nil _).symm
  stateCalls := (List.append_nil _).symm
  entries := rfl

lemma append (h : Account l past m) (h' : Account m later l') :
    Account l (past ++ later) l' where
  statuses := by
    rw [Step.pushed_append, Step.handedOut_append, ← List.append_assoc, h.statuses,
      List.append_assoc, h'.statuses, List.append_assoc]
  submitted := by rw [h'.submitted, h.submitted, Step.taken_append, List.append_assoc]
  statusCalls := by rw [h'.statusCalls, h.statusCalls, Step.asked_append, List.append_assoc]
  stateCalls := by rw [h'.stateCalls, h.stateCalls, Step.addresses_append, List.append_assoc]
  entries := h'.entries.trans h.entries

end Account

/-- An answer that is given is one of those to come only if there are any. -/
lemma Step.handedOut_single (l l' : MemoryLedger) (deed : Deed) :
    Step.handedOut [⟨l, deed, l'⟩] = if l.statuses = [] then [] else deed.told?.toList := by
  cases hstatuses : l.statuses with
  | nil => simp [Step.handedOut, hstatuses]
  | cons answer rest => cases htold : deed.told? <;> simp [Step.handedOut, hstatuses, htold]

/-- One step is accounted for. -/
lemma Transition.account {l l' : MemoryLedger} {deed : Deed} (h : Transition l deed l') :
    Account l [⟨l, deed, l'⟩] l' := by
  have hrecords : l'.submitted = l.submitted ++ deed.taken?.toList ∧
      l'.statusCalls = l.statusCalls ++ deed.asked?.toList ∧
      l'.stateCalls = l.stateCalls ++ deed.address?.toList ∧ l'.entries = l.entries := by
    cases h <;> simp [Deed.taken?, Deed.asked?, Deed.address?]
  have hstatuses : l.statuses ++ deed.pushed?.toList =
      (if l.statuses = [] then [] else deed.told?.toList) ++ l'.statuses := by
    cases h with
    | pushed | toldToFail | submissionFailed | submissionTaken | questionFailed | fetchFailed
    | fetched => simp [Deed.pushed?, Deed.told?]
    | nextTold working next => simp [Deed.pushed?, Deed.told?, next]
    | committedTold working none_left => simp [Deed.pushed?, none_left]
  obtain ⟨hsubmitted, hstatusCalls, hstateCalls, hentries⟩ := hrecords
  refine ⟨?_, hsubmitted, hstatusCalls, hstateCalls, hentries⟩
  rw [Step.handedOut_single]
  exact hstatuses

/-- The steps of a path are accounted for. -/
theorem Path.account {l l' : MemoryLedger} {steps : List Step} (h : Path l steps l') :
    Account l steps l' := by
  induction h with
  | nil l => exact .nil l
  | cons first others ih => exact first.account.append ih

/-! ### Failures and answers -/

namespace Transition

variable {l l' : MemoryLedger} {deed : Deed}

/-- A call fails exactly if calls are to fail, one of which it is then, and leaves everything but
the questions on record as it was. -/
lemma failures_of_call (h : Transition l deed l') {call : Call} (hcall : deed.call? = some call) :
    (deed.isFailure = true ↔ 0 < l.failures) ∧ l'.failures = l.failures - 1 ∧
      (deed.isFailure = true →
        l'.statuses = l.statuses ∧ l'.submitted = l.submitted ∧ l'.entries = l.entries) := by
  cases h with
  | pushed | toldToFail => cases hcall
  | submissionFailed failing | questionFailed failing | fetchFailed failing =>
    exact ⟨iff_of_true rfl failing, rfl, fun _ => ⟨rfl, rfl, rfl⟩⟩
  | submissionTaken working | nextTold working | committedTold working | fetched working =>
    refine ⟨iff_of_false Bool.false_ne_true ?_, ?_,
      fun hfailure => absurd hfailure Bool.false_ne_true⟩
    · rw [working]
      exact Nat.lt_irrefl 0
    · simp only [working]

/-- A question about a batch that is answered gets the first of the answers to come, or that the
batch has taken effect if there are none. -/
lemma told?_eq (h : Transition l deed l') {answer : BatchStatus × List InvalidTransaction}
    (htold : deed.told? = some answer) :
    answer = l.statuses.headD (.committed, []) ∧ l'.statuses = l.statuses.tail := by
  cases h with
  | pushed | toldToFail | submissionFailed | submissionTaken | questionFailed | fetchFailed
  | fetched => cases htold
  | nextTold working next =>
    cases htold
    rw [next]
    exact ⟨rfl, rfl⟩
  | committedTold working none_left =>
    cases htold
    rw [none_left]
    exact ⟨rfl, rfl⟩

end Transition

end MemoryLedger

end XoLedger

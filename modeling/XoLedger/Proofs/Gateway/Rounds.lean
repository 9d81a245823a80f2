import XoLedger.Proofs.Gateway.Account

/-!
# Commands to a ledger in memory

A command to a ledger in memory may be a call by a gateway that tries again, so that several things
happen to the ledger before there is an answer. To see them all, the ledger's own gateway is
replaced by one that writes every call down before anybody can make it again (`witnessedGateway`).
The retrying gateway over it is the same as ever, and answers the same (`IsWitness`). What was
written down is a path of steps, so `calls_are_accounted` has the account of all commands, in
whatever order they came.
-/

namespace XoLedger

/-- The gateway that tries again if there is a policy for that. -/
def Gateway.through {σ : Type} (g : Gateway σ) : Option RetryPolicy → Gateway σ
  | none => g
  | some policy => g.retrying policy

namespace MemoryLedger

/-! ### Calls that are witnessed -/

/-- Does something with a ledger and writes down what came of it. -/
def witnessed {α : Type} (deed : α → Deed) (x : Act MemoryLedger α) :
    Act (MemoryLedger × List Step) α := fun s =>
  let t := Act.within Prod.fst (fun l s => (l, s.2)) x s
  { t with world := (t.world.1, t.world.2 ++ [⟨s.1, deed t.value, t.world.1⟩]) }

/-- The ledger as a gateway, with all that happens to it written down. -/
def witnessedGateway : Gateway (MemoryLedger × List Step) where
  submit list := ExceptT.mk (witnessed (.submitted list) (gateway.submit list).run)
  status batchId waitSecs :=
    ExceptT.mk (witnessed (.asked batchId waitSecs) (gateway.status batchId waitSecs).run)
  fetch address := ExceptT.mk (witnessed (.fetched address) (gateway.fetch address).run)

/-! ### Commands -/

/-- What can be done to a ledger. -/
inductive Command where
  /-- Add an answer to those to come. -/
  | pushStatus (status : BatchStatus) (invalid : List InvalidTransaction)
  /-- Make the next calls fail, as many as are given. -/
  | failNext (count : Nat)
  /-- Make a call, by a gateway that tries again if there is a policy for that. -/
  | call (policy : Option RetryPolicy) (call : Call)

namespace Command

/-- The greatest number of things that happen to a ledger on a command. -/
def most : Command → Nat
  | pushStatus _ _ | failNext _ | call none _ => 1
  | call (some policy) _ => policy.attempts

/-- What may happen to a ledger on a command: the command itself, with any result. -/
def Covers : Command → Deed → Prop
  | pushStatus status invalid, deed => deed = .pushed status invalid
  | failNext count, deed => deed = .toldToFail count
  | call _ c, deed => deed.call? = some c

end Command

/-- Makes a call, and tells with it what came of it. -/
def make {σ : Type} (g : Gateway σ) : Call → Act σ Deed
  | .submit list => Deed.submitted list <$> (g.submit list).run
  | .status batchId waitSecs => Deed.asked batchId waitSecs <$> (g.status batchId waitSecs).run
  | .fetch address => Deed.fetched address <$> (g.fetch address).run

/-- Does what it is told. -/
def obey : Command → Act MemoryLedger Deed
  | .pushStatus status invalid =>
    Act.change fun l => (.pushed status invalid, l.pushStatus status invalid)
  | .failNext count => Act.change fun l => (.toldToFail count, l.failNext count)
  | .call policy call => make (gateway.through policy) call

/-- Does what it is told, with all that happens to the ledger written down. -/
def obeyWitnessed : Command → Act (MemoryLedger × List Step) Deed
  | .pushStatus status invalid => witnessed id (obey (.pushStatus status invalid))
  | .failNext count => witnessed id (obey (.failNext count))
  | .call policy call => make (witnessedGateway.through policy) call

/-- What became of a command. -/
structure Round where
  /-- The command. -/
  command : Command
  /-- What came back. -/
  answer : Deed
  /-- What happened to the ledger meanwhile. -/
  steps : List Step

/-- Steps that are made for an answer. -/
structure Made (covers : Deed → Prop) (answer : Deed) (most : Nat) (steps : List Step) : Prop where
  /-- They are all of one kind. -/
  covers : ∀ step ∈ steps, covers step.deed
  /-- The answer is what happened last. -/
  last : steps.getLast?.map Step.deed = some answer
  /-- There are not more of them than there may be. -/
  length_le : steps.length ≤ most

/-- A round is about its command and nothing else, and the answer is that of its last step. -/
def Round.IsComplete (round : Round) : Prop :=
  Made round.command.Covers round.answer round.command.most round.steps

/-- Does one thing after the other, with all that happens to the ledger written down. -/
def rounds (l : MemoryLedger) : List Command → List Round
  | [] => []
  | command :: commands =>
    let t := obeyWitnessed command (l, [])
    ⟨command, t.value, t.world.2⟩ :: rounds t.world.1 commands

/-! ### Witnesses -/

/-- The steps of two tries are those of one that takes both. -/
lemma Made.append {covers : Deed → Prop} {first answer : Deed} {most : Nat}
    {steps later : List Step} (h : Made covers first 1 steps) (h' : Made covers answer most later) :
    Made covers answer (most + 1) (steps ++ later) where
  covers := by
    rw [List.forall_mem_append]
    exact ⟨h.covers, h'.covers⟩
  last := by
    obtain ⟨step, hstep, hdeed⟩ := Option.map_eq_some_iff.mp h'.last
    rw [List.getLast?_append, hstep, Option.some_or, Option.map_some, hdeed]
  length_le := by
    rw [List.length_append, Nat.add_comm]
    exact Nat.add_le_add h'.length_le h.length_le

section Witness

variable {α : Type} {covers : Deed → Prop} {deed : α → Deed} {most : Nat}

/-- An act is another one, with all that happens to the ledger written down. -/
def IsWitness (covers : Deed → Prop) (deed : α → Deed) (most : Nat)
    (x' : Act (MemoryLedger × List Step) α) (x : Act MemoryLedger α) : Prop :=
  ∀ l past, ∃ steps, Path l steps (x l).world ∧ Made covers (deed (x l).value) most steps ∧
    (x' (l, past)).value = (x l).value ∧ (x' (l, past)).world = ((x l).world, past ++ steps)

/-- What happens in one step is written down as it happened. -/
lemma isWitness_witnessed {x : Act MemoryLedger α} (hcovers : ∀ l, covers (deed (x l).value))
    (h : ∀ l, Transition l (deed (x l).value) (x l).world) :
    IsWitness covers deed 1 (witnessed deed x) x := by
  intro l past
  refine ⟨_, (h l).path, ⟨?_, rfl, Nat.le_refl 1⟩, rfl, rfl⟩
  rw [List.forall_mem_singleton]
  exact hcovers l

/-- So is what is made of the value afterwards. -/
lemma IsWitness.map {x' : Act (MemoryLedger × List Step) α} {x : Act MemoryLedger α}
    (h : IsWitness covers deed most x' x) :
    IsWitness covers id most (deed <$> x') (deed <$> x) := by
  intro l past
  obtain ⟨steps, hpath, hmade, hvalue, hworld⟩ := h l past
  exact ⟨steps, hpath, hmade, congrArg deed hvalue, hworld⟩

/-- What is done again is written down again. -/
lemma IsWitness.repeatNoted {deed : Except Fault α → Deed}
    {x' : Course (MemoryLedger × List Step) α} {x : Course MemoryLedger α}
    (h : IsWitness covers deed 1 x'.run x.run) (policy : RetryPolicy)
    (note? : String → Except Fault α → Option Log.Line) (left : Nat) :
    IsWitness covers deed (left + 1) (policy.repeatNoted note? x' left).run
      (policy.repeatNoted note? x left).run := by
  induction left with
  | zero => exact h
  | succ left ih =>
    intro l past
    obtain ⟨steps, hpath, hmade, hvalue, hworld⟩ := h l past
    rw [RetryPolicy.repeatNoted, RetryPolicy.repeatNoted, ExceptT.run_mk, ExceptT.run_mk,
      Act.bind_apply, Act.bind_apply, hvalue, hworld]
    cases note? (policy.place (left + 1)) (x.run l).value with
    | none =>
      have hmost : steps.length ≤ left + 1 + 1 :=
        Nat.le_trans hmade.length_le (Nat.le_add_left 1 _)
      exact ⟨steps, hpath, ⟨hmade.covers, hmade.last, hmost⟩, rfl, rfl⟩
    | some line =>
      -- The line and the wait leave the ledger alone, so the next try begins where this one ended.
      obtain ⟨later, hpath', hmade', hvalue', hworld'⟩ := ih (x.run l).world (past ++ steps)
      rw [List.append_assoc] at hworld'
      exact ⟨steps ++ later, hpath.append hpath', hmade.append hmade', hvalue', hworld'⟩

end Witness

/-- A gateway is another one, with all that happens to the ledger written down. -/
structure Witnesses (most : Nat) (g' : Gateway (MemoryLedger × List Step))
    (g : Gateway MemoryLedger) : Prop where
  /-- Submissions are written down. -/
  submit : ∀ list, IsWitness (fun deed => deed.call? = some (.submit list)) (.submitted list) most
    (g'.submit list).run (g.submit list).run
  /-- Questions about batches are. -/
  status : ∀ batchId waitSecs, IsWitness (fun deed => deed.call? = some (.status batchId waitSecs))
    (.asked batchId waitSecs) most (g'.status batchId waitSecs).run (g.status batchId waitSecs).run
  /-- Questions about addresses are. -/
  fetch : ∀ address, IsWitness (fun deed => deed.call? = some (.fetch address)) (.fetched address)
    most (g'.fetch address).run (g.fetch address).run

lemma witnesses_witnessedGateway : Witnesses 1 witnessedGateway gateway where
  submit list := isWitness_witnessed (fun _ => rfl) (submit_transition list)
  status batchId waitSecs :=
    isWitness_witnessed (fun _ => rfl) (status_transition batchId waitSecs)
  fetch address := isWitness_witnessed (fun _ => rfl) (fetch_transition address)

/-- Tries are written down one by one. -/
lemma Witnesses.retrying {g' : Gateway (MemoryLedger × List Step)} {g : Gateway MemoryLedger}
    (h : Witnesses 1 g' g) (policy : RetryPolicy) :
    Witnesses policy.attempts (g'.retrying policy) (g.retrying policy) := by
  have hattempts : policy.attempts = policy.attempts - 1 + 1 := by
    rw [RetryPolicy.attempts]
    omega
  rw [hattempts]
  constructor
  · intro list
    simp only [Gateway.retrying, RetryPolicy.repeatCall_eq_repeatNoted]
    exact (h.submit list).repeatNoted policy _ _
  · intro batchId waitSecs
    simp only [Gateway.retrying, RetryPolicy.repeatStatus_eq_repeatNoted]
    exact (h.status batchId waitSecs).repeatNoted policy _ _
  · intro address
    simp only [Gateway.retrying, RetryPolicy.repeatCall_eq_repeatNoted]
    exact (h.fetch address).repeatNoted policy _ _

lemma Witnesses.make {most : Nat} {g' : Gateway (MemoryLedger × List Step)}
    {g : Gateway MemoryLedger} (h : Witnesses most g' g) (call : Call) :
    IsWitness (fun deed => deed.call? = some call) id most (make g' call) (make g call) := by
  cases call with
  | submit list => exact (h.submit list).map
  | status batchId waitSecs => exact (h.status batchId waitSecs).map
  | fetch address => exact (h.fetch address).map

/-- Whatever is done to a ledger is written down. -/
lemma isWitness_obey (command : Command) :
    IsWitness command.Covers id command.most (obeyWitnessed command) (obey command) := by
  cases command with
  | pushStatus status invalid =>
    exact isWitness_witnessed (fun _ => rfl) fun l => .pushed status invalid
  | failNext count => exact isWitness_witnessed (fun _ => rfl) fun l => .toldToFail count
  | call policy call =>
    cases policy with
    | none => exact witnesses_witnessedGateway.make call
    | some policy => exact (witnesses_witnessedGateway.retrying policy).make call

/-! ### All commands -/

/-- The rounds are those of the commands, and writing them down changes nothing. -/
lemma rounds_eq (l : MemoryLedger) (commands : List Command) :
    (rounds l commands).map Round.command = commands ∧
      (rounds l commands).map Round.answer = (commands.mapM obey l).value ∧
      (∀ round ∈ rounds l commands, round.IsComplete) ∧
      Path l ((rounds l commands).flatMap Round.steps) (commands.mapM obey l).world := by
  induction commands generalizing l with
  | nil => exact ⟨rfl, rfl, List.forall_mem_nil _, .nil l⟩
  | cons command commands ih =>
    obtain ⟨steps, hsteps, hmade, hvalue, hworld⟩ := isWitness_obey command l []
    obtain ⟨hcommands, hanswers, hcomplete, hpath⟩ := ih (obey command l).world
    rw [List.nil_append] at hworld
    simp only [rounds, hvalue, hworld, List.mapM_cons, Act.bind_apply, Act.pure_apply,
      List.map_cons, List.flatMap_cons, List.forall_mem_cons, hcommands, hanswers]
    exact ⟨trivial, trivial, ⟨hmade, hcomplete⟩, hsteps.append hpath⟩

/-- **All calls are accounted for.** Commands come to a ledger in memory in any order, with calls
that are made directly or by a gateway that tries again. The answers come back as they do when
nobody writes anything down. What is written down in each round is what was commanded, maybe more
than once, and the last of it is the answer. The steps of all rounds lead from the ledger at the
beginning to the one at the end. Before every step, and after the last one, the ledger's records are
in order. A call fails if calls are to fail, of which there is one less then, and only then; and it
changes nothing but the questions on record. An answer about a batch is the first of those to come,
which is taken out, or that the batch has taken effect if there are none. -/
theorem calls_are_accounted (l : MemoryLedger) (commands : List Command) :
    let t := commands.mapM obey l
    let steps := (rounds l commands).flatMap Round.steps
    (rounds l commands).map Round.command = commands ∧
      (rounds l commands).map Round.answer = t.value ∧
      (∀ round ∈ rounds l commands, round.IsComplete) ∧
      Path l steps t.world ∧ Account l steps t.world ∧
      ∀ past step later, steps = past ++ step :: later →
        Account l past step.before ∧
        (∀ call, step.deed.call? = some call →
          (step.deed.isFailure = true ↔ 0 < step.before.failures) ∧
          step.after.failures = step.before.failures - 1 ∧
          (step.deed.isFailure = true → step.after.statuses = step.before.statuses ∧
            step.after.submitted = step.before.submitted ∧
            step.after.entries = step.before.entries)) ∧
        ∀ answer, step.deed.told? = some answer →
          answer = step.before.statuses.headD (.committed, []) ∧
            step.after.statuses = step.before.statuses.tail := by
  intro t steps
  obtain ⟨hcommands, hanswers, hcomplete, hpath⟩ := rounds_eq l commands
  refine ⟨hcommands, hanswers, hcomplete, hpath, hpath.account, ?_⟩
  intro past step later hsteps
  have hsplit : Path l (past ++ step :: later) t.world := hsteps ▸ hpath
  obtain ⟨hpast, hstep⟩ := hsplit.exists_of_append
  exact ⟨hpast.account, fun call hcall => hstep.failures_of_call hcall,
    fun answer htold => hstep.told?_eq htold⟩

-- The first try fails, the second gets the answer that was to come, the third finds none left.
example :
    let commands := [.pushStatus .pending [], .failNext 1, .call (some ⟨3, 0⟩) (.status "b" 0)]
    (((rounds {} commands).flatMap Round.steps).map fun step =>
        (step.deed.isFailure, step.deed.told?)) =
      [(false, none), (false, none), (true, none), (false, some (.pending, [])),
        (false, some (.committed, []))] := by decide +kernel

end MemoryLedger

end XoLedger

import Mathlib.Tactic.Lemma
import XoLedger.Client
import XoLedger.Proofs.Gateway.Retry

/-!
# Which calls a gateway gets

To see what is asked of a gateway, each call is written down beside the world before it is made
(`Gateway.recorded`). Nothing else changes by that. A gateway that tries again makes the call that
it was asked for once or more often, and no other (`PassesOn`). A client can be put over such
gateways instead of its own.
-/

namespace XoLedger

/-- A call of a gateway. -/
inductive Call where
  /-- Batches are submitted. -/
  | submit (list : BatchList)
  /-- Somebody asks about a batch, and would wait some seconds for the answer. -/
  | status (batchId : String) (waitSecs : UInt64)
  /-- Somebody asks for the entries at an address. -/
  | fetch (address : String)
deriving DecidableEq, Repr

variable {σ α : Type}

/-! ### Writing calls down -/

/-- Writes a call down and makes it. -/
def Course.recorded (call : Call) (x : Course σ α) : Course (σ × List Call) α :=
  ExceptT.mk fun s => Act.within Prod.fst (fun world s => (world, s.2)) x.run (s.1, s.2 ++ [call])

/-- A gateway whose calls are written down. -/
def Gateway.recorded (g : Gateway σ) : Gateway (σ × List Call) where
  submit list := Course.recorded (.submit list) (g.submit list)
  status batchId waitSecs := Course.recorded (.status batchId waitSecs) (g.status batchId waitSecs)
  fetch address := Course.recorded (.fetch address) (g.fetch address)

/-! ### One call, once or more often -/

/-- A course makes one call, maybe more than once, and no other. -/
def Course.Makes (x : Course (σ × List Call) α) (call : Call) : Prop :=
  ∀ s, ∃ n, (x.run s).world.2 = s.2 ++ List.replicate (n + 1) call

namespace Course.Makes

variable {x : Course (σ × List Call) α} {call : Call}

lemma recorded (call : Call) (x : Course σ α) : Makes (Course.recorded call x) call :=
  fun _ => ⟨0, rfl⟩

/-- Making the call again makes no other. -/
lemma worldAfter (h : Makes x call) (s : σ × List Call) (times : Nat) :
    ∃ n, (Course.worldAfter x s (times + 1)).2 = s.2 ++ List.replicate (n + 1) call := by
  induction times with
  | zero => exact h s
  | succ times ih =>
    obtain ⟨n, hn⟩ := ih
    obtain ⟨m, hm⟩ := h (Course.worldAfter x s (times + 1))
    refine ⟨n + 1 + m, ?_⟩
    rw [Course.worldAfter, hm, hn, List.append_assoc, List.replicate_append_replicate,
      Nat.add_assoc (n + 1)]

/-- A course that repeats another one makes its call. -/
lemma of_isRepeated {again : Except Fault α → Prop} {most : Nat} {y : Course (σ × List Call) α}
    (h : Makes x call)
    (hrepeated : ∀ s, ∃ n, RetryPolicy.IsRepeated again x s most n (y.run s)) : Makes y call := by
  intro s
  obtain ⟨n, hn⟩ := hrepeated s
  rw [hn.world]
  exact h.worldAfter s n

end Course.Makes

namespace Gateway

/-- Whatever is asked of a gateway is written down, maybe more than once, and nothing else is. -/
structure PassesOn (g : Gateway (σ × List Call)) : Prop where
  /-- Submissions are. -/
  submit : ∀ list, (g.submit list).Makes (.submit list)
  /-- Questions about batches are. -/
  status : ∀ batchId waitSecs, (g.status batchId waitSecs).Makes (.status batchId waitSecs)
  /-- Questions about addresses are. -/
  fetch : ∀ address, (g.fetch address).Makes (.fetch address)

lemma passesOn_recorded (g : Gateway σ) : g.recorded.PassesOn where
  submit _ := .recorded _ _
  status _ _ := .recorded _ _
  fetch _ := .recorded _ _

lemma PassesOn.retrying {g : Gateway (σ × List Call)} (h : g.PassesOn) (policy : RetryPolicy) :
    (g.retrying policy).PassesOn where
  submit list := (h.submit list).of_isRepeated (policy.repeatCall_isRepeated _ _ _)
  status batchId waitSecs :=
    (h.status batchId waitSecs).of_isRepeated (policy.repeatStatus_isRepeated batchId _ _)
  fetch address := (h.fetch address).of_isRepeated (policy.repeatCall_isRepeated _ _ _)

end Gateway

/-! ### Clients over other gateways -/

namespace Client

variable {τ : Type}

/-- The client with the gateways that are made of its own. What it has published stays. -/
def mapGateway (f : Gateway σ → Gateway τ) (c : Client σ) : Client τ where
  settings := c.settings
  signer := c.signer
  gateway := f c.gateway
  projector := ⟨f c.projector.gateway, c.projector.games, c.projector.focus⟩

/-- The client whose calls are written down. -/
def recorded (c : Client σ) : Client (σ × List Call) :=
  c.mapGateway Gateway.recorded

/-- The client that tries its calls again. -/
def retrying (c : Client σ) (policy : RetryPolicy) : Client σ :=
  c.mapGateway fun g => g.retrying policy

end Client

end XoLedger

import Mathlib.Tactic.Lemma
import XoLedger.Gateway.Memory
import XoLedger.Gateway.Network
import XoLedger.Gateway.Rest
import XoLedger.Proofs.Act

/-!
# Calls that do not wait

Something is prompt if nothing but lines is observed on the way, so that no time passes. Neither
the calls of a ledger in memory nor those of a server over a prompt network wait by themselves.
-/

namespace XoLedger

variable {σ α β : Type}

/-- No time passes: all that is observed are lines. -/
def Act.IsPrompt (x : Act σ α) : Prop :=
  ∀ s, ∀ event ∈ (x s).events, ∃ line, event = .line line

/-- No time passes, whether it fails or not. -/
def Course.IsPrompt (x : Course σ α) : Prop :=
  Act.IsPrompt x.run

namespace Act.IsPrompt

lemma pure (a : α) : IsPrompt (Pure.pure a : Act σ α) :=
  fun _ _ h => absurd h List.not_mem_nil

lemma change (f : σ → α × σ) : IsPrompt (Act.change f) :=
  fun _ _ h => absurd h List.not_mem_nil

lemma note (level : Log.Level) (message : String) :
    IsPrompt (Act.note level message : Act σ Unit) :=
  fun _ _ h => ⟨_, List.mem_singleton.mp h⟩

lemma bind {x : Act σ α} {f : α → Act σ β} (hx : IsPrompt x) (hf : ∀ a, IsPrompt (f a)) :
    IsPrompt (x >>= f) := by
  intro s event h
  rw [Act.bind_apply] at h
  rcases List.mem_append.mp h with h | h
  · exact hx s event h
  · exact hf _ _ event h

end Act.IsPrompt

namespace Course.IsPrompt

lemma pure (a : α) : IsPrompt (Pure.pure a : Course σ α) :=
  Act.IsPrompt.pure _

lemma throw (fault : Fault) : IsPrompt (MonadExcept.throw fault : Course σ α) :=
  Act.IsPrompt.pure _

lemma lift {x : Act σ α} (hx : x.IsPrompt) : IsPrompt (liftM x : Course σ α) := by
  intro s event h
  rw [Course.lift_run_apply] at h
  exact hx s event h

lemma note (level : Log.Level) (message : String) :
    IsPrompt (Course.note level message : Course σ Unit) :=
  lift (Act.IsPrompt.note level message)

lemma ofExcept {ε : Type} (toFault : ε → Fault) (x : Except ε α) :
    IsPrompt (Course.ofExcept toFault x : Course σ α) := by
  intro s event h
  rw [Course.ofExcept_run_apply] at h
  exact absurd h List.not_mem_nil

lemma bind {x : Course σ α} {f : α → Course σ β} (hx : IsPrompt x) (hf : ∀ a, IsPrompt (f a)) :
    IsPrompt (x >>= f) := by
  intro s event h
  cases hvalue : (x.run s).value with
  | error fault =>
    rw [bind_run_of_error hvalue] at h
    exact hx s event h
  | ok a =>
    rw [bind_run_of_ok hvalue] at h
    rcases List.mem_append.mp h with h | h
    · exact hx s event h
    · exact hf a _ event h

end Course.IsPrompt

/-- None of the three calls waits. -/
structure Gateway.IsPrompt (g : Gateway σ) : Prop where
  /-- Submissions do not. -/
  submit : ∀ list, (g.submit list).IsPrompt
  /-- Questions about batches do not. -/
  status : ∀ batchId waitSecs, (g.status batchId waitSecs).IsPrompt
  /-- Questions about addresses do not. -/
  fetch : ∀ address, (g.fetch address).IsPrompt

/-- A ledger in memory answers at once. -/
lemma MemoryLedger.isPrompt_gateway : gateway.IsPrompt where
  submit _ := Act.IsPrompt.change _
  status _ _ := Act.IsPrompt.change _
  fetch _ := Act.IsPrompt.change _

/-- A network with known answers gives them at once. -/
lemma Network.isPrompt_carrier (request : Request) : (carrier request).IsPrompt :=
  Act.IsPrompt.change _

namespace RestApi

open Course

variable {carrier : Carrier σ}

lemma isPrompt_exchange (hcarrier : ∀ request, (carrier request).IsPrompt)
    (read : Json.Decoder α) (request : Request) :
    IsPrompt (exchange carrier read request) := by
  rw [exchange]
  split
  · refine (IsPrompt.lift (hcarrier request)).bind fun reply => ?_
    exact (IsPrompt.ofExcept _ _).bind fun body => IsPrompt.ofExcept _ _
  · exact IsPrompt.throw _

/-- A server over a prompt network answers at once. -/
lemma isPrompt_gateway (hcarrier : ∀ request, (carrier request).IsPrompt) (api : RestApi) :
    (api.gateway carrier).IsPrompt where
  submit list := by
    refine (IsPrompt.ofExcept _ _).bind fun url => (IsPrompt.note _ _).bind fun _ => ?_
    refine (isPrompt_exchange hcarrier _ _).bind fun answer => ?_
    exact (IsPrompt.ofExcept _ _).bind fun batchId => IsPrompt.pure _
  status batchId waitSecs := by
    refine (IsPrompt.ofExcept _ _).bind fun url => (IsPrompt.note _ _).bind fun _ => ?_
    exact (isPrompt_exchange hcarrier _ _).bind fun answer => IsPrompt.ofExcept _ _
  fetch address := by
    refine (IsPrompt.ofExcept _ _).bind fun url => (IsPrompt.note _ _).bind fun _ => ?_
    exact (isPrompt_exchange hcarrier _ _).bind fun answer => IsPrompt.pure _

end RestApi

end XoLedger

import Mathlib.Tactic.Lemma
import XoLedger.Act

/-!
# What courses do, step by step

A course that is made of two either fails with the first one, in the world where that one stopped,
or goes on from there. These equations take a course apart without a look at how acts are put
together.
-/

namespace XoLedger.Course

variable {σ α β : Type}

@[simp] theorem ofExcept_run_apply {ε : Type} (toFault : ε → Fault) (x : Except ε α) (s : σ) :
    (Course.ofExcept toFault x).run s = ⟨x.mapError toFault, [], s⟩ := by
  cases x with
  | error e => rfl
  | ok a => rfl

@[simp] theorem lift_run_apply (x : Act σ α) (s : σ) :
    (liftM x : Course σ α).run s = ⟨.ok (x s).value, (x s).events, (x s).world⟩ := by
  change (Except.ok <$> x : Act σ (Except Fault α)) s = _
  rw [map_eq_pure_bind, Act.bind_apply, Act.pure_apply, List.append_nil]

/-- After a first course that succeeds, the second one goes on. -/
theorem bind_run_of_ok {x : Course σ α} {s : σ} {a : α} (h : (x.run s).value = .ok a)
    (f : α → Course σ β) :
    (x >>= f).run s =
      ⟨((f a).run (x.run s).world).value, (x.run s).events ++ ((f a).run (x.run s).world).events,
        ((f a).run (x.run s).world).world⟩ := by
  rw [ExceptT.run_bind, Act.bind_apply, h]

/-- After a first course that fails, nothing else happens. -/
theorem bind_run_of_error {x : Course σ α} {s : σ} {fault : Fault}
    (h : (x.run s).value = .error fault) (f : α → Course σ β) :
    (x >>= f).run s = ⟨.error fault, (x.run s).events, (x.run s).world⟩ := by
  rw [ExceptT.run_bind, Act.bind_apply, h]
  simp

/-- A course of two that succeeds has succeeded in both. -/
theorem exists_of_bind_run_ok {x : Course σ α} {f : α → Course σ β} {s : σ} {b : β}
    (h : ((x >>= f).run s).value = .ok b) :
    ∃ a, (x.run s).value = .ok a ∧ ((f a).run (x.run s).world).value = .ok b := by
  cases hx : (x.run s).value with
  | error fault =>
    rw [bind_run_of_error hx] at h
    exact absurd h (by simp)
  | ok a =>
    rw [bind_run_of_ok hx] at h
    exact ⟨a, rfl, h⟩

/-- A line that is noted beforehand changes neither the value nor the world. -/
theorem note_bind_run (level : Log.Level) (message : String) (x : Course σ α) (s : σ) :
    ((Course.note level message >>= fun _ => x).run s).value = (x.run s).value ∧
      ((Course.note level message >>= fun _ => x).run s).world = (x.run s).world := by
  rw [bind_run_of_ok (a := ()) rfl]
  exact ⟨rfl, rfl⟩

/-! ### Courses that leave the world alone -/

/-- A course ends with a value that is already known, in the world where it began. -/
def Tells (x : Course σ α) (value : Except Fault α) : Prop :=
  ∀ s, (x.run s).value = value ∧ (x.run s).world = s

namespace Tells

theorem pure (a : α) : Tells (Pure.pure a : Course σ α) (.ok a) :=
  fun _ => ⟨rfl, rfl⟩

theorem note (level : Log.Level) (message : String) :
    Tells (Course.note level message : Course σ Unit) (.ok ()) :=
  fun _ => ⟨rfl, rfl⟩

theorem ofExcept {ε : Type} (toFault : ε → Fault) (x : Except ε α) :
    Tells (Course.ofExcept toFault x : Course σ α) (x.mapError toFault) := by
  intro s
  rw [ofExcept_run_apply]
  exact ⟨rfl, rfl⟩

theorem ofExcept_id (x : Except Fault α) : Tells (Course.ofExcept id x : Course σ α) x := by
  cases x with
  | error fault => exact fun _ => ⟨rfl, rfl⟩
  | ok a => exact fun _ => ⟨rfl, rfl⟩

/-- What such a course adds to the one before it is in the value only. -/
theorem bind_run {f : α → Course σ β} {g : α → Except Fault β} (h : ∀ a, Tells (f a) (g a))
    (x : Course σ α) (s : σ) :
    ((x >>= f).run s).value = ((x.run s).value >>= g) ∧
      ((x >>= f).run s).world = (x.run s).world := by
  cases hx : (x.run s).value with
  | error fault =>
    rw [bind_run_of_error hx]
    exact ⟨rfl, rfl⟩
  | ok a =>
    rw [bind_run_of_ok hx]
    exact h a (x.run s).world

theorem bind {x : Course σ α} {value : Except Fault α} {f : α → Course σ β}
    {g : α → Except Fault β} (hx : Tells x value) (h : ∀ a, Tells (f a) (g a)) :
    Tells (x >>= f) (value >>= g) := by
  intro s
  obtain ⟨hvalue, hworld⟩ := bind_run h x s
  rw [hvalue, hworld, (hx s).1, (hx s).2]
  exact ⟨rfl, rfl⟩

theorem mapM {f : α → Course σ β} {g : α → Except Fault β} (h : ∀ a, Tells (f a) (g a))
    (l : List α) : Tells (l.mapM f) (l.mapM g) := by
  induction l with
  | nil => exact Tells.pure []
  | cons a l ih =>
    rw [List.mapM_cons, List.mapM_cons]
    exact (h a).bind fun b => ih.bind fun bs => Tells.pure (b :: bs)

end Tells

end XoLedger.Course

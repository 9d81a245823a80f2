import Mathlib.Algebra.Order.Floor.Div
import Mathlib.Data.List.Chain
import XoLedger.Polling
import XoLedger.Proofs.Projection

/-!
# The timetable of polling

Polling is a sequence of readings, each with the time at which it is due and the time at which it
begins. A reading begins when it is due or, if it is late, as soon as the one before has ended, and
the next one is due a period later at least. So the k-th reading does not begin before k periods
have passed, and where readings take no time they begin at the multiples of the period and nowhere
else. Polling goes on until it is stopped, whatever the readings come to, and what is published is
what the last reading gave that ended well before the stop (`readings_of_run`).
-/

namespace XoLedger

variable {σ : Type}

/-! ### Breaking off -/

namespace Event

/-- Events are not broken off if they take less time than there is. -/
lemma cut_eq_none_iff {ms : Nat} (hms : 0 < ms) {events : List (Event σ)} :
    cut ms events = none ↔ (events.map duration).sum < ms := by
  induction events generalizing ms with
  | nil => simpa [cut] using hms
  | cons event rest ih =>
    cases event with
    | line l => simp [cut, duration, ih hms]
    | pause d world =>
      rw [cut]
      by_cases hle : ms ≤ d
      · simp [hle, duration]
        omega
      · simp [hle, duration, ih (show 0 < ms - d by omega)]
        omega

/-- What is left of events that are broken off takes all the time there is. -/
lemma duration_of_cut {ms : Nat} {events kept : List (Event σ)} {world : σ}
    (h : cut ms events = some (kept, world)) : (kept.map duration).sum = ms := by
  induction events generalizing ms kept with
  | nil => simp [cut] at h
  | cons event rest ih =>
    cases event with
    | line l =>
      obtain ⟨⟨tail, world'⟩, htail, heq⟩ := Option.map_eq_some_iff.mp h
      cases heq
      simpa [duration] using ih htail
    | pause d world' =>
      rw [cut] at h
      by_cases hle : ms ≤ d
      · rw [if_pos hle] at h
        cases h
        simp [duration]
      · rw [if_neg hle] at h
        obtain ⟨⟨tail, world''⟩, htail, heq⟩ := Option.map_eq_some_iff.mp h
        cases heq
        have hsum := ih htail
        simp only [List.map_cons, List.sum_cons, duration, hsum]
        omega

end Event

namespace Polling

/-! ### Readings -/

/-- A reading of the list of games. -/
structure Reading (σ : Type) where
  /-- When it is due. -/
  due : Nat
  /-- When it begins. -/
  begun : Nat
  /-- What is published before. -/
  projector : Projector σ
  /-- The world before. -/
  world : σ

namespace Reading

/-- What happens if nothing breaks the reading off. -/
def trace (r : Reading σ) : Trace σ (Projector σ) :=
  refresh r.projector r.world

/-- What it comes to. -/
def result (r : Reading σ) : Except Fault Snapshot :=
  (r.projector.refreshAll r.world).value.1

/-- When it ends. -/
def ended (r : Reading σ) : Nat :=
  r.begun + r.trace.duration

/-- The reading after this one. -/
def next (period : Nat) (r : Reading σ) : Reading σ where
  due := nextDue period r.due r.begun
  begun := max r.ended (nextDue period r.due r.begun)
  projector := r.trace.value
  world := r.trace.world

/-- The first reading. -/
def first (p : Projector σ) (world : σ) : Reading σ :=
  ⟨0, 0, p, world⟩

/-- The line that is noted about a failure. -/
def failureLine (fault : Fault) : Log.Line :=
  ⟨.warn, s!"Game list refresh failed: {fault.message}"⟩

end Reading

/-- The lists that readings gave which ended well before the stop, in order. -/
def published (stop : Nat) (rs : List (Reading σ)) : List Snapshot :=
  (rs.filter fun r => r.ended < stop).filterMap fun r => r.result.toOption

/-- How polling goes on from the time `now`, with `r` for the next reading: it is stopped before
the reading begins or while it lasts, or the reading ends and polling goes on. -/
inductive Polls (period stop : Nat) :
    (now : Nat) → Reading σ → List (Reading σ) → Trace σ (Projector σ) → Prop where
  /-- The next reading does not begin before the stop. -/
  | stopped {now : Nat} {r : Reading σ} (hbegun : stop ≤ r.begun) :
      Polls period stop now r [] ⟨r.projector, [.pause (stop - now) r.world], r.world⟩
  /-- The next reading begins but is broken off. -/
  | brokenOff {now : Nat} {r : Reading σ} {events : List (Event σ)} {world : σ}
      (hbegun : r.begun < stop) (hended : stop ≤ r.ended)
      (hcut : Event.cut (stop - r.begun) r.trace.events = some (events, world)) :
      Polls period stop now r [r]
        ⟨r.projector, .pause (r.begun - now) r.world :: events, world⟩
  /-- The next reading ends before the stop. -/
  | read {now : Nat} {r : Reading σ} {rs : List (Reading σ)} {t : Trace σ (Projector σ)}
      (hended : r.ended < stop) (hrest : Polls period stop r.ended (r.next period) rs t) :
      Polls period stop now r (r :: rs)
        ⟨t.value, .pause (r.begun - now) r.world :: (r.trace.events ++ t.events), t.world⟩

/-! ### One reading -/

/-- The next reading is due a period later at least. -/
lemma le_nextDue (period due begun : Nat) : due + period ≤ nextDue period due begun := by
  rw [nextDue]
  split_ifs <;> omega

/-- A reading in time puts nothing off. -/
lemma nextDue_self (period due : Nat) : nextDue period due due = due + period := by
  rw [nextDue, if_neg (by omega)]

/-- A reading that succeeds is published, one that fails changes nothing, and the failure is the
last thing that is noted. -/
lemma refresh_eq (p : Projector σ) (world : σ) : refresh p world =
    { value := { p with
        games := (p.refreshAll world).value.1.toOption.toList.foldl Cell.replace p.games }
      events := (p.refreshAll world).events ++
        match (p.refreshAll world).value.1 with
        | .ok _ => []
        | .error fault => [.line (Reading.failureLine fault)]
      world := (p.refreshAll world).world } := by
  have hread := Projector.refreshAll_transition p world
  rw [refresh, Act.bind_apply]
  generalize p.refreshAll world = t at hread ⊢
  obtain ⟨⟨answer, p'⟩, events, world'⟩ := t
  simp only at hread
  cases hread with
  | listed fetched isOf => rfl
  | listNotFetched fetched => rfl
  | listNotRead fetched mem unreadable => rfl

namespace Reading

variable (r : Reading σ)

lemma trace_eq : r.trace =
    { value := { r.projector with
        games := r.result.toOption.toList.foldl Cell.replace r.projector.games }
      events := (r.projector.refreshAll r.world).events ++
        match r.result with
        | .ok _ => []
        | .error fault => [.line (failureLine fault)]
      world := (r.projector.refreshAll r.world).world } :=
  refresh_eq r.projector r.world

/-- A reading is done with in time unless it is broken off. -/
lemma cut_eq_none_iff {stop : Nat} (hbegun : r.begun < stop) :
    Event.cut (stop - r.begun) r.trace.events = none ↔ r.ended < stop := by
  have hsum : r.trace.duration = (r.trace.events.map Event.duration).sum := rfl
  rw [Event.cut_eq_none_iff (by omega), ended, hsum]
  omega

end Reading

/-! ### The whole run -/

variable {period stop : Nat}

/-- There are enough rounds for all readings that begin before the stop: each is due a period after
the one before. -/
lemma exists_polls_runFrom {budget due : Nat} (hbudget : stop ≤ due + period * budget)
    (now : Nat) (p : Projector σ) (world : σ) :
    ∃ rs, Polls period stop now ⟨due, max now due, p, world⟩ rs
      (runFrom period stop (budget + 1) now due p world) := by
  induction budget generalizing now due p world with
  | zero =>
    have hstop : stop ≤ max now due := by omega
    rw [runFrom]
    simp only [if_pos hstop]
    exact ⟨[], .stopped hstop⟩
  | succ budget ih =>
    rw [runFrom]
    by_cases hstop : stop ≤ max now due
    · simp only [if_pos hstop]
      exact ⟨[], .stopped hstop⟩
    simp only [if_neg hstop]
    have hbegun : max now due < stop := not_le.mp hstop
    set r : Reading σ := ⟨due, max now due, p, world⟩ with hr
    dsimp only [bind, Act.andThen, Act.pause]
    cases hcut : Event.cut (stop - r.begun) r.trace.events with
    | some kept =>
      have hended : ¬r.ended < stop := by
        rw [← r.cut_eq_none_iff hbegun, hcut]
        simp
      refine ⟨[r], ?_⟩
      have hcut' := hcut
      rw [Reading.trace] at hcut'
      rw [hcut']
      exact .brokenOff hbegun (not_lt.mp hended) hcut
    | none =>
      have hended : r.ended < stop := (r.cut_eq_none_iff hbegun).mp hcut
      have hbudget' : stop ≤ nextDue period due (max now due) + period * budget := by
        have hdue := le_nextDue period due (max now due)
        rw [Nat.mul_succ] at hbudget
        omega
      obtain ⟨rs, hrest⟩ := ih hbudget' r.ended r.trace.value r.trace.world
      refine ⟨r :: rs, ?_⟩
      have hcut' := hcut
      rw [Reading.trace] at hcut'
      rw [hcut']
      exact .read hended hrest

namespace Polls

variable {now : Nat} {r r' : Reading σ} {rs : List (Reading σ)} {t : Trace σ (Projector σ)}

/-- The first reading is the one that is next, if it begins before the stop. -/
lemma head?_eq (h : Polls period stop now r rs t) :
    rs.head? = if r.begun < stop then some r else none := by
  cases h with
  | stopped hbegun => rw [if_neg (not_lt.mpr hbegun), List.head?_nil]
  | brokenOff hbegun => rw [if_pos hbegun, List.head?_cons]
  | read hended =>
    have hle : r.begun ≤ r.ended := Nat.le_add_right _ _
    rw [if_pos (hle.trans_lt hended), List.head?_cons]

/-- Every reading but the first is the one that follows the reading before it. -/
lemma isChain (h : Polls period stop now r rs t) :
    rs.IsChain fun a b => b = a.next period := by
  induction h with
  | stopped => exact .nil
  | brokenOff => exact .singleton _
  | read hended hrest ih =>
    refine List.isChain_cons.mpr ⟨fun b hb => ?_, ih⟩
    rw [hrest.head?_eq, Option.mem_def] at hb
    split_ifs at hb with hbegun
    exact (Option.some.inj hb).symm

/-- No reading begins before it is due, and it is due one period later than the one before. -/
lemma due_add_mul_le (h : Polls period stop now r rs t) (hr : r.due ≤ r.begun) {k : Nat}
    (hk : rs[k]? = some r') : r.due + k * period ≤ r'.due ∧ r'.due ≤ r'.begun := by
  induction h generalizing k with
  | stopped => simp at hk
  | brokenOff =>
    cases k with
    | zero =>
      rw [List.getElem?_cons_zero, Option.some.injEq] at hk
      subst hk
      exact ⟨by omega, hr⟩
    | succ k => simp at hk
  | @read now r rs t hended hrest ih =>
    cases k with
    | zero =>
      rw [List.getElem?_cons_zero, Option.some.injEq] at hk
      subst hk
      exact ⟨by omega, hr⟩
    | succ k =>
      rw [List.getElem?_cons_succ] at hk
      obtain ⟨hdue, hbegun⟩ := ih (Nat.le_max_right _ _) hk
      have hnext : r.due + period ≤ (r.next period).due := le_nextDue period r.due r.begun
      rw [Nat.succ_mul]
      exact ⟨by omega, hbegun⟩

/-- The last list that was read is what is published, and nothing else has changed. -/
lemma value_eq (h : Polls period stop now r rs t) :
    t.value = { r.projector with
      games := (published stop rs).foldl Cell.replace r.projector.games } := by
  induction h with
  | stopped => rfl
  | brokenOff hbegun hended =>
    rw [published, List.filter_cons_of_neg (by simpa using hended)]
    rfl
  | @read now r rs t hended hrest ih =>
    have hpublished : published stop (r :: rs) =
        r.result.toOption.toList ++ published stop rs := by
      rw [published, List.filter_cons_of_pos (by simpa using hended), List.filterMap_cons]
      cases r.result.toOption <;> rfl
    have hvalue : (r.next period).projector = r.trace.value := rfl
    rw [ih, hpublished, List.foldl_append, hvalue, r.trace_eq]

/-- Polling lasts until it is stopped. -/
lemma duration_eq (h : Polls period stop now r rs t) (hnow : now ≤ r.begun) (hstop : now ≤ stop) :
    now + t.duration = stop := by
  have hsum : ∀ t : Trace σ (Projector σ), t.duration = (t.events.map Event.duration).sum :=
    fun _ => rfl
  induction h with
  | stopped hbegun =>
    simp only [hsum, List.map_cons, List.map_nil, List.sum_cons, List.sum_nil, Event.duration]
    omega
  | brokenOff hbegun hended hcut =>
    have hkept := Event.duration_of_cut hcut
    simp only [hsum, List.map_cons, List.sum_cons, Event.duration, hkept]
    omega
  | @read now r rs t hended hrest ih =>
    have hle : r.begun ≤ r.ended := Nat.le_add_right _ _
    have hlater := ih (Nat.le_max_left _ _) hended.le
    have hreading : r.ended = r.begun + (r.trace.events.map Event.duration).sum := rfl
    rw [hsum] at hlater
    simp only [hsum, List.map_cons, List.map_append, List.sum_cons, List.sum_append, Event.duration]
    omega

/-- A reading that ends before the stop is observed as it is from the time on at which it begins, and
polling goes on at its end. -/
lemma exists_rest (h : Polls period stop now r rs t) (hnow : now ≤ r.begun) (hmem : r' ∈ rs)
    (hended : r'.ended < stop) : ∃ earlier later before t', rs = earlier ++ r' :: later ∧
      Polls period stop r'.ended (r'.next period) later t' ∧
      t.events = before ++ (r'.trace.events ++ t'.events) ∧
      now + (before.map Event.duration).sum = r'.begun := by
  induction h with
  | stopped => exact absurd hmem List.not_mem_nil
  | brokenOff hbegun hlate =>
    rw [List.mem_singleton] at hmem
    subst hmem
    omega
  | @read now r rs t hdone hrest ih =>
    rcases List.mem_cons.mp hmem with rfl | hmem
    · refine ⟨[], rs, [.pause (r'.begun - now) r'.world], t, rfl, hrest, rfl, ?_⟩
      simp only [List.map_cons, List.map_nil, List.sum_cons, List.sum_nil, Event.duration]
      omega
    · obtain ⟨earlier, later, before, t', rfl, hlater, hevents, hsum⟩ :=
        ih (Nat.le_max_left _ _) hmem
      have hreading : r.ended = r.begun + (r.trace.events.map Event.duration).sum := rfl
      refine ⟨r :: earlier, later, .pause (r.begun - now) r.world :: (r.trace.events ++ before), t',
        rfl, hlater, ?_, ?_⟩
      · simp only [hevents, List.cons_append, List.append_assoc]
      · simp only [List.map_cons, List.map_append, List.sum_cons, List.sum_append, Event.duration]
        omega

/-- No reading is the last one as long as there is time for another, whatever it comes to. -/
lemma next_mem (h : Polls period stop now r rs t) (hnow : now ≤ r.begun) (hmem : r' ∈ rs)
    (hended : r'.ended < stop) : r'.next period ∈ rs ∨ stop ≤ (r'.next period).begun := by
  obtain ⟨earlier, later, -, t', rfl, hlater, -, -⟩ := h.exists_rest hnow hmem hended
  have hhead := hlater.head?_eq
  by_cases hbegun : (r'.next period).begun < stop
  · rw [if_pos hbegun] at hhead
    have hnext : r'.next period ∈ later := List.mem_of_mem_head? hhead
    exact .inl (List.mem_append_right _ (List.mem_cons_of_mem _ hnext))
  · exact .inr (not_lt.mp hbegun)

/-- What a reading does that ends before the stop is observed in full, from the time on at which
the reading begins. -/
lemma exists_events (h : Polls period stop now r rs t) (hnow : now ≤ r.begun) (hmem : r' ∈ rs)
    (hended : r'.ended < stop) : ∃ before after, t.events = before ++ r'.trace.events ++ after ∧
      now + (before.map Event.duration).sum = r'.begun := by
  obtain ⟨-, -, before, t', -, -, hevents, hsum⟩ := h.exists_rest hnow hmem hended
  rw [← List.append_assoc] at hevents
  exact ⟨before, t'.events, hevents, hsum⟩

/-- Readings that take no time begin when they are due, one period after the other. -/
lemma map_begun (h : Polls period stop now r rs t) (hperiod : 0 < period) {k : Nat}
    (hdue : r.due = k * period) (hbegun : r.begun = k * period)
    (hprompt : ∀ r ∈ rs, r.trace.duration = 0) :
    rs.map Reading.begun = (List.range' k (stop ⌈/⌉ period - k)).map (· * period) := by
  induction h generalizing k with
  | stopped hstop =>
    have hle : stop ⌈/⌉ period ≤ k := by
      rw [ceilDiv_le_iff_le_mul hperiod, Nat.mul_comm]
      exact hbegun ▸ hstop
    rw [Nat.sub_eq_zero_of_le hle]
    rfl
  | @brokenOff now r events world hstarted hlate hcut =>
    have htime := hprompt r List.mem_cons_self
    rw [Reading.ended] at hlate
    omega
  | @read now r rs t hended hrest ih =>
    have htime := hprompt r List.mem_cons_self
    have hsame : r.ended = r.begun := by rw [Reading.ended, htime, Nat.add_zero]
    have hlt : k < stop ⌈/⌉ period := by
      rw [← not_le, ceilDiv_le_iff_le_mul hperiod, Nat.mul_comm, not_le, ← hbegun, ← hsame]
      exact hended
    have hdue' : (r.next period).due = (k + 1) * period := by
      rw [Reading.next, hdue, hbegun, nextDue_self, Nat.succ_mul]
    have hbegun' : (r.next period).begun = (k + 1) * period := by
      rw [← hdue']
      refine max_eq_right ?_
      rw [hsame, hbegun, hdue, nextDue_self]
      exact Nat.le_add_right _ _
    have hsplit : stop ⌈/⌉ period - k = stop ⌈/⌉ period - (k + 1) + 1 := by omega
    rw [List.map_cons, hsplit, List.range'_succ, List.map_cons, hbegun,
      ih hdue' hbegun' fun r' hr' => hprompt r' (List.mem_cons_of_mem _ hr')]

end Polls

/-! ### The timetable -/

/-- **The timetable of polling.** Whatever the period, the gateway and the time until the stop,
polling is a sequence of readings. The first begins at once, each of the others after the one before
has ended, and the k-th not before k periods have passed. A reading that ends before the stop is
observed in full from its beginning on; if it fails, this is noted at its end, nothing that is
published changes, and polling goes on as after a success. At the stop, and not before, polling
ends, and what is published then is the list that the last successful reading gave which had ended
by then. If readings take no time, they begin at the multiples of the period below the stop. -/
theorem readings_of_run (period stop : Nat) (p : Projector σ) (world : σ) :
    let q := max period minPeriod
    ∃ rs, Polls q stop 0 (.first p world) rs (run period stop p world) ∧
      (rs.head? = if 0 < stop then some (.first p world) else none) ∧
      (∀ (k : Nat) (r : Reading σ), rs[k]? = some r → k * q ≤ r.begun) ∧
      (rs.IsChain fun a b => a.ended ≤ b.begun ∧ b = a.next q) ∧
      (∀ r ∈ rs, r.ended < stop →
        (∃ before after, (run period stop p world).events = before ++ r.trace.events ++ after ∧
          (before.map Event.duration).sum = r.begun) ∧
        (r.next q ∈ rs ∨ stop ≤ (r.next q).begun) ∧
        ∀ fault, r.result = .error fault →
          r.trace.events.getLast? = some (.line (Reading.failureLine fault)) ∧
            r.trace.value = r.projector) ∧
      (run period stop p world).duration = stop ∧
      (run period stop p world).value = { p with
        games := ⟨(published stop rs).getLastD p.games.value,
          p.games.version + (published stop rs).length⟩ } ∧
      ((∀ r ∈ rs, r.trace.duration = 0) →
        rs.map Reading.begun = (List.range (stop ⌈/⌉ q)).map (· * q)) := by
  intro q
  have hq : 0 < q := lt_of_lt_of_le (by decide) (Nat.le_max_right period minPeriod)
  have hbudget : stop ≤ 0 + q * (stop / q + 1) := by
    have hdivision := Nat.div_add_mod stop q
    have hrest := Nat.mod_lt stop hq
    rw [Nat.mul_succ]
    omega
  obtain ⟨rs, h⟩ := exists_polls_runFrom hbudget 0 p world
  refine ⟨rs, h, h.head?_eq, fun k r hk => ?_, ?_, fun r hmem hended => ⟨?_, ?_, ?_⟩, ?_, ?_, ?_⟩
  · obtain ⟨hdue, hbegun⟩ := h.due_add_mul_le (Nat.le_refl 0) hk
    omega
  · refine h.isChain.imp fun a b hnext => ⟨?_, hnext⟩
    rw [hnext]
    exact Nat.le_max_left _ _
  · obtain ⟨before, after, hevents, hsum⟩ := h.exists_events (Nat.le_refl 0) hmem hended
    exact ⟨before, after, hevents, (Nat.zero_add _).symm.trans hsum⟩
  · exact h.next_mem (Nat.le_refl 0) hmem hended
  · intro fault hfault
    rw [r.trace_eq, hfault]
    exact ⟨List.getLast?_concat, rfl⟩
  · exact (Nat.zero_add _).symm.trans (h.duration_eq (Nat.le_refl 0) (Nat.zero_le stop))
  · rw [run, h.value_eq, Projector.foldl_replace]
  · intro hprompt
    rw [h.map_begun hq (Nat.zero_mul q).symm (Nat.zero_mul q).symm hprompt, Nat.sub_zero,
      List.range_eq_range']

end Polling

end XoLedger

import Mathlib
import MinuteWindow.Proofs.Window.History
import MinuteWindow.Window.Session
/-! What the queries answer after any session.

A session of steps on an aggregator makes the store calls `Step.ops`: one record per event
(`Step.events`, with unreadable timestamp text taken at the clock's instant) and one close per
query. The store therefore always holds the history of the events recorded so far
(`models_afterSteps`), and a query, which closes first, sees all of them closed.

`queries_match_reference`: after any steps, the totals series is the series of the counted
minutes still in the window, each category's series that of its own events, the summary their
sizes, and the open minute the latest counted minute. The window's cutoff is the closed minute
less the window, but never before the earliest representable minute: an event of that minute is
evicted by the first close, which `summary_evicts_earliest_minute` shows on one event.

`close_independent_of_queries`: the placement of the queries does not matter; two sessions that
record the same events end, once closed, in the same store, and so answer every query alike. -/
namespace MinuteWindow.Window
open Time Telemetry

namespace Step

/-- The events a step records, each a category and an instant; timestamp text that does not
read stands for the clock's instant. -/
def events (now : Instant) : Step → List (String × Instant)
  | .record c t => [(c, t)]
  | .recordMany c t k => List.replicate k (c, t)
  | .recordText c raw => [(c, (Instant.parse? raw).getD now)]
  | _ => []

/-- The store calls a step makes: a record for each of its events, a close for a query. -/
def ops (now : Instant) : Step → List Op
  | .totalSeries | .categorySeries | .summary => [.close]
  | s => (s.events now).map fun e => .record e.1 e.2.minute

end Step

/-- The events recorded by the steps, each with the minute it is counted in. -/
def countedEvents (now : Instant) (steps : List Step) : List (String × Minute) :=
  counted ((steps.flatMap (Step.events now)).map fun e => (e.1, e.2.minute))

theorem Store.applyAll_append (w : Nat) (s : Store) (ops ops' : List Op) :
    s.applyAll w (ops ++ ops') = (s.applyAll w ops).applyAll w ops' := List.foldl_append

/-! ### Steps as store calls -/

namespace Aggregator

theorem recordTimes_run (a : Aggregator) (c : String) (t : Instant) (k : Nat) (cs : Counters) :
    ((a.recordTimes c t k).run cs).1 =
      { a with store := a.store.applyAll a.window (List.replicate k (.record c t.minute)) } := by
  induction k generalizing a cs with
  | zero => rfl
  | succ k ih =>
    have hstep : ((a.recordTimes c t (k + 1)).run cs).1 =
        ((((a.record c t).run cs).1.recordTimes c t k).run ((a.record c t).run cs).2).1 := rfl
    rw [hstep, ih]
    rfl

theorem recordText_run (a : Aggregator) (c raw : String) (cs : Counters) :
    ((a.recordText c raw).run cs).1 =
      { a with store := (a.store.record c ((Instant.parse? raw).getD a.now).minute a.window).1 } := by
  unfold recordText
  cases Instant.parse? raw <;> rfl

/-- A step acts on the store by its calls and keeps the window and the clock. -/
theorem step_run (a : Aggregator) (st : Step) (cs : Counters) :
    ((a.step st).run cs).1.2 = { a with store := a.store.applyAll a.window (st.ops a.now) } := by
  cases st with
  | record c t => rfl
  | recordMany c t k =>
    rw [show ((a.step (.recordMany c t k)).run cs).1.2 = ((a.recordTimes c t k).run cs).1 from rfl,
      recordTimes_run]
    simp [Step.ops, Step.events]
  | recordText c raw =>
    rw [show ((a.step (.recordText c raw)).run cs).1.2 = ((a.recordText c raw).run cs).1 from rfl,
      recordText_run]
    rfl
  | openMinute | windowMinutes | debug => rfl
  | totalSeries | categorySeries | summary => rfl

theorem afterSteps_run (a : Aggregator) (steps : List Step) (cs : Counters) :
    ((a.afterSteps steps).run cs).1 =
      { a with store := a.store.applyAll a.window (steps.flatMap (Step.ops a.now)) } := by
  induction steps generalizing a cs with
  | nil => rfl
  | cons st steps ih =>
    have hcons : ((a.afterSteps (st :: steps)).run cs).1 =
        ((((a.step st).run cs).1.2.afterSteps steps).run ((a.step st).run cs).2).1 := rfl
    rw [hcons, ih, step_run, List.flatMap_cons, Store.applyAll_append]

theorem totalSeries_run (a : Aggregator) (cs : Counters) :
    (a.totalSeries.run cs).1.1 = (a.store.rotate a.window).1.totals := rfl

theorem categorySeries_run (a : Aggregator) (cs : Counters) :
    (a.categorySeries.run cs).1.1 = (a.store.rotate a.window).1.byCategory.entries := rfl

theorem summary_run (a : Aggregator) (cs : Counters) :
    (a.summary.run cs).1.1 =
      ⟨(a.store.rotate a.window).1.totals.total,
        (a.store.rotate a.window).1.byCategory.entries.map fun kv => (kv.1, kv.2.total), a.window⟩ := rfl

end Aggregator

theorem events_flatMap_ops (now : Instant) (steps : List Step) :
    (steps.flatMap (Step.ops now)).filterMap Op.event? =
      (steps.flatMap (Step.events now)).map fun e => (e.1, e.2.minute) := by
  induction steps with
  | nil => rfl
  | cons st steps ih =>
    rw [List.flatMap_cons, List.flatMap_cons, List.filterMap_append, ih, List.map_append]
    congr 1
    cases st with
    | recordMany c t k =>
      simp only [Step.ops, Step.events, List.map_replicate]
      exact List.filterMap_replicate_of_some rfl
    | _ => simp [Step.ops, Step.events, Op.event?]

/-- After any steps the store holds the history of the events they recorded. -/
theorem models_afterSteps (w : Nat) (now : Instant) (steps : List Step) (cs : Counters) :
    ∃ h : History, h.events = countedEvents now steps ∧
      Models (max w 1) (((Aggregator.create w now).afterSteps steps).run cs).1.store h := by
  refine ⟨History.applyAll ⟨[], []⟩ (steps.flatMap (Step.ops now)), ?_, ?_⟩
  · rw [History.events_applyAll, events_flatMap_ops]
    rfl
  · rw [Aggregator.afterSteps_run]
    exact (Models.empty _).applyAll _

/-! ### Reading a store -/

theorem retained_sublist (w : Nat) (closed : List (String × Minute)) : (retained w closed).Sublist closed := by
  unfold retained
  split
  · exact List.nil_sublist _
  · exact List.filter_sublist

theorem lookup_map_snd {α β : Type} (f : α → β) (l : List (String × α)) (c : String) :
    (l.map fun kv => (kv.1, f kv.2)).lookup c = (l.lookup c).map f := by
  induction l with
  | nil => rfl
  | cons kv l ih =>
    obtain ⟨k, v⟩ := kv
    by_cases hc : c = k
    · subst hc
      simp
    · have hb : (c == k) = false := beq_false_of_ne hc
      simp only [List.map_cons, List.lookup_cons, hb]
      exact ih

namespace Models
variable {w : Nat} {s : Store} {h : History}

/-- The minutes of the retained events of any kind come in order. -/
theorem retained_ordered (hm : Models w s h) (p : String × Minute → Bool) :
    (((retained w h.closed).filter p).map (·.2)).Pairwise (· ≤ ·) :=
  hm.ordered.sublist (((List.filter_sublist.trans (retained_sublist w h.closed)).trans
    (List.sublist_append_left _ _)).map _)

theorem totals_eq (hm : Models w s h) : s.totals = Series.minuteCounts ((retained w h.closed).map (·.2)) :=
  hm.totals.eq_minuteCounts (by simpa using hm.retained_ordered fun _ => true)

/-- A category has a series exactly when it has retained events, and it is their series. -/
theorem find?_byCategory (hm : Models w s h) (c : String) :
    s.byCategory.find? c =
      if ((retained w h.closed).filter (·.1 = c)).map (·.2) = [] then none
      else some (Series.minuteCounts (((retained w h.closed).filter (·.1 = c)).map (·.2))) := by
  have hc := hm.categories.counts c
  cases hf : s.byCategory.find? c with
  | none =>
    rw [hf, Option.getD_none] at hc
    simp [(hc.nil_iff).1 rfl]
  | some ser =>
    rw [hf, Option.getD_some] at hc
    have hne : ser ≠ [] := fun he => hm.categories.ne_nil c (he ▸ hf)
    rw [if_neg fun hL => hne ((hc.nil_iff).2 hL), hc.eq_minuteCounts (hm.retained_ordered _)]

end Models

/-- The store a query reads: after the steps, with everything closed. -/
theorem models_closed (w : Nat) (now : Instant) (steps : List Step) (cs : Counters) :
    let a := (((Aggregator.create w now).afterSteps steps).run cs).1
    Models (max w 1) (a.store.rotate a.window).1 ⟨countedEvents now steps, []⟩ := by
  obtain ⟨h, hev, hm⟩ := models_afterSteps w now steps cs
  have hw : (((Aggregator.create w now).afterSteps steps).run cs).1.window = max w 1 := by
    rw [Aggregator.afterSteps_run]
    rfl
  intro a
  rw [show a.window = max w 1 from hw, ← hev]
  exact hm.rotate

/-! ### The answers -/

/-- **Reference model of the queries.** After any steps on a fresh aggregator, with `W` its
window and the recorded events counted in the latest minute seen so far, the events still in the
window are those counted after the last counted minute `M` less `W` minutes, the subtraction
stopping at the earliest representable minute. Then the open minute is `M`; the totals series
lists the distinct minutes of those events in order, each with its number of events; each
category with such events has the series of its own, and no other category has one; and the
summary gives their numbers and `W`. With no event at all every answer is empty. -/
theorem queries_match_reference (w : Nat) (now : Instant) (steps : List Step) (cs cs' : Counters) :
    let a := (((Aggregator.create w now).afterSteps steps).run cs).1
    let H := countedEvents now steps
    let kept := retained (max w 1) H
    let minutesOf := fun c : String => (kept.filter (·.1 = c)).map (·.2)
    a.openMinute = H.getLast?.map (·.2) ∧
    (a.totalSeries.run cs').1.1 = Series.minuteCounts (kept.map (·.2)) ∧
    ((a.categorySeries.run cs').1.1.Pairwise (·.1 < ·.1) ∧
      ∀ c, (a.categorySeries.run cs').1.1.lookup c =
        if minutesOf c = [] then none else some (Series.minuteCounts (minutesOf c))) ∧
    ((a.summary.run cs').1.1.totalCount = kept.length ∧
      (a.summary.run cs').1.1.window = max w 1 ∧
      (a.summary.run cs').1.1.perCategory.Pairwise (·.1 < ·.1) ∧
      ∀ c, (a.summary.run cs').1.1.perCategory.lookup c =
        if minutesOf c = [] then none else some (minutesOf c).length) := by
  intro a H kept minutesOf
  obtain ⟨h, hev, hm⟩ := models_afterSteps w now steps cs
  have hw : a.window = max w 1 := by
    show (((Aggregator.create w now).afterSteps steps).run cs).1.window = _
    rw [Aggregator.afterSteps_run]
    rfl
  have hc : Models (max w 1) (a.store.rotate a.window).1 ⟨H, []⟩ := models_closed w now steps cs
  have hcat : ∀ c, (a.store.rotate a.window).1.byCategory.find? c =
      if minutesOf c = [] then none else some (Series.minuteCounts (minutesOf c)) := hc.find?_byCategory
  refine ⟨?_, ?_, ⟨hc.categories.sorted, hcat⟩, ⟨?_, hw, ?_, fun c => ?_⟩⟩
  · show a.store.openMinute = _
    rw [hm.openMinute_eq, History.latest, hev]
  · exact hc.totals_eq
  · rw [Aggregator.summary_run, Series.Counts.total_eq hc.totals, List.length_map]
  · rw [Aggregator.summary_run]
    exact List.pairwise_map.2 hc.categories.sorted
  · rw [Aggregator.summary_run, lookup_map_snd (fun s : Series => s.total)]
    show ((a.store.rotate a.window).1.byCategory.find? c).map _ = _
    rw [hcat]
    split_ifs with hL
    · rfl
    · rw [Option.map_some, (Series.counts_minuteCounts (hc.retained_ordered _)).total_eq]

/-- The cutoff stops at the earliest representable minute: one event there, in a window of
three minutes, is evicted by the close of the first query, although it is later than its own
minute less three minutes, which would keep it. -/
theorem summary_evicts_earliest_minute :
    let steps := [Step.recordText "a" "-8334601228800"]
    let a := (((Aggregator.create 3 (Instant.ofSecs 0)).afterSteps steps).run {}).1
    let H := countedEvents (Instant.ofSecs 0) steps
    (a.summary.run {}).1.1.totalCount = 0 ∧
      (H.filter fun e => H.getLast?.any fun l => decide (l.2.index - 3 < e.2.index)).length = 1 := by
  decide

/-- Closing twice closes once: the second close finds an empty bucket. -/
theorem rotate_rotate (s : Store) (w : Nat) : (s.rotate w).1.rotate w = ((s.rotate w).1, Rotation.idle) := by
  cases hopen : s.openMinute with
  | none => rw [Store.rotate_of_none hopen, Store.rotate_of_none hopen]
  | some m =>
    by_cases ht : s.bucketTotal = 0
    · rw [Store.rotate_of_zero ht, Store.rotate_of_zero ht]
    · rw [Store.rotate_fst hopen ht]
      exact Store.rotate_of_zero rfl w

/-- **Placement of the queries does not matter.** Closing twice changes nothing, and two
sessions on a fresh aggregator that record the same events in the same order, with queries
placed anywhere, reach the same store once closed, so that a query after them answers the same
in both. -/
theorem close_independent_of_queries (w : Nat) (now : Instant) :
    (∀ (s : Store) (w : Nat), (s.rotate w).1.rotate w = ((s.rotate w).1, Rotation.idle)) ∧
    ∀ (steps₁ steps₂ : List Step) (cs₁ cs₂ cs₁' cs₂' : Counters),
      steps₁.flatMap (Step.events now) = steps₂.flatMap (Step.events now) →
      let a₁ := (((Aggregator.create w now).afterSteps steps₁).run cs₁).1
      let a₂ := (((Aggregator.create w now).afterSteps steps₂).run cs₂).1
      (a₁.close.run cs₁').1.store = (a₂.close.run cs₂').1.store ∧
      (a₁.totalSeries.run cs₁').1.1 = (a₂.totalSeries.run cs₂').1.1 ∧
      (a₁.categorySeries.run cs₁').1.1 = (a₂.categorySeries.run cs₂').1.1 ∧
      (a₁.summary.run cs₁').1.1 = (a₂.summary.run cs₂').1.1 := by
  refine ⟨rotate_rotate, fun steps₁ steps₂ cs₁ cs₂ cs₁' cs₂' hsame => ?_⟩
  intro a₁ a₂
  have hw : ∀ (steps : List Step) (cs : Counters),
      (((Aggregator.create w now).afterSteps steps).run cs).1.window = max w 1 := by
    intro steps cs
    rw [Aggregator.afterSteps_run]
    rfl
  have hH : countedEvents now steps₁ = countedEvents now steps₂ := by
    rw [countedEvents, countedEvents, hsame]
  have hstore : (a₁.store.rotate a₁.window).1 = (a₂.store.rotate a₂.window).1 := by
    have h₁ := models_closed w now steps₁ cs₁
    have h₂ := models_closed w now steps₂ cs₂
    rw [hH] at h₁
    exact h₁.unique h₂
  have hwin : a₁.window = a₂.window := (hw steps₁ cs₁).trans (hw steps₂ cs₂).symm
  refine ⟨hstore, ?_, ?_, ?_⟩
  · rw [Aggregator.totalSeries_run, Aggregator.totalSeries_run, hstore]
  · rw [Aggregator.categorySeries_run, Aggregator.categorySeries_run, hstore]
  · rw [Aggregator.summary_run, Aggregator.summary_run, hstore, hwin]

end MinuteWindow.Window

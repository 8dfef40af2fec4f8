import Mathlib
import MinuteWindow.Proofs.Window.Eviction

/-! Counts never exceed the number of recorded events.

Every count a store holds is a number of recorded events: the bucket counts the pending events,
the totals series counts the closed events still in the window, by minute, and each category's
series counts those of its category. A store that holds a history therefore keeps the bucket total
and the totals' sum within the events of the history (`Models.bucketTotal_add_total_le`), and
every series within its closed events (`Models.series_total_le`). The pushes of a close, which
merge the bucket into the last entry of a series before anything is evicted, stay within all the
events (`Models.pushBucket_total_le`).

`counts_bounded_by_records`: after any session, with `n` events recorded, the bucket total plus
the sum of the totals is at most `n`, and so is every bucket count, every entry of a series, every
entry a close pushes or merges, and every sum the summary adds up. Each of these numbers is the
result of one of the additions the store makes (a bucket increment, a merge into the last entry,
a running sum of a summary), so a run of fewer than `2 ^ 64` records keeps them all below
`2 ^ 64`. -/

namespace MinuteWindow.Window
open Time Telemetry

/-! ### Counted events -/

theorem length_countedFrom (h evs : List (String × Minute)) :
    (countedFrom h evs).length = h.length + evs.length := by
  induction evs generalizing h with
  | nil => rfl
  | cons e evs ih =>
    obtain ⟨c, k⟩ := e
    rw [countedFrom_cons, ih, List.length_append, List.length_singleton, List.length_cons]
    omega

theorem length_countedEvents (now : Instant) (steps : List Step) :
    (countedEvents now steps).length = (steps.flatMap (Step.events now)).length := by
  rw [countedEvents, counted, length_countedFrom, List.length_map, List.length_nil, Nat.zero_add]

theorem Series.count_le_total {ser : Series} {e : Entry} (he : e ∈ ser) : e.count ≤ ser.total := by
  rw [Series.total_eq_sum]
  exact List.le_sum_of_mem (List.mem_map_of_mem he)

/-! ### The counts of a store that holds a history -/

namespace Models
variable {w : Nat} {s : Store} {h : History}

/-- A series that counts the minutes of some retained events adds up to at most the closed
events. -/
theorem counts_total_le {ser : Series} {p : String × Minute → Bool}
    (hc : ser.Counts (((retained w h.closed).filter p).map (·.2))) : ser.total ≤ h.closed.length := by
  rw [hc.total_eq, List.length_map]
  exact (List.filter_sublist.trans (retained_sublist w h.closed)).length_le

theorem series_total_le (hm : Models w s h) {ser : Series} (hser : ser ∈ s.series) :
    ser.total ≤ h.closed.length :=
  (hm.counts_of_mem_series hser).elim fun _ hc => counts_total_le hc

theorem bucketTotal_add_total_le (hm : Models w s h) : s.bucketTotal + s.totals.total ≤ h.events.length := by
  have htot := hm.series_total_le (List.mem_cons_self : s.totals ∈ s.series)
  rw [hm.bucketTotal, History.events, List.length_append]
  omega

theorem bucket_le (hm : Models w s h) {k : Nat} (hk : k ∈ s.bucket.values) : k ≤ h.pending.length := by
  rw [← hm.bucket.sum_values]
  exact List.le_sum_of_mem hk

/-- Every retained minute is at or before the open minute. -/
theorem retained_le_open (hm : Models w s h) {m : Minute} (hopen : s.openMinute = some m)
    (p : String × Minute → Bool) : ∀ x ∈ ((retained w h.closed).filter p).map (·.2), x ≤ m := by
  have hl : h.latest = some m := hm.openMinute_eq ▸ hopen
  intro x hx
  obtain ⟨e, he, rfl⟩ := List.mem_map.1 hx
  exact hm.le_latest hl e (List.mem_append_left _ (mem_of_mem_retained (List.mem_of_mem_filter he)))

/-- The totals take the bucket total, which is the number of pending events. -/
theorem pushBucket_totals_total_le (hm : Models w s h) {m : Minute} (hopen : s.openMinute = some m) :
    (s.pushBucket m).totals.total ≤ h.events.length := by
  have hc := hm.totals.closeInto (by simpa using hm.retained_le_open hopen fun _ => true) s.bucketTotal
  have hold := counts_total_le (p := fun _ => true) (by simpa using hm.totals)
  rw [show (s.pushBucket m).totals = closeInto s.totals m s.bucketTotal from rfl, hc.total_eq,
    List.length_append, List.length_replicate, hm.bucketTotal, ← hm.totals.total_eq, History.events,
    List.length_append]
  omega

/-- A category's series takes its own count in the bucket, if any. -/
theorem pushBucket_find?_total_le (hm : Models w s h) {m : Minute} (hopen : s.openMinute = some m)
    {c : String} {ser : Series} (hfind : (s.pushBucket m).byCategory.find? c = some ser) :
    ser.total ≤ h.events.length := by
  rw [Store.pushBucket, Store.foldl_pushCategory_find? m hm.bucket.sorted hm.categories.sorted] at hfind
  have hk : (s.bucket.entries.lookup c).getD 0 = h.pending.countP (·.1 = c) := hm.bucket.count_eq c
  have hcount := h.pending.countP_le_length (p := fun e => decide (e.1 = c))
  have hevents : h.events.length = h.closed.length + h.pending.length := by
    rw [History.events, List.length_append]
  have hc := hm.categories.counts c
  split_ifs at hfind
  · -- no event of the category in the bucket: the series is the one held
    have hold := counts_total_le (by simpa [hfind] using hc)
    omega
  · cases hfind
    rw [((hc.closeInto (hm.retained_le_open hopen _)) _).total_eq, List.length_append,
      List.length_replicate, hk, ← hc.total_eq]
    have hold := counts_total_le hc
    omega

/-- The series a close pushes the bucket into, before it evicts anything, add up to at most all
the events: each one counts some retained events and some pending ones. -/
theorem pushBucket_total_le (hm : Models w s h) {m : Minute} (hopen : s.openMinute = some m)
    {ser : Series} (hser : ser ∈ (s.pushBucket m).series) : ser.total ≤ h.events.length := by
  rcases List.mem_cons.1 hser with rfl | hcat
  · exact hm.pushBucket_totals_total_le hopen
  · have hsorted := @Store.foldl_pushCategory_sorted m s.bucket.entries
      (s.byCategory, { minute := some m }) hm.categories.sorted
    obtain ⟨⟨c, v⟩, hcv, rfl⟩ := List.mem_map.1 hcat
    exact hm.pushBucket_find?_total_le hopen ((Keyed.find?_eq_some_iff hsorted).2 hcv)

end Models

/-! ### After any session -/

/-- **Counts stay within the records.** After any session on a fresh aggregator that records `n`
events in all, the bucket total plus the sum of the totals series is at most `n`; so is every
count of the bucket and every entry of a series, every entry a close pushes or merges before it
evicts, and the total and each per-category total of the summary. -/
theorem counts_bounded_by_records (w : Nat) (now : Instant) (steps : List Step) (cs cs' : Counters) :
    let a := (((Aggregator.create w now).afterSteps steps).run cs).1
    let n := (steps.flatMap (Step.events now)).length
    a.store.bucketTotal + a.store.totals.total ≤ n ∧
    (∀ k ∈ a.store.bucket.values, k ≤ n) ∧
    (∀ ser ∈ a.store.series, ∀ e ∈ ser, e.count ≤ n) ∧
    (∀ m, a.store.openMinute = some m → ∀ ser ∈ (a.store.pushBucket m).series, ∀ e ∈ ser, e.count ≤ n) ∧
    (a.summary.run cs').1.1.totalCount ≤ n ∧ ∀ kv ∈ (a.summary.run cs').1.1.perCategory, kv.2 ≤ n := by
  intro a n
  obtain ⟨h, hev, hm⟩ := models_afterSteps w now steps cs
  have hn : h.events.length = n := by rw [hev, length_countedEvents]
  have hevents : h.events.length = h.closed.length + h.pending.length := by
    rw [History.events, List.length_append]
  -- the summary reads the store closed once more, which holds all the events as closed ones
  have hc := models_closed w now steps cs
  have hclosed : ∀ ser ∈ (a.store.rotate a.window).1.series, ser.total ≤ n := fun ser hser => by
    have := hc.series_total_le hser
    rwa [length_countedEvents] at this
  refine ⟨hn ▸ hm.bucketTotal_add_total_le, fun k hk => ?_, fun ser hser e he => ?_,
    fun m hopen ser hser e he => ?_, ?_, fun kv hkv => ?_⟩
  · have := hm.bucket_le hk
    omega
  · have := Series.count_le_total he
    have := hm.series_total_le hser
    omega
  · have := Series.count_le_total he
    have := hm.pushBucket_total_le hopen hser
    omega
  · rw [Aggregator.summary_run]
    exact hclosed _ List.mem_cons_self
  · rw [Aggregator.summary_run] at hkv
    obtain ⟨⟨c, ser⟩, hcs, rfl⟩ := List.mem_map.1 hkv
    exact hclosed ser (List.mem_cons_of_mem _ (List.mem_map_of_mem hcs))

end MinuteWindow.Window

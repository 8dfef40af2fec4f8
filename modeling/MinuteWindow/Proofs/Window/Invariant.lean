import Mathlib
import MinuteWindow.Proofs.Window.Queries
/-! The store's representation invariant.

`Store.WellFormed w s` is what every store reached in a window of `w` minutes satisfies: the open
bucket's total is the sum of its counts, all positive, and the bucket is empty while no minute is
open; the totals and every category's series are strictly ascending on minute-aligned keys with
positive counts, and no category keeps an empty series; every entry lies in the `w` minutes that
end at the last minute of the totals; at each minute the totals count is the categories' counts
added up, and every minute of a category occurs in the totals.

No field needs an induction of its own over the operations: `Models.wellFormed` reads each one
off the history the store holds, and `Models.applyAll` carries that history through every run.
The bounds on the lengths of the series and the summary's sum follow. -/
namespace MinuteWindow.Time.Minute

/-- A minute starts at second 0 with no nanoseconds. -/
theorem start_aligned (m : Minute) : m.start.secondOfMinute = 0 ∧ m.start.nanos = 0 := by
  simp [Minute.start, Instant.secondOfMinute, Instant.ofSecs]

end MinuteWindow.Time.Minute

namespace MinuteWindow.Window
open Time Telemetry

/-- The series a store keeps: the totals, then each category's series. -/
def Store.series (s : Store) : List Series := s.totals :: s.byCategory.values

/-- What every store reached in a window of `w` minutes satisfies. -/
structure Store.WellFormed (w : Nat) (s : Store) : Prop where
  bucketTotal_eq : s.bucketTotal = s.bucket.values.sum
  bucket_pos : ∀ n ∈ s.bucket.values, 0 < n
  bucket_empty : s.openMinute = none → s.bucket.entries = []
  ascending : ∀ ser ∈ s.series, ser.Pairwise (·.minute < ·.minute)
  aligned : ∀ ser ∈ s.series, ∀ e ∈ ser, e.minute.start.secondOfMinute = 0 ∧ e.minute.start.nanos = 0
  positive : ∀ ser ∈ s.series, ∀ e ∈ ser, 0 < e.count
  category_ne_nil : [] ∉ s.byCategory.values
  /-- Every entry lies in the `w` minutes that end at the last minute `T` of the totals. -/
  within : ∀ T, s.totals.getLast?.map (·.minute) = some T →
    ∀ ser ∈ s.series, ∀ e ∈ ser, T.index - w < e.minute.index ∧ e.minute ≤ T
  totals_countAt : ∀ m, s.totals.countAt m = (s.byCategory.values.map (·.countAt m)).sum
  covered : ∀ ser ∈ s.byCategory.values, ∀ e ∈ ser, ∃ t ∈ s.totals, t.minute = e.minute

/-! ### Counting events by name -/

theorem sum_ite_eq_count (K : List String) (a : String) :
    (K.map fun c => if a = c then 1 else 0).sum = K.count a := by
  induction K with
  | nil => rfl
  | cons c K ih =>
    rw [List.map_cons, List.sum_cons, ih, List.count_cons]
    by_cases h : a = c
    · subst h
      simp [Nat.add_comm]
    · simp [h, Ne.symm h]

/-- Counting the events of each name of a list of distinct names, and adding up, counts every
event whose name is in the list. -/
theorem sum_countP_names {β : Type} {K : List String} (hK : K.Nodup) (p : String × β → Bool)
    {L : List (String × β)} (hcover : ∀ e ∈ L, p e → e.1 ∈ K) :
    (K.map fun c => L.countP fun e => e.1 = c && p e).sum = L.countP p := by
  induction L with
  | nil => simp
  | cons x L ih =>
    simp only [List.countP_cons, List.sum_map_add]
    rw [ih fun e he => hcover e (List.mem_cons_of_mem x he)]
    -- the event `x` is counted under its own name only
    by_cases hx : p x
    · simp [hx, sum_ite_eq_count, List.count_eq_one_of_mem hK (hcover x List.mem_cons_self hx)]
    · simp [hx]

theorem BucketOf.mem_keys {b : Keyed Nat} {pending : List (String × Minute)} (hb : BucketOf b pending)
    {e : String × Minute} (he : e ∈ pending) : e.1 ∈ b.keys := by
  have hpos : 0 < pending.countP (·.1 = e.1) := List.countP_pos_iff.2 ⟨e, he, by simp⟩
  cases hf : b.find? e.1 with
  | none =>
    have hc := hb.count_eq e.1
    rw [hf, Option.getD_none] at hc
    omega
  | some n => exact Keyed.mem_keys_of_find? hb.sorted hf

/-- The bucket's counts add up to the number of pending events. -/
theorem BucketOf.sum_values {b : Keyed Nat} {pending : List (String × Minute)} (hb : BucketOf b pending) :
    b.values.sum = pending.length := by
  calc b.values.sum = (b.values.map fun n => n).sum := by rw [List.map_id']
    _ = (b.keys.map fun c => pending.countP fun e => e.1 = c && true).sum :=
        Keyed.sum_values hb.sorted _ _ fun c n hn => by simpa [hn] using hb.count_eq c
    _ = pending.countP fun _ => true :=
        sum_countP_names (Keyed.keys_nodup hb.sorted) _ fun e he _ => hb.mem_keys he
    _ = pending.length := congrFun List.countP_true pending

/-- A retained event lies in the window that ends at the last closed minute. -/
theorem retained_within {w : Nat} {closed : List (String × Minute)}
    (hord : (closed.map (·.2)).Pairwise (· ≤ ·)) {e : String × Minute} (he : e ∈ retained w closed) :
    ∃ last ∈ closed.getLast?, last.2.back w < e.2 ∧ e.2 ≤ last.2 := by
  unfold retained at he
  split at he
  · cases he
  · rename_i c m hl
    refine ⟨(c, m), hl, ?_, le_of_getLast? hord hl (List.mem_of_mem_filter he)⟩
    simpa using (List.mem_filter.1 he).2

/-! ### The invariant of a store that holds a history -/

namespace Models
variable {w : Nat} {s : Store} {h : History}

theorem closed_ordered (hm : Models w s h) : (h.closed.map (·.2)).Pairwise (· ≤ ·) :=
  hm.ordered.sublist ((List.sublist_append_left _ _).map _)

theorem mem_keys_of_retained (hm : Models w s h) {e : String × Minute} (he : e ∈ retained w h.closed) :
    e.1 ∈ s.byCategory.keys := by
  have hne : ((retained w h.closed).filter (·.1 = e.1)).map (·.2) ≠ [] :=
    List.ne_nil_of_mem (List.mem_map_of_mem (List.mem_filter.2 ⟨he, by simp⟩))
  have hfind := hm.find?_byCategory e.1
  rw [if_neg hne] at hfind
  exact Keyed.mem_keys_of_find? hm.categories.sorted hfind

theorem counts_of_mem_values (hm : Models w s h) {ser : Series} (hser : ser ∈ s.byCategory.values) :
    ∃ c, ser.Counts (((retained w h.closed).filter (·.1 = c)).map (·.2)) := by
  obtain ⟨⟨c, v⟩, hcv, rfl⟩ := List.mem_map.1 hser
  have hc := hm.categories.counts c
  rw [(Keyed.find?_eq_some_iff hm.categories.sorted).2 hcv, Option.getD_some] at hc
  exact ⟨c, hc⟩

/-- Each series of the store counts the minutes of the retained events that pass some test. -/
theorem counts_of_mem_series (hm : Models w s h) {ser : Series} (hser : ser ∈ s.series) :
    ∃ p : String × Minute → Bool, ser.Counts (((retained w h.closed).filter p).map (·.2)) := by
  rcases List.mem_cons.1 hser with rfl | hser
  · exact ⟨fun _ => true, by simpa using hm.totals⟩
  · obtain ⟨c, hc⟩ := hm.counts_of_mem_values hser
    exact ⟨fun e => e.1 = c, hc⟩

/-- What the categories' series count, added up, is what the retained minutes count. -/
theorem sum_categories (hm : Models w s h) (f : Series → Nat) (q : Minute → Bool)
    (hf : ∀ ser L, ser.Counts L → f ser = L.countP q) :
    (s.byCategory.values.map f).sum = ((retained w h.closed).map (·.2)).countP q := by
  rw [Keyed.sum_values hm.categories.sorted f fun c => (retained w h.closed).countP fun e => e.1 = c && q e.2]
  · rw [List.countP_map]
    exact sum_countP_names (Keyed.keys_nodup hm.categories.sorted) _ fun e he _ => hm.mem_keys_of_retained he
  · intro c ser hfind
    have hc := hm.categories.counts c
    rw [hfind, Option.getD_some] at hc
    rw [hf ser _ hc, List.countP_map, List.countP_filter]
    exact List.countP_congr fun e _ => by simp [and_comm]

theorem total_eq_sum (hm : Models w s h) : s.totals.total = (s.byCategory.values.map Series.total).sum := by
  rw [hm.sum_categories Series.total (fun _ => true) fun ser L hc => by rw [hc.total_eq, List.countP_true],
    hm.totals.total_eq, List.countP_true]

/-- Every entry lies in the `w` minutes that end at the last minute of the totals. -/
theorem within (hm : Models w s h) (T : Minute) (hT : s.totals.getLast?.map (·.minute) = some T) :
    ∀ ser ∈ s.series, ∀ e ∈ ser, T.index - w < e.minute.index ∧ e.minute ≤ T := by
  intro ser hser e he
  obtain ⟨t, ht, rfl⟩ := Option.map_eq_some_iff.1 hT
  -- `e` and the last entry `t` of the totals both sit at minutes of retained events
  obtain ⟨p, hc⟩ := hm.counts_of_mem_series hser
  obtain ⟨x, hx, hxe⟩ := List.mem_map.1 (hc.minute_mem he)
  obtain ⟨y, hy, hyt⟩ := List.mem_map.1 (hm.totals.minute_mem (List.mem_of_getLast? ht))
  obtain ⟨last, hlast, hcut, -⟩ := retained_within hm.closed_ordered (List.mem_of_mem_filter hx)
  obtain ⟨last', hlast', -, hle⟩ := retained_within hm.closed_ordered hy
  obtain rfl : last' = last := Option.some_injective _ (hlast'.symm.trans hlast)
  constructor
  · -- the cutoff is at least `w` minutes before the last closed minute, which is not before `t`
    rw [← hxe, ← hyt]
    have hmax := le_max_left (last'.2.index - w) Minute.first.index
    simp only [Minute.back, Minute.lt_iff, Minute.le_iff] at hcut hle
    omega
  · -- the totals have an entry at the minute of `e`, which is at or before their last one
    obtain ⟨t', ht', ht'e⟩ := hm.totals.exists_mem (List.mem_map_of_mem (f := (·.2)) (List.mem_of_mem_filter hx))
    have hasc : (s.totals.map (·.minute)).Pairwise (· ≤ ·) :=
      List.pairwise_map.2 (hm.totals.ascending.imp fun hlt => Minute.le_iff.2 (Int.le_of_lt hlt))
    rw [← hxe, ← ht'e]
    exact le_of_getLast? hasc ht ht'

/-- A store that holds a history is well formed. -/
theorem wellFormed (hm : Models w s h) : s.WellFormed w where
  bucketTotal_eq := by rw [hm.bucketTotal, hm.bucket.sum_values]
  bucket_pos := by
    intro n hn
    obtain ⟨⟨c, n⟩, hcn, rfl⟩ := List.mem_map.1 hn
    have hne := hm.bucket.ne_zero c
    rw [(Keyed.find?_eq_some_iff hm.bucket.sorted).2 hcn] at hne
    exact Nat.pos_of_ne_zero fun h0 => hne (congrArg some h0)
  bucket_empty := by
    intro hnone
    have hpend : h.pending = [] := (History.latest_eq_none.1 (hm.openMinute_eq ▸ hnone)).2
    have hb := hm.bucket
    rw [hpend] at hb
    refine List.eq_nil_iff_forall_not_mem.2 fun ⟨c, n⟩ hcn => ?_
    have hnone' := hb.find?_eq_none c
    rw [(Keyed.find?_eq_some_iff hb.sorted).2 hcn] at hnone'
    cases hnone'
  ascending := fun _ hser => (hm.counts_of_mem_series hser).elim fun _ hc => hc.ascending
  aligned := fun _ _ e _ => e.minute.start_aligned
  positive := fun _ hser => (hm.counts_of_mem_series hser).elim fun _ hc => hc.positive
  category_ne_nil := by
    intro hnil
    obtain ⟨⟨c, v⟩, hcv, hv⟩ := List.mem_map.1 hnil
    have hv : v = [] := hv
    exact hm.categories.ne_nil c ((Keyed.find?_eq_some_iff hm.categories.sorted).2 (hv ▸ hcv))
  within := hm.within
  totals_countAt := fun m => by
    rw [hm.totals.countAt_eq, hm.sum_categories _ (· == m) fun ser L hc => by
      rw [hc.countAt_eq, List.count_eq_countP], List.count_eq_countP]
  covered := fun ser hser e he => by
    obtain ⟨c, hc⟩ := hm.counts_of_mem_values hser
    obtain ⟨x, hx, hxe⟩ := List.mem_map.1 (hc.minute_mem he)
    exact hxe ▸ hm.totals.exists_mem (List.mem_map_of_mem (List.mem_of_mem_filter hx))

end Models

/-! ### Consequences -/

/-- A strictly ascending series with all its minutes in `(T - w, T]` has at most `w` entries. -/
theorem length_le_of_within {ser : Series} (hasc : ser.Pairwise (·.minute < ·.minute)) {T : Minute}
    {w : Nat} (hin : ∀ e ∈ ser, T.index - w < e.minute.index ∧ e.minute ≤ T) : ser.length ≤ w := by
  -- the minutes are distinct integers in an interval of `w` integers
  have hnodup : (ser.map (·.minute.index)).Nodup := List.pairwise_map.2 (hasc.imp Int.ne_of_lt)
  have hsub : (ser.map (·.minute.index)).toFinset ⊆ Finset.Ioc (T.index - w) T.index := by
    intro x hx
    obtain ⟨e, he, rfl⟩ := List.mem_map.1 (List.mem_toFinset.1 hx)
    exact Finset.mem_Ioc.2 (hin e he)
  calc ser.length = (ser.map (·.minute.index)).toFinset.card := by
        rw [List.toFinset_card_of_nodup hnodup, List.length_map]
    _ ≤ (Finset.Ioc (T.index - w) T.index).card := Finset.card_le_card hsub
    _ = w := by simp

/-- Every series of a well-formed store has at most `w` entries. -/
theorem Store.WellFormed.length_le {w : Nat} {s : Store} (hw : s.WellFormed w) :
    ∀ ser ∈ s.series, ser.length ≤ w := by
  intro ser hser
  cases hT : s.totals.getLast?.map (·.minute) with
  | some T => exact length_le_of_within (hw.ascending ser hser) (hw.within T hT ser hser)
  | none =>
    -- with no totals there is no entry anywhere
    have htot : s.totals = [] := by simpa using hT
    rcases List.mem_cons.1 hser with rfl | hcat
    · simp [htot]
    · have hnil : ser = [] := List.eq_nil_iff_forall_not_mem.2 fun e he => by
        obtain ⟨t, ht, -⟩ := hw.covered ser hcat e he
        simp [htot] at ht
      simp [hnil]

/-- **Representation invariant.** Every store reached from the empty one by records and closes in
a window of `w` minutes is well formed; so each of its series has at most `w` entries, and the
totals add up to the categories' totals. The summary, which reads such a store after a close,
gives a total that is the sum of its per-category totals. -/
theorem store_wellFormed (w : Nat) :
    (∀ ops : List Op,
      let s := ({} : Store).applyAll w ops
      s.WellFormed w ∧ (∀ ser ∈ s.series, ser.length ≤ w) ∧
        s.totals.total = (s.byCategory.values.map Series.total).sum) ∧
    ∀ (now : Instant) (steps : List Step) (cs cs' : Counters),
      let r := ((((Aggregator.create w now).afterSteps steps).run cs).1.summary.run cs').1.1
      r.totalCount = (r.perCategory.map (·.2)).sum := by
  refine ⟨fun ops => ?_, fun now steps cs cs' => ?_⟩
  · have hm := (Models.empty w).applyAll ops
    exact ⟨hm.wellFormed, hm.wellFormed.length_le, hm.total_eq_sum⟩
  · have hc := models_closed w now steps cs
    simp only [Aggregator.summary_run, List.map_map]
    rw [hc.total_eq_sum, Keyed.values, List.map_map]
    rfl

end MinuteWindow.Window

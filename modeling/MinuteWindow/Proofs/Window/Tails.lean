import Mathlib
import MinuteWindow.Proofs.Window.Eviction
/-! The open minute only moves forward, and no close refuses a push.

A record opens its event's minute only when that minute is later than the open one, and a close
leaves the open minute where it is, so the open minute never moves back
(`Store.openMinute_le_apply`). Every entry of a series was closed at an earlier open minute, so in
every store that holds a history each series ends at or before the open minute
(`Models.minute_le_open`). A push at the open minute is refused only when the series ends later
(`Series.push?_isSome`); so a close refuses nothing, whether a record makes it or a query
(`Models.rotate_dropped`), and the report of refused entries, made only when a close counts one,
is never made.

`closes_never_drop`: along every run the open minute never moves back, every series ends at or
before it, every push at it succeeds, and every close, in a store or in an aggregator, refuses
nothing. -/
namespace MinuteWindow.Window
open Time Telemetry

/-! ### The open minute -/

namespace Store

@[simp] theorem countEvent_openMinute (s : Store) (c : String) :
    (s.countEvent c).openMinute = s.openMinute := rfl

/-- A close keeps the open minute open. -/
@[simp] theorem rotate_openMinute (s : Store) (w : Nat) : (s.rotate w).1.openMinute = s.openMinute := by
  cases hm : s.openMinute with
  | none => rw [rotate_of_none hm]; exact hm
  | some m =>
    by_cases ht : s.bucketTotal = 0
    · rw [rotate_of_zero ht]; exact hm
    · rw [rotate_fst hm ht]
      exact hm

/-- The open minute never moves back: a record moves it to a later minute or keeps it, and a
close keeps it. -/
theorem openMinute_le_apply (s : Store) (w : Nat) (op : Op) {o : Minute} (h : s.openMinute = some o) :
    ∃ o', (s.apply w op).openMinute = some o' ∧ o ≤ o' := by
  cases op with
  | close => exact ⟨o, by simp [apply, h], Minute.le_iff.2 (Int.le_refl _)⟩
  | record c k =>
    by_cases hk : o < k
    · exact ⟨k, by simp [apply, record_of_lt h hk], Minute.le_iff.2 (Int.le_of_lt hk)⟩
    · exact ⟨o, by simp [apply, record_of_not_lt h hk, h], Minute.le_iff.2 (Int.le_refl _)⟩

end Store

/-! ### Tails at or before the open minute -/

/-- Every entry of every series a store keeps is at or before the open minute. -/
theorem Models.minute_le_open {w : Nat} {s : Store} {h : History} (hm : Models w s h) :
    ∀ ser ∈ s.series, ∀ e ∈ ser, ∃ o, s.openMinute = some o ∧ e.minute ≤ o := by
  intro ser hser e he
  -- the entry sits at the minute of a retained event, which is a counted event
  obtain ⟨p, hc⟩ := hm.counts_of_mem_series hser
  obtain ⟨x, hx, hxe⟩ := List.mem_map.1 (hc.minute_mem he)
  have hev : x ∈ h.events :=
    List.mem_append_left _ (mem_of_mem_retained (List.mem_of_mem_filter hx))
  obtain ⟨last, hlast⟩ := List.getLast?_isSome.2 (List.ne_nil_of_mem hev) |> Option.isSome_iff_exists.1
  have hl : h.latest = some last.2 := by simp [History.latest, hlast]
  refine ⟨last.2, hm.openMinute_eq.trans hl, ?_⟩
  rw [← hxe]
  exact hm.le_latest hl x hev

namespace Series

/-- A push at a minute no earlier than the last entry succeeds: it merges into that entry or
appends after it. -/
theorem push?_isSome {s : Series} {m : Minute} (k : Nat) (h : ∀ e ∈ s.getLast?, e.minute ≤ m) :
    (s.push? m k).isSome := by
  unfold push?
  cases hl : s.getLast? with
  | none => rfl
  | some last =>
    have hle : last.minute ≤ m := h last hl
    simp only
    split_ifs with heq hlt
    · rfl
    · exact absurd hle (by simp only [Minute.lt_iff, Minute.le_iff] at hlt ⊢; omega)
    · rfl

/-- A push at `m` into a series at or before `m` gives a series at or before `m`. -/
theorem push?_le {s t : Series} {m : Minute} {k : Nat} (hs : ∀ e ∈ s, e.minute ≤ m)
    (ht : s.push? m k = some t) : ∀ e ∈ t, e.minute ≤ m := by
  have hm : m ≤ m := Minute.le_iff.2 (Int.le_refl m.index)
  unfold push? at ht
  split at ht
  · cases ht
    simpa using hm
  · split_ifs at ht
    · cases ht
      intro e he
      rcases List.mem_append.1 he with he | he
      · exact hs e (List.dropLast_subset _ he)
      · rw [List.mem_singleton.1 he]
        exact hm
    · cases ht
      intro e he
      rcases List.mem_append.1 he with he | he
      · exact hs e he
      · rw [List.mem_singleton.1 he]
        exact hm

end Series

/-! ### Closes refuse nothing -/

/-- Every series of a keyed map is at or before `m`. -/
def AtOrBefore (m : Minute) (series : Keyed Series) : Prop := ∀ e ∈ series.entries, ∀ x ∈ e.2, x.minute ≤ m

namespace Store

/-- A category's push at `m` into series at or before `m` succeeds and keeps them so. -/
theorem pushCategory_atOrBefore {m : Minute} {acc : Keyed Series × Rotation} (h : AtOrBefore m acc.1)
    (kv : String × Nat) :
    AtOrBefore m (pushCategory m acc kv).1 ∧ (pushCategory m acc kv).2.dropped = acc.2.dropped := by
  obtain ⟨series, rot⟩ := acc
  obtain ⟨c, n⟩ := kv
  -- the series pushed into is the one found under the category, or a new empty one
  have hold : ∀ x ∈ (series.find? c).getD [], x.minute ≤ m := by
    cases hf : series.find? c with
    | none => simp
    | some v => exact h _ (mem_of_lookup_eq_some hf)
  obtain ⟨t, ht⟩ := Option.isSome_iff_exists.1
    (Series.push?_isSome n fun e he => hold e (List.mem_of_getLast? he))
  simp only [pushCategory]
  split_ifs
  · exact ⟨h, rfl⟩
  · rw [ht]
    refine ⟨fun e he => ?_, rfl⟩
    rcases Keyed.mem_alterList_const he with rfl | he
    · exact Series.push?_le hold ht
    · exact h e he

theorem foldl_pushCategory_atOrBefore {m : Minute} (l : List (String × Nat)) {acc : Keyed Series × Rotation}
    (h : AtOrBefore m acc.1) : (l.foldl (pushCategory m) acc).2.dropped = acc.2.dropped := by
  induction l generalizing acc with
  | nil => rfl
  | cons kv l ih =>
    obtain ⟨hnext, hdrop⟩ := pushCategory_atOrBefore h kv
    rw [List.foldl_cons, ih hnext, hdrop]

/-- A close refuses what its pushes of the categories refuse, and the push of the total if the
totals refuse it. -/
theorem rotate_dropped_eq {s : Store} {m : Minute} (hm : s.openMinute = some m) (ht : s.bucketTotal ≠ 0)
    (w : Nat) :
    (s.rotate w).2.dropped =
      (s.bucket.entries.foldl (pushCategory m) (s.byCategory, { minute := some m })).2.dropped +
        if (s.totals.push? m s.bucketTotal).isSome then 0 else 1 := by
  unfold rotate
  simp only [hm, ht, if_false]
  split <;> rename_i hp <;> simp [hp]

end Store

namespace Models
variable {w : Nat} {s : Store} {h : History}

/-- A close of a store that holds a history refuses nothing. -/
theorem rotate_dropped (hm : Models w s h) (w' : Nat) : (s.rotate w').2.dropped = 0 := by
  cases hopen : s.openMinute with
  | none => rw [Store.rotate_of_none hopen]; rfl
  | some m =>
    by_cases ht : s.bucketTotal = 0
    · rw [Store.rotate_of_zero ht]; rfl
    · -- every series, the totals included, ends at or before the minute being closed
      have hle : ∀ ser ∈ s.series, ∀ e ∈ ser, e.minute ≤ m := fun ser hser e he => by
        obtain ⟨o, ho, hle⟩ := hm.minute_le_open ser hser e he
        rw [hopen] at ho
        exact Option.some_injective _ ho ▸ hle
      have hcat : AtOrBefore m s.byCategory := fun e he =>
        hle e.2 (List.mem_cons_of_mem _ (List.mem_map_of_mem he))
      have htot := Series.push?_isSome s.bucketTotal fun e he =>
        hle s.totals List.mem_cons_self e (List.mem_of_getLast? he)
      rw [Store.rotate_dropped_eq hopen ht, Store.foldl_pushCategory_atOrBefore _ hcat, if_pos htot]

/-- No call on a store that holds a history refuses anything: a record closes, if at all, as a
query does. -/
theorem call_dropped (hm : Models w s h) (w' : Nat) (op : Op) : (s.call w' op).2.dropped = 0 := by
  cases op with
  | close => exact hm.rotate_dropped w'
  | record c k =>
    rcases Store.record_snd_cases s c k w' with hr | hr <;> simp only [Store.call, hr]
    · rfl
    · exact hm.rotate_dropped w'

end Models

/-- **No close refuses a push.** Along every run of records and closes the open minute never
moves back, every series ends at or before it, and so a push at it, into any series, succeeds;
every call's close refuses nothing. In an aggregator, after any steps, neither a record nor a
query refuses an entry, so the report of refused entries is never made. -/
theorem closes_never_drop (w : Nat) :
    (∀ ops : List Op,
      let s := ({} : Store).applyAll w ops
      (∀ (op : Op) (o : Minute), s.openMinute = some o →
        ∃ o', (s.apply w op).openMinute = some o' ∧ o ≤ o') ∧
      (∀ ser ∈ s.series, ∀ e ∈ ser.getLast?, ∃ o, s.openMinute = some o ∧ e.minute ≤ o) ∧
      (∀ m, s.openMinute = some m → ∀ ser ∈ s.series, ∀ k, (ser.push? m k).isSome) ∧
      ∀ op : Op, (s.call w op).2.dropped = 0) ∧
    ∀ (now : Instant) (steps : List Step) (cs : Counters) (c : String) (t : Instant),
      let a := (((Aggregator.create w now).afterSteps steps).run cs).1
      (a.store.record c t.minute a.window).2.dropped = 0 ∧ (a.store.rotate a.window).2.dropped = 0 := by
  refine ⟨fun ops => ?_, fun now steps cs c t => ?_⟩
  · have hm := (Models.empty w).applyAll ops
    refine ⟨fun op o ho => Store.openMinute_le_apply _ w op ho,
      fun ser hser e he => hm.minute_le_open ser hser e (List.mem_of_getLast? he),
      fun m hopen ser hser k => Series.push?_isSome k fun e he => ?_, hm.call_dropped w⟩
    obtain ⟨o, ho, hle⟩ := hm.minute_le_open ser hser e (List.mem_of_getLast? he)
    rw [hopen] at ho
    exact Option.some_injective _ ho ▸ hle
  · obtain ⟨h, -, hm⟩ := models_afterSteps w now steps cs
    exact ⟨hm.call_dropped _ (.record c t.minute), hm.rotate_dropped _⟩

end MinuteWindow.Window

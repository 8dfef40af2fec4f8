import Mathlib
import MinuteWindow.Proofs.Window.Keyed
import MinuteWindow.Proofs.Window.Series
import MinuteWindow.Window.Store
/-! A store as the history of the events it has counted.

Every event is counted in the minute that is open when it arrives: its own minute when that is
later than the open one, else the open minute (`countedMinute`), so the counted minutes of a
run never decrease. A `History` splits the counted events at the last close: `closed` ones sit
in the series, `pending` ones in the bucket of the open minute. `Models w s h` is the
abstraction relation between a store and a history, in a window of `w` minutes:

* the open minute is the latest counted minute;
* the bucket counts the pending events by category, and its total is their number;
* the totals series counts the minutes of the closed events that are still in the window
  (`retained`: after the cutoff of the last close), and the series of each category counts
  those of that category; no category keeps an empty series.

`Models` holds of the empty store and is carried by each call (`Models.record`,
`Models.rotate`), hence by every run (`Models.applyAll`). The relation determines the store
(`Models.unique`): two runs that count the same events and close them all end in the same
store, however their closes were placed. -/
namespace MinuteWindow.Window
open Time

/-- One call on a store: an event of a category at a minute, or a close of the open minute. -/
inductive Op where
  | record (category : String) (key : Minute)
  | close
  deriving DecidableEq, Repr

/-- The event a call records, if any. -/
def Op.event? : Op → Option (String × Minute)
  | .record c k => some (c, k)
  | .close => none

namespace Store

/-- The store after one call, in a window of `w` minutes. -/
def apply (w : Nat) (s : Store) : Op → Store
  | .record c k => (s.record c k w).1
  | .close => (s.rotate w).1

/-- The store after the calls, in order. -/
def applyAll (w : Nat) (s : Store) (ops : List Op) : Store := ops.foldl (apply w) s

end Store

/-- The minute an event of minute `k` is counted in when `latest` is the latest minute counted
so far: the later of the two. -/
def countedMinute : Option Minute → Minute → Minute
  | none, k => k
  | some o, k => if o < k then k else o

/-- Events with the minutes they are counted in, after the counted events `h`. -/
def countedFrom (h : List (String × Minute)) (evs : List (String × Minute)) : List (String × Minute) :=
  evs.foldl (fun h (c, k) => h ++ [(c, countedMinute (h.getLast?.map (·.2)) k)]) h

/-- Each event with the minute it is counted in: the latest of the minutes so far. -/
def counted (evs : List (String × Minute)) : List (String × Minute) := countedFrom [] evs

/-- Counted events split at the last close. -/
structure History where
  closed : List (String × Minute)
  pending : List (String × Minute)

namespace History

/-- All counted events, in order. -/
def events (h : History) : List (String × Minute) := h.closed ++ h.pending

/-- The latest counted minute. -/
def latest (h : History) : Option Minute := h.events.getLast?.map (·.2)

/-- What a call does to the history: a record counts one more event, pending unless its minute
is later than the latest one, which closes what was pending; a close closes everything. -/
def apply (h : History) : Op → History
  | .record c k =>
    let e := (c, countedMinute h.latest k)
    if h.latest.any (· < k) then ⟨h.events, [e]⟩ else ⟨h.closed, h.pending ++ [e]⟩
  | .close => ⟨h.events, []⟩

/-- The history after the calls, in order. -/
def applyAll (h : History) (ops : List Op) : History := ops.foldl apply h

end History

/-- The closed events still in a window of `w` minutes: those after the cutoff of the last close,
`w` minutes before the minute it closed. -/
def retained (w : Nat) (closed : List (String × Minute)) : List (String × Minute) :=
  match closed.getLast? with
  | none => []
  | some (_, m) => closed.filter fun e => m.back w < e.2

/-- The bucket counts the events `pending` by category, with no zero count. -/
structure BucketOf (b : Keyed Nat) (pending : List (String × Minute)) : Prop where
  sorted : b.Sorted
  count_eq : ∀ c, (b.find? c).getD 0 = pending.countP (·.1 = c)
  ne_zero : ∀ c, b.find? c ≠ some 0

/-- The series of each category count the minutes of its events in `kept`, with no empty
series. -/
structure CategoriesOf (byCategory : Keyed Series) (kept : List (String × Minute)) : Prop where
  sorted : byCategory.Sorted
  counts : ∀ c, ((byCategory.find? c).getD []).Counts ((kept.filter (·.1 = c)).map (·.2))
  ne_nil : ∀ c, byCategory.find? c ≠ some []

/-- The store `s` holds the history `h` in a window of `w` minutes. -/
structure Models (w : Nat) (s : Store) (h : History) : Prop where
  openMinute_eq : s.openMinute = h.latest
  ordered : (h.events.map (·.2)).Pairwise (· ≤ ·)
  pending_latest : ∀ e ∈ h.pending, h.latest = some e.2
  bucket : BucketOf s.bucket h.pending
  bucketTotal : s.bucketTotal = h.pending.length
  totals : s.totals.Counts ((retained w h.closed).map (·.2))
  categories : CategoriesOf s.byCategory (retained w h.closed)

/-! ### Minutes and counted events -/

theorem Minute.back_mono {a b : Minute} (h : a ≤ b) (w : Nat) : a.back w ≤ b.back w := by
  simp only [Minute.back, Minute.le_iff] at h ⊢
  omega

/-- In a list ordered by minute, every element is at or before the last one. -/
theorem le_of_getLast? {α : Type} {f : α → Minute} {l : List α} (hl : (l.map f).Pairwise (· ≤ ·))
    {x : α} (hx : l.getLast? = some x) {e : α} (he : e ∈ l) : f e ≤ f x := by
  obtain ⟨init, rfl⟩ := List.getLast?_eq_some_iff.1 hx
  rw [List.map_append, List.pairwise_append] at hl
  rcases List.mem_append.1 he with he | he
  · exact hl.2.2 _ (List.mem_map_of_mem he) _ (by simp)
  · rw [List.mem_singleton.1 he]
    exact Minute.le_iff.2 (Int.le_refl _)

theorem countedMinute_le (o : Option Minute) (k : Minute) : ∀ x ∈ o, x ≤ countedMinute o k := by
  intro x hx
  cases hx
  simp only [countedMinute]
  split_ifs with h
  · simp only [Minute.lt_iff, Minute.le_iff] at h ⊢
    omega
  · simp only [Minute.le_iff]
    omega

theorem countedFrom_cons (h : List (String × Minute)) (c : String) (k : Minute) (evs : List (String × Minute)) :
    countedFrom h ((c, k) :: evs) = countedFrom (h ++ [(c, countedMinute (h.getLast?.map (·.2)) k)]) evs := rfl

/-! ### Histories -/

namespace History

theorem latest_eq_none {h : History} : h.latest = none ↔ h.closed = [] ∧ h.pending = [] := by
  simp [latest, events, and_comm]

theorem events_apply (h : History) (op : Op) :
    (h.apply op).events = h.events ++ ((op.event?).map fun e => (e.1, countedMinute h.latest e.2)).toList := by
  cases op with
  | record c k =>
    simp only [apply, Op.event?]
    split <;> simp [events]
  | close => simp [apply, events, Op.event?]

/-- The events of a run are the recorded ones, each with the minute it is counted in. -/
theorem events_applyAll (h : History) (ops : List Op) :
    (h.applyAll ops).events = countedFrom h.events (ops.filterMap Op.event?) := by
  induction ops generalizing h with
  | nil => rfl
  | cons op ops ih =>
    simp only [applyAll, List.foldl_cons] at ih ⊢
    rw [ih, events_apply]
    cases op with
    | record c k => simp [Op.event?, countedFrom_cons, latest]
    | close => simp [Op.event?, List.filterMap_cons]

end History

/-! ### The bucket and the category series -/

theorem Option.eq_of_getD_eq {α : Type} {o o' : Option α} {d : α} (h : o.getD d = o'.getD d)
    (h₁ : o ≠ some d) (h₂ : o' ≠ some d) : o = o' := by
  cases o <;> cases o' <;> simp_all

namespace BucketOf
variable {b b' : Keyed Nat} {pending : List (String × Minute)}

theorem empty : BucketOf ({} : Keyed Nat) [] := ⟨Keyed.sorted_empty, by simp, by simp⟩

theorem unique (h : BucketOf b pending) (h' : BucketOf b' pending) : b = b' :=
  Keyed.ext h.sorted h'.sorted fun c =>
    Option.eq_of_getD_eq ((h.count_eq c).trans (h'.count_eq c).symm) (h.ne_zero c) (h'.ne_zero c)

theorem find?_eq_none (h : BucketOf b []) (c : String) : b.find? c = none := by
  have := h.count_eq c
  cases hb : b.find? c with
  | none => rfl
  | some n =>
    rw [hb] at this
    have hn : n = 0 := by simpa using this
    exact absurd (hn ▸ hb) (h.ne_zero c)

/-- Counting one more event of a category. -/
theorem bump (h : BucketOf b pending) (c : String) (m : Minute) :
    BucketOf (b.alter c fun n => n.getD 0 + 1) (pending ++ [(c, m)]) := by
  refine ⟨Keyed.alter_sorted h.sorted c _, fun c' => ?_, fun c' => ?_⟩
  · by_cases hc : c' = c
    · subst hc
      rw [Keyed.find?_alter_self h.sorted, Option.getD_some, h.count_eq]
      simp
    · rw [Keyed.find?_alter_ne _ _ _ _ hc, h.count_eq]
      simp [Ne.symm hc]
  · by_cases hc : c' = c
    · subst hc
      rw [Keyed.find?_alter_self h.sorted]
      simp
    · rw [Keyed.find?_alter_ne _ _ _ _ hc]
      exact h.ne_zero c'

end BucketOf

namespace CategoriesOf
variable {m m' : Keyed Series} {kept : List (String × Minute)}

theorem empty : CategoriesOf ({} : Keyed Series) [] := ⟨Keyed.sorted_empty, fun _ => by simpa using Series.Counts.nil, by simp⟩

theorem unique (h : CategoriesOf m kept) (h' : CategoriesOf m' kept) : m = m' :=
  Keyed.ext h.sorted h'.sorted fun c =>
    Option.eq_of_getD_eq ((h.counts c).unique (h'.counts c)) (h.ne_nil c) (h'.ne_nil c)

end CategoriesOf

/-! ### Closing the open minute -/

/-- A series after `k` more events at `m` were closed into it (none when `k` is zero). -/
def closeInto (s : Series) (m : Minute) (k : Nat) : Series :=
  if k = 0 then s else (s.push? m k).getD s

theorem Series.Counts.closeInto {s : Series} {L : List Minute} {m : Minute} (h : s.Counts L)
    (hle : ∀ x ∈ L, x ≤ m) (k : Nat) : (closeInto s m k).Counts (L ++ List.replicate k m) := by
  unfold Window.closeInto
  split_ifs with hk
  · subst hk
    simpa using h
  · obtain ⟨t, ht, hc⟩ := h.push? hle (Nat.pos_of_ne_zero hk)
    rw [ht]
    exact hc

/-- What eviction keeps of a category's series: nothing once it is empty. -/
def keepAfter (cut : Minute) (s : Series) : Option Series :=
  let kept := (s.evictThrough cut).1
  if kept.isEmpty then none else some kept

theorem getD_bind_keepAfter (o : Option Series) (cut : Minute) :
    (o.bind (keepAfter cut)).getD [] = ((o.getD []).evictThrough cut).1 := by
  cases o with
  | none => rfl
  | some s =>
    simp only [Option.bind_some, Option.getD_some, keepAfter]
    split_ifs with h
    · exact (List.isEmpty_iff.1 h).symm
    · rfl

theorem getD_ite_closeInto (o : Option Series) (m : Minute) (k : Nat) :
    (if k = 0 then o else some (closeInto (o.getD []) m k)).getD [] = closeInto (o.getD []) m k := by
  split_ifs with hk
  · simp [closeInto, hk]
  · rfl

theorem bind_keepAfter_ne_nil (o : Option Series) (cut : Minute) : o.bind (keepAfter cut) ≠ some [] := by
  cases o with
  | none => simp
  | some s =>
    simp only [Option.bind_some, keepAfter]
    split_ifs with h
    · simp
    · simpa using h

namespace Store

theorem pushCategory_sorted (m : Minute) {acc : Keyed Series × Rotation} (hs : acc.1.Sorted)
    (kv : String × Nat) : (pushCategory m acc kv).1.Sorted := by
  obtain ⟨series, rot⟩ := acc
  obtain ⟨k, n⟩ := kv
  simp only [pushCategory]
  split_ifs
  · exact hs
  · split <;> exact Keyed.alter_sorted hs _ _

theorem pushCategory_find? (m : Minute) {acc : Keyed Series × Rotation} (hs : acc.1.Sorted)
    (kv : String × Nat) (c : String) :
    (pushCategory m acc kv).1.find? c =
      if kv.1 = c ∧ kv.2 ≠ 0 then some (closeInto ((acc.1.find? c).getD []) m kv.2) else acc.1.find? c := by
  obtain ⟨series, rot⟩ := acc
  obtain ⟨k, n⟩ := kv
  by_cases hk : k = c
  · subst hk
    by_cases hn : n = 0
    · simp [pushCategory, hn]
    · simp only [pushCategory, hn, if_false, ne_eq, not_false_eq_true, and_self, if_true]
      split <;> rename_i hp <;> simp [Keyed.find?_alter_self hs, closeInto, hn, hp]
  · have hc : c ≠ k := Ne.symm hk
    simp only [pushCategory, hk, false_and, if_false]
    split_ifs
    · rfl
    · split <;> exact Keyed.find?_alter_ne _ _ _ _ hc

/-- Pushing a sorted bucket closes each category's count into its series, and leaves the
categories of the bucket without events alone. -/
theorem foldl_pushCategory_find? (m : Minute) {l : List (String × Nat)} (hl : l.Pairwise (·.1 < ·.1))
    {acc : Keyed Series × Rotation} (hs : acc.1.Sorted) (c : String) :
    (l.foldl (pushCategory m) acc).1.find? c =
      if (l.lookup c).getD 0 = 0 then acc.1.find? c
      else some (closeInto ((acc.1.find? c).getD []) m ((l.lookup c).getD 0)) := by
  induction l generalizing acc with
  | nil => simp
  | cons kv l ih =>
    obtain ⟨k, n⟩ := kv
    rw [List.pairwise_cons] at hl
    rw [List.foldl_cons, ih hl.2 (pushCategory_sorted m hs _), pushCategory_find? m hs]
    by_cases hk : k = c
    · subst hk
      have hnone : l.lookup k = none := Keyed.lookup_eq_none_of_lt fun e he => hl.1 e he
      by_cases hn : n = 0 <;> simp [hnone, hn]
    · have hb : (c == k) = false := beq_false_of_ne (Ne.symm hk)
      simp [hk, List.lookup_cons, hb]

theorem foldl_pushCategory_sorted (m : Minute) (l : List (String × Nat))
    {acc : Keyed Series × Rotation} (hs : acc.1.Sorted) : (l.foldl (pushCategory m) acc).1.Sorted := by
  induction l generalizing acc with
  | nil => exact hs
  | cons kv l ih => exact ih (pushCategory_sorted m hs kv)

/-- The store with one more event of `c` in its bucket: what a record does after opening the
event's minute. -/
def countEvent (s : Store) (c : String) : Store :=
  { s with bucket := s.bucket.alter c (fun n => n.getD 0 + 1), bucketTotal := s.bucketTotal + 1 }

theorem record_of_none {s : Store} (h : s.openMinute = none) (c : String) (k : Minute) (w : Nat) :
    (s.record c k w).1 = ({ s with openMinute := some k } : Store).countEvent c := by
  simp [record, h, countEvent]

theorem record_of_lt {s : Store} {o k : Minute} (h : s.openMinute = some o) (hk : o < k) (c : String) (w : Nat) :
    (s.record c k w).1 = ({ (s.rotate w).1 with openMinute := some k } : Store).countEvent c := by
  simp [record, h, hk, countEvent]

theorem record_of_not_lt {s : Store} {o k : Minute} (h : s.openMinute = some o) (hk : ¬ o < k) (c : String)
    (w : Nat) : (s.record c k w).1 = s.countEvent c := by
  simp [record, h, hk, countEvent]

theorem rotate_of_none {s : Store} (h : s.openMinute = none) (w : Nat) : s.rotate w = (s, Rotation.idle) := by
  simp [rotate, h]

theorem rotate_of_zero {s : Store} (h : s.bucketTotal = 0) (w : Nat) : s.rotate w = (s, Rotation.idle) := by
  unfold rotate
  split <;> simp [h]

/-- A close of a non-empty bucket, field by field. -/
theorem rotate_fst {s : Store} {m : Minute} (hm : s.openMinute = some m) (ht : s.bucketTotal ≠ 0) (w : Nat) :
    (s.rotate w).1 =
      { s with
        byCategory := (s.bucket.entries.foldl (pushCategory m) (s.byCategory, { minute := some m })).1.prune
          (keepAfter (m.back w))
        totals := ((closeInto s.totals m s.bucketTotal).evictThrough (m.back w)).1
        bucket := {}
        bucketTotal := 0 } := by
  unfold rotate
  simp only [hm, ht, if_false, closeInto]
  split <;> rename_i h <;> simp only [h, Option.getD_some, Option.getD_none] <;> rfl

end Store

/-! ### The window after a close -/

theorem retained_filter_cut {w : Nat} {closed : List (String × Minute)} {m : Minute}
    (hle : ∀ e ∈ closed, e.2 ≤ m) :
    (retained w closed).filter (fun e => m.back w < e.2) = closed.filter fun e => m.back w < e.2 := by
  unfold retained
  split
  · rename_i h
    rw [List.getLast?_eq_none_iff.1 h]
  · rename_i c mc h
    have hcut := Minute.back_mono (hle _ (List.mem_of_getLast? h)) w
    rw [List.filter_filter]
    apply List.filter_congr
    intro e _
    by_cases hx : m.back w < e.2
    · have hx' : mc.back w < e.2 := by
        simp only [Minute.lt_iff, Minute.le_iff] at hx hcut ⊢
        omega
      simp [hx, hx']
    · simp [hx]

theorem mem_of_mem_retained {w : Nat} {closed : List (String × Minute)} {e : String × Minute}
    (he : e ∈ retained w closed) : e ∈ closed := by
  unfold retained at he
  split at he
  · cases he
  · exact List.mem_of_mem_filter he

theorem retained_append {w : Nat} {closed pending : List (String × Minute)} {m : Minute}
    (hp : pending ≠ []) (hm : ∀ e ∈ pending, e.2 = m) :
    retained w (closed ++ pending) = (closed ++ pending).filter fun e => m.back w < e.2 := by
  obtain ⟨init, last, rfl⟩ := List.eq_nil_or_concat pending |>.resolve_left hp
  have hlast : last.2 = m := hm last (by simp)
  simp [retained, ← List.append_assoc, hlast]

/-- Closing the pending events, all at minute `m`, into the window: the minutes of the closed
events of a kind `p` after the close are those before it with the pending ones added, less
what the new cutoff evicts. -/
theorem retained_close {w : Nat} {closed pending : List (String × Minute)} {m : Minute}
    (p : String × Minute → Bool) (hle : ∀ e ∈ closed, e.2 ≤ m) (hp : pending ≠ [])
    (hm : ∀ e ∈ pending, e.2 = m) :
    ((retained w (closed ++ pending)).filter p).map (·.2) =
      ((((retained w closed).filter p).map (·.2)) ++ List.replicate (pending.countP p) m).filter
        fun x => m.back w < x := by
  have hpending : ((pending.filter fun e => m.back w < e.2).filter p).map (·.2) =
      (List.replicate (pending.countP p) m).filter fun x => m.back w < x := by
    by_cases hcut : m.back w < m
    · have hall : (pending.filter fun e => m.back w < e.2) = pending :=
        List.filter_eq_self.2 fun e he => by simpa [hm e he] using hcut
      have hrep : ((List.replicate (pending.countP p) m).filter fun x => m.back w < x) =
          List.replicate (pending.countP p) m :=
        List.filter_eq_self.2 fun x hx => by simpa [List.eq_of_mem_replicate hx] using hcut
      rw [hall, hrep]
      apply List.eq_replicate_iff.2
      refine ⟨by simp [List.countP_eq_length_filter], fun x hx => ?_⟩
      obtain ⟨e, he, rfl⟩ := List.mem_map.1 hx
      exact hm e (List.mem_of_mem_filter he)
    · have hnone : (pending.filter fun e => m.back w < e.2) = [] :=
        List.filter_eq_nil_iff.2 fun e he => by simpa [hm e he] using hcut
      have hrep : ((List.replicate (pending.countP p) m).filter fun x => m.back w < x) = [] :=
        List.filter_eq_nil_iff.2 fun x hx => by simpa [List.eq_of_mem_replicate hx] using hcut
      rw [hnone, hrep]
      rfl
  rw [retained_append hp hm, List.filter_append, List.filter_append, List.map_append,
    List.filter_append, hpending]
  congr 1
  rw [List.filter_map, Function.comp_def, List.filter_comm _ p (retained w closed), retained_filter_cut hle]

/-! ### The abstraction relation along a run -/

namespace Models
variable {w : Nat} {s s' : Store} {h : History}

/-- Every counted minute is at or before the latest one. -/
theorem le_latest (hm : Models w s h) {m : Minute} (hl : h.latest = some m) : ∀ e ∈ h.events, e.2 ≤ m := by
  obtain ⟨last, hlast, rfl⟩ := Option.map_eq_some_iff.1 hl
  exact fun e he => le_of_getLast? hm.ordered hlast he

theorem empty (w : Nat) : Models w {} ⟨[], []⟩ :=
  ⟨rfl, List.Pairwise.nil, by simp, BucketOf.empty, rfl, by simpa [retained] using Series.Counts.nil,
    by simpa [retained] using CategoriesOf.empty⟩

/-- A close moves every pending event into the series and evicts what falls out of the window. -/
theorem rotate (hm : Models w s h) : Models w (s.rotate w).1 (h.apply .close) := by
  obtain ⟨C, B⟩ := h
  simp only [History.apply, History.events]
  cases hopen : s.openMinute with
  | none =>
    obtain ⟨hC, hB⟩ := History.latest_eq_none.1 (hm.openMinute_eq.symm.trans hopen)
    simp only at hC hB
    subst hC hB
    rw [Store.rotate_of_none hopen]
    exact hm
  | some m =>
    by_cases ht : s.bucketTotal = 0
    · have hB : B = [] := List.eq_nil_of_length_eq_zero (hm.bucketTotal ▸ ht)
      subst hB
      rw [Store.rotate_of_zero ht]
      simpa using hm
    · have hl : History.latest ⟨C, B⟩ = some m := hm.openMinute_eq ▸ hopen
      have hB : B ≠ [] := fun hB => ht (by simp [hm.bucketTotal, hB])
      have hBm : ∀ e ∈ B, e.2 = m := fun e he =>
        Option.some_injective _ ((hm.pending_latest e he).symm.trans hl)
      have hCm : ∀ e ∈ C, e.2 ≤ m := fun e he => hm.le_latest hl e (List.mem_append_left _ he)
      -- the minutes of the retained events of any kind are at or before the closed minute
      have hL : ∀ (p : String × Minute → Bool), ∀ x ∈ ((retained w C).filter p).map (·.2), x ≤ m := by
        intro p x hx
        obtain ⟨e, he, rfl⟩ := List.mem_map.1 hx
        exact hCm e (mem_of_mem_retained (List.mem_of_mem_filter he))
      have hsorted := @Store.foldl_pushCategory_sorted m s.bucket.entries
        (s.byCategory, { minute := some m }) hm.categories.sorted
      rw [Store.rotate_fst hopen ht]
      refine ⟨?_, ?_, by simp, BucketOf.empty, rfl, ?_, ⟨?_, fun c => ?_, fun c => ?_⟩⟩
      · show s.openMinute = _
        rw [hm.openMinute_eq]
        simp [History.latest, History.events]
      · simpa [History.events] using hm.ordered
      · have hlist : (retained w (C ++ B)).map (·.2) =
            ((retained w C).map (·.2) ++ List.replicate s.bucketTotal m).filter fun x => m.back w < x := by
          simpa [hm.bucketTotal] using @retained_close w C B m (fun _ => true) hCm hB hBm
        rw [hlist]
        exact (hm.totals.closeInto (by simpa using hL fun _ => true) _).evictThrough _
      · exact Keyed.prune_sorted hsorted _
      · have hk : (s.bucket.entries.lookup c).getD 0 = B.countP (·.1 = c) := hm.bucket.count_eq c
        rw [Keyed.find?_prune hsorted, getD_bind_keepAfter,
          Store.foldl_pushCategory_find? m hm.bucket.sorted hm.categories.sorted]
        dsimp only
        rw [getD_ite_closeInto, hk, retained_close _ hCm hB hBm]
        exact ((hm.categories.counts c).closeInto (hL _) _).evictThrough _
      · rw [Keyed.find?_prune hsorted]
        exact bind_keepAfter_ne_nil _ _

/-- An event counted in the open minute joins the pending ones. -/
theorem countEvent {C B : List (String × Minute)} {m : Minute} (hm : Models w s ⟨C, B⟩)
    (hopen : s.openMinute = some m) (c : String) : Models w (s.countEvent c) ⟨C, B ++ [(c, m)]⟩ := by
  have hl : History.latest ⟨C, B⟩ = some m := hm.openMinute_eq ▸ hopen
  have hlatest : History.latest ⟨C, B ++ [(c, m)]⟩ = some m := by
    simp [History.latest, History.events]
  refine ⟨hlatest ▸ hopen, ?_, fun e he => ?_, hm.bucket.bump c m, by simp [Store.countEvent, hm.bucketTotal],
    hm.totals, hm.categories⟩
  · have hord : ((C ++ B).map (·.2)).Pairwise (· ≤ ·) := hm.ordered
    show ((C ++ (B ++ [(c, m)])).map (·.2)).Pairwise (· ≤ ·)
    rw [← List.append_assoc, List.map_append]
    refine List.pairwise_append.2 ⟨hord, List.pairwise_singleton _ _, fun a ha b hb => ?_⟩
    obtain ⟨e, he, rfl⟩ := List.mem_map.1 ha
    have hbm : b = m := by simpa using hb
    rw [hbm]
    exact hm.le_latest hl e he
  · rw [hlatest]
    rcases List.mem_append.1 he with he | he
    · exact hl.symm.trans (hm.pending_latest e he)
    · rw [List.mem_singleton.1 he]

/-- An event of a minute later than every counted one opens its minute, with nothing pending. -/
theorem openAt {H : List (String × Minute)} {k : Minute} (hm : Models w s ⟨H, []⟩)
    (hk : ∀ o ∈ History.latest ⟨H, []⟩, o < k) (c : String) :
    Models w (({ s with openMinute := some k } : Store).countEvent c) ⟨H, [(c, k)]⟩ := by
  have hlatest : History.latest ⟨H, [(c, k)]⟩ = some k := by
    simp [History.latest, History.events]
  have hzero : s.bucketTotal = 0 := by simpa using hm.bucketTotal
  refine ⟨hlatest.symm, ?_, fun e he => ?_, by simpa [Store.countEvent] using hm.bucket.bump c k,
    by simp [Store.countEvent, hzero], hm.totals, hm.categories⟩
  · have hord : ((H ++ ([] : List (String × Minute))).map (·.2)).Pairwise (· ≤ ·) := hm.ordered
    show ((H ++ [(c, k)]).map (·.2)).Pairwise (· ≤ ·)
    rw [List.append_nil] at hord
    rw [List.map_append]
    refine List.pairwise_append.2 ⟨hord, List.pairwise_singleton _ _, fun a ha b hb => ?_⟩
    have hbk : b = k := by simpa using hb
    rw [hbk]
    obtain ⟨e, he, rfl⟩ := List.mem_map.1 ha
    cases hl : History.latest ⟨H, []⟩ with
    | none => simp [History.latest_eq_none] at hl; simp [hl] at he
    | some o =>
      have h1 := hm.le_latest hl e (by simpa [History.events] using he)
      have h2 := hk o hl
      simp only [Minute.le_iff, Minute.lt_iff] at h1 h2 ⊢
      omega
  · rw [hlatest, List.mem_singleton.1 he]

/-- A record counts its event in the open minute, after closing the open minute when the
event's own minute is later. -/
theorem record (hm : Models w s h) (c : String) (k : Minute) :
    Models w (s.record c k w).1 (h.apply (.record c k)) := by
  obtain ⟨C, B⟩ := h
  cases hopen : s.openMinute with
  | none =>
    have hl : History.latest ⟨C, B⟩ = none := hm.openMinute_eq.symm.trans hopen
    obtain ⟨hC, hB⟩ := History.latest_eq_none.1 hl
    simp only at hC hB
    subst hC hB
    rw [Store.record_of_none hopen]
    simpa [History.apply, hl, countedMinute] using hm.openAt (by simp [hl]) c
  | some o =>
    have hl : History.latest ⟨C, B⟩ = some o := hm.openMinute_eq.symm.trans hopen
    by_cases hk : o < k
    · rw [Store.record_of_lt hopen hk]
      have hr := hm.rotate
      simp only [History.apply] at hr
      have hlatest : History.latest ⟨History.events ⟨C, B⟩, []⟩ = some o := by
        simpa [History.latest, History.events] using hl
      simpa [History.apply, hl, hk, countedMinute] using hr.openAt (by simpa [hlatest] using hk) c
    · rw [Store.record_of_not_lt hopen hk]
      simpa [History.apply, hl, hk, countedMinute] using hm.countEvent hopen c

theorem apply (hm : Models w s h) : ∀ op, Models w (s.apply w op) (h.apply op)
  | .record c k => hm.record c k
  | .close => hm.rotate

/-- Every run keeps the store a model of its history. -/
theorem applyAll (hm : Models w s h) (ops : List Op) : Models w (s.applyAll w ops) (h.applyAll ops) := by
  induction ops generalizing s h with
  | nil => exact hm
  | cons op ops ih => exact ih (hm.apply op)

/-- A store is determined by the history it holds. -/
theorem unique (hm : Models w s h) (hm' : Models w s' h) : s = s' := by
  obtain ⟨o, b, n, t, cs⟩ := s
  obtain ⟨o', b', n', t', cs'⟩ := s'
  have ho : o = o' := hm.openMinute_eq.trans hm'.openMinute_eq.symm
  have hb : b = b' := hm.bucket.unique hm'.bucket
  have hn : n = n' := hm.bucketTotal.trans hm'.bucketTotal.symm
  have ht : t = t' := hm.totals.unique hm'.totals
  have hc : cs = cs' := hm.categories.unique hm'.categories
  subst ho hb hn ht hc
  rfl

end Models

end MinuteWindow.Window

import Mathlib
import MinuteWindow.Proofs.Window.Invariant
/-! Eviction: which entries a close removes, and how many it reports.

A close does two things in turn: it pushes the open minute's bucket into the series
(`Store.pushBucket`), then evicts every series through the cutoff `m.back w`
(`Store.rotate_eq_evict`). The cutoff is the closed minute less the window, stopping at the
earliest representable minute.

`close_evicts_through_cutoff`: on strictly ascending series eviction is a filter. Each series
loses exactly its entries at or before the cutoff, a category left with no entry is forgotten,
and every entry after the cutoff stays; so the closed minute itself stays, unless it is the
earliest representable one, where the stopped cutoff reaches it
(`close_evicts_earliest_minute`).

`evicted_counter_accounts`: the evicted counts the closes report, which the aggregator adds to
its evicted counter, add up to the entries ever appended to a series less the entries still
held. An entry is appended by a push that does not merge into the last entry
(`Series.appendCount`), and eviction counts every entry it removes, those of the categories it
forgets included (`Store.size_evict`). -/
namespace MinuteWindow.Time.Minute

/-- With a window of at least one minute the cutoff lies before the closed minute, except at
the earliest representable minute, where it stops. -/
theorem back_lt_self_iff {m : Minute} {w : Nat} (hw : 0 < w) : m.back w < m ↔ first < m := by
  simp only [back, lt_iff]
  omega

end MinuteWindow.Time.Minute

namespace MinuteWindow.Window
open Time Telemetry

/-! ### A close as a push followed by an eviction -/

namespace Store

/-- The store a close of minute `m` reaches before it evicts: the bucket pushed into the
category series and its total into the totals. -/
def pushBucket (s : Store) (m : Minute) : Store :=
  { s with
    byCategory := (s.bucket.entries.foldl (pushCategory m) (s.byCategory, { minute := some m })).1
    totals := closeInto s.totals m s.bucketTotal
    bucket := {}
    bucketTotal := 0 }

variable {s : Store} {m : Minute}

theorem rotate_eq_evict (hm : s.openMinute = some m) (ht : s.bucketTotal ≠ 0) (w : Nat) :
    (s.rotate w).1 = ((s.pushBucket m).evict (m.back w)).1 := by
  rw [rotate_fst hm ht]
  rfl

theorem rotate_evicted (hm : s.openMinute = some m) (ht : s.bucketTotal ≠ 0) (w : Nat) :
    (s.rotate w).2.evicted = ((s.pushBucket m).evict (m.back w)).2 := by
  unfold rotate pushBucket
  simp only [hm, ht, if_false, closeInto]
  split <;> rename_i h <;> simp only [h, Option.getD_some, Option.getD_none]

theorem rotate_minute (hm : s.openMinute = some m) (ht : s.bucketTotal ≠ 0) (w : Nat) :
    (s.rotate w).2.minute = some m := by
  unfold rotate
  simp only [hm, ht, if_false]
  -- the pushes only count what they did; the minute is the one set at the start
  have hfold : ∀ (l : List (String × Nat)) (acc : Keyed Series × Rotation),
      (l.foldl (pushCategory m) acc).2.minute = acc.2.minute := by
    intro l
    induction l with
    | nil => intro acc; rfl
    | cons kv l ih =>
      intro acc
      rw [List.foldl_cons, ih]
      simp only [pushCategory]
      split_ifs
      · rfl
      · split <;> rfl
  split <;> simp [hfold]

/-- A close that finds no open minute or an empty bucket reports no minute and evicts
nothing. -/
theorem rotate_evicted_of_minute_none {w : Nat} (h : (s.rotate w).2.minute = none) :
    (s.rotate w).2.evicted = 0 := by
  cases hm : s.openMinute with
  | none => rw [rotate_of_none hm]; rfl
  | some m =>
    by_cases ht : s.bucketTotal = 0
    · rw [rotate_of_zero ht]; rfl
    · rw [rotate_minute hm ht] at h
      cases h

end Store

/-! ### Pushes keep a series ascending -/

namespace Series

theorem push?_ascending {s t : Series} {m : Minute} {k : Nat} (h : s.Pairwise (·.minute < ·.minute))
    (ht : s.push? m k = some t) : t.Pairwise (·.minute < ·.minute) := by
  rcases List.eq_nil_or_concat s with rfl | ⟨init, last, rfl⟩
  · simp only [push?, List.getLast?_nil, Option.some.injEq] at ht
    subst ht
    exact List.pairwise_singleton _ _
  rw [List.concat_eq_append] at h ht
  rw [List.pairwise_append] at h
  have hinit : ∀ e ∈ init, e.minute < last.minute := fun e he => h.2.2 e he last (by simp)
  simp only [push?, List.getLast?_append, List.getLast?_singleton, Option.some_or,
    List.dropLast_concat] at ht
  split_ifs at ht with heq hlt
  · -- a merge replaces the last entry by one at the same minute
    cases ht
    refine List.pairwise_append.2 ⟨h.1, List.pairwise_singleton _ _, fun a ha b hb => ?_⟩
    rw [List.mem_singleton.1 hb, ← heq]
    exact hinit a ha
  · -- an append puts a later minute after the last entry
    cases ht
    have hlast : last.minute < m := by
      simp only [Minute.lt_iff, Minute.eq_iff] at heq hlt ⊢
      omega
    refine List.pairwise_append.2 ⟨List.pairwise_append.2 h, List.pairwise_singleton _ _,
      fun a ha b hb => ?_⟩
    rw [List.mem_singleton.1 hb]
    rcases List.mem_append.1 ha with ha | ha
    · exact Minute.lt_iff.2 (Int.lt_trans (Minute.lt_iff.1 (hinit a ha)) (Minute.lt_iff.1 hlast))
    · rw [List.mem_singleton.1 ha]
      exact hlast

end Series

theorem closeInto_ascending {s : Series} (h : s.Pairwise (·.minute < ·.minute)) (m : Minute) (k : Nat) :
    (closeInto s m k).Pairwise (·.minute < ·.minute) := by
  unfold closeInto
  split_ifs
  · exact h
  · cases hp : s.push? m k with
    | none => exact h
    | some t => exact Series.push?_ascending h hp

/-- A value found in a keyed list is one of its values. -/
theorem mem_of_lookup_eq_some {α : Type} {l : List (String × α)} {k : String} {v : α}
    (h : l.lookup k = some v) : (k, v) ∈ l := by
  induction l with
  | nil => cases h
  | cons e l ih =>
    obtain ⟨k', v'⟩ := e
    by_cases hk : k = k'
    · subst hk
      simp only [List.lookup_cons, beq_self_eq_true, Option.some.injEq] at h
      simp [h]
    · have hb : (k == k') = false := beq_false_of_ne hk
      rw [List.lookup_cons, hb] at h
      exact List.mem_cons_of_mem _ (ih h)

theorem Keyed.mem_alterList_const {α : Type} {k : String} {v : α} {l : List (String × α)}
    {e : String × α} (he : e ∈ Keyed.alterList k (fun _ => v) l) : e = (k, v) ∨ e ∈ l := by
  induction l with
  | nil => simpa [Keyed.alterList] using he
  | cons e' l ih =>
    obtain ⟨k', v'⟩ := e'
    unfold Keyed.alterList at he
    split_ifs at he
    · rcases List.mem_cons.1 he with rfl | he
      · exact Or.inl rfl
      · exact Or.inr (List.mem_cons_of_mem _ he)
    · rcases List.mem_cons.1 he with rfl | he
      · exact Or.inl rfl
      · exact Or.inr he
    · rcases List.mem_cons.1 he with rfl | he
      · exact Or.inr List.mem_cons_self
      · exact (ih he).imp_right (List.mem_cons_of_mem _)

/-- Every series a keyed map holds is strictly ascending. -/
def AllAscending (m : Keyed Series) : Prop := ∀ e ∈ m.entries, e.2.Pairwise (·.minute < ·.minute)

namespace Store

theorem pushCategory_ascending (m : Minute) {acc : Keyed Series × Rotation} (h : AllAscending acc.1)
    (kv : String × Nat) : AllAscending (pushCategory m acc kv).1 := by
  obtain ⟨series, rot⟩ := acc
  obtain ⟨c, n⟩ := kv
  -- the series pushed into is the one found under the category, or a new empty one
  have hold : ((series.find? c).getD []).Pairwise (·.minute < ·.minute) := by
    cases hf : series.find? c with
    | none => exact List.Pairwise.nil
    | some v => exact h _ (mem_of_lookup_eq_some hf)
  simp only [pushCategory]
  split_ifs
  · exact h
  · split
    all_goals
      intro e he
      rcases Keyed.mem_alterList_const he with rfl | he
      · first
          | exact Series.push?_ascending hold ‹_›
          | exact hold
      · exact h e he

theorem pushBucket_ascending {s : Store} (h : ∀ ser ∈ s.series, ser.Pairwise (·.minute < ·.minute))
    (m : Minute) : ∀ ser ∈ (s.pushBucket m).series, ser.Pairwise (·.minute < ·.minute) := by
  have hcat : AllAscending s.byCategory := fun e he =>
    h e.2 (List.mem_cons_of_mem _ (List.mem_map_of_mem he))
  -- the category pushes, one bucket entry after another
  have hfold : ∀ (l : List (String × Nat)) (acc : Keyed Series × Rotation), AllAscending acc.1 →
      AllAscending (l.foldl (pushCategory m) acc).1 := by
    intro l
    induction l with
    | nil => exact fun _ h => h
    | cons kv l ih => exact fun acc hacc => ih _ (pushCategory_ascending m hacc kv)
  intro ser hser
  rcases List.mem_cons.1 hser with rfl | hser
  · exact closeInto_ascending (h _ List.mem_cons_self) m _
  · obtain ⟨e, he, rfl⟩ := List.mem_map.1 hser
    exact hfold _ _ hcat e he

/-! ### Eviction of ascending series is a filter -/

/-- What eviction keeps of one category's series, read as a filter. -/
def keptAfter (cut : Minute) (e : String × Series) : Option (String × Series) :=
  let kept := e.2.filter fun x => cut < x.minute
  if kept = [] then none else some (e.1, kept)

theorem evict_totals {p : Store} (h : p.totals.Pairwise (·.minute < ·.minute)) (cut : Minute) :
    (p.evict cut).1.totals = p.totals.filter fun e => cut < e.minute :=
  Series.evictThrough_eq_filter h cut

theorem evict_byCategory {p : Store} (h : AllAscending p.byCategory) (cut : Minute) :
    (p.evict cut).1.byCategory.entries = p.byCategory.entries.filterMap (keptAfter cut) := by
  show p.byCategory.entries.filterMap _ = _
  apply List.filterMap_congr
  rintro ⟨c, ser⟩ hmem
  rw [keptAfter]
  dsimp only
  rw [Series.evictThrough_eq_filter (h _ hmem)]
  by_cases hk : (ser.filter fun x => cut < x.minute) = [] <;> simp [hk]

end Store

/-- **Eviction boundary.** Closing the open minute `M` of a store whose series are strictly
ascending pushes the bucket and then removes from every series exactly the entries at or
before the cutoff `M.back w`, which is `M` less `w` minutes but never before the earliest
representable minute: the totals keep the entries after the cutoff, each category its entries
after it, and a category left with none is dropped. With a window of at least a minute the
cutoff lies before `M` unless `M` is the earliest minute, so the entry just closed stays. -/
theorem close_evicts_through_cutoff (s : Store) (w : Nat) (M : Minute) (hopen : s.openMinute = some M)
    (hfull : s.bucketTotal ≠ 0) (hasc : ∀ ser ∈ s.series, ser.Pairwise (·.minute < ·.minute)) :
    M.back w = ⟨max (M.index - w) Minute.first.index⟩ ∧
    (s.rotate w).1.totals = (s.pushBucket M).totals.filter (fun e => M.back w < e.minute) ∧
    (s.rotate w).1.byCategory.entries =
      (s.pushBucket M).byCategory.entries.filterMap (Store.keptAfter (M.back w)) ∧
    (0 < w → (M.back w < M ↔ Minute.first < M)) := by
  have hp := Store.pushBucket_ascending hasc M
  have hcat : AllAscending (s.pushBucket M).byCategory := fun e he =>
    hp e.2 (List.mem_cons_of_mem _ (List.mem_map_of_mem he))
  refine ⟨rfl, ?_, ?_, fun hw => Minute.back_lt_self_iff hw⟩
  · rw [Store.rotate_eq_evict hopen hfull, Store.evict_totals (hp _ List.mem_cons_self)]
  · rw [Store.rotate_eq_evict hopen hfull, Store.evict_byCategory hcat]

/-- Two events two minutes apart in a window of two minutes: the close of the second minute
evicts through the cutoff `102 - 2 = 100`, so the first minute goes and the second stays. -/
theorem close_evicts_through_cutoff_two_minutes :
    let s := ((({} : Store).record "a" ⟨100⟩ 2).1.record "b" ⟨102⟩ 2).1
    let M : Minute := ⟨102⟩
    s.openMinute = some M ∧ s.bucketTotal ≠ 0 ∧ (∀ ser ∈ s.series, ser.Pairwise (·.minute < ·.minute)) ∧
      (M.back 2 = ⟨max (M.index - 2) Minute.first.index⟩ ∧
        (s.rotate 2).1.totals = (s.pushBucket M).totals.filter (fun e => M.back 2 < e.minute) ∧
        (s.rotate 2).1.byCategory.entries =
          (s.pushBucket M).byCategory.entries.filterMap (Store.keptAfter (M.back 2)) ∧
        (0 < 2 → (M.back 2 < M ↔ Minute.first < M))) := by
  intro s M
  have h1 : s.openMinute = some M := by decide
  have h2 : s.bucketTotal ≠ 0 := by decide
  have h3 : ∀ ser ∈ s.series, ser.Pairwise (·.minute < ·.minute) := by decide
  exact ⟨h1, h2, h3, close_evicts_through_cutoff s 2 M h1 h2 h3⟩

/-- At the earliest representable minute the cutoff stops at that minute itself: the close of a
store holding one event there evicts the entry it has just closed, although the minute is later
than itself less the window. -/
theorem close_evicts_earliest_minute :
    let s := (({} : Store).record "a" Minute.first 3).1
    s.openMinute = some Minute.first ∧ Minute.first.index - 3 < Minute.first.index ∧
      (s.pushBucket Minute.first).totals = [⟨Minute.first, 1⟩] ∧ (s.rotate 3).1.totals = [] := by
  decide

/-! ### Appended and held entries -/

namespace Series

/-- How many entries a push at minute `m` appends: one, unless it merges into a last entry of
that minute or is refused because the last entry is later. -/
def appendCount (s : Series) (m : Minute) : Nat :=
  match s.getLast? with
  | none => 1
  | some last => if last.minute = m ∨ m < last.minute then 0 else 1

theorem length_closeInto (s : Series) (m : Minute) {k : Nat} (hk : k ≠ 0) :
    (closeInto s m k).length = s.length + s.appendCount m := by
  rcases List.eq_nil_or_concat s with rfl | ⟨init, last, rfl⟩
  · simp [closeInto, hk, push?, appendCount]
  · rw [List.concat_eq_append]
    by_cases heq : last.minute = m
    · simp [closeInto, hk, push?, appendCount, heq]
    · by_cases hlt : m < last.minute
      · simp [closeInto, hk, push?, appendCount, heq, hlt]
      · simp [closeInto, hk, push?, appendCount, heq, hlt]

end Series

namespace Store

/-- The entries the store holds: those of the totals and of every category's series. -/
def size (s : Store) : Nat := (s.series.map List.length).sum

theorem size_eq (s : Store) : s.size = s.totals.length + (s.byCategory.values.map List.length).sum := by
  simp [size, series]

/-- Pruning keeps what eviction keeps of each series: a forgotten category had nothing left. -/
theorem sum_lengths_prune (l : List (String × Series)) (cut : Minute) :
    (((⟨l⟩ : Keyed Series).prune (keepAfter cut)).values.map List.length).sum =
      (l.map fun e => (e.2.evictThrough cut).1.length).sum := by
  induction l with
  | nil => rfl
  | cons e l ih =>
    simp only [Keyed.prune, Keyed.values, List.filterMap_cons, List.map_cons, List.sum_cons] at ih ⊢
    rw [← ih]
    unfold keepAfter
    dsimp only
    split_ifs with h
    · simp [List.isEmpty_iff.1 h]
    · simp

theorem sum_lengths_evict (p : Store) (cut : Minute) :
    ((p.evict cut).1.byCategory.values.map List.length).sum =
      (p.byCategory.entries.map fun e => (e.2.evictThrough cut).1.length).sum :=
  sum_lengths_prune p.byCategory.entries cut

/-- Eviction counts every entry it removes and no other: those of the categories it forgets
included. -/
theorem size_evict (p : Store) (cut : Minute) : (p.evict cut).1.size + (p.evict cut).2 = p.size := by
  have ht := Series.evictThrough_length p.totals cut
  -- each category's series splits into what is kept and what is counted
  have hcat : (p.byCategory.entries.map fun e => (e.2.evictThrough cut).1.length).sum +
      (p.byCategory.entries.map fun e => (e.2.evictThrough cut).2).sum =
        (p.byCategory.values.map List.length).sum := by
    rw [← List.sum_map_add, Keyed.values, List.map_map]
    congr 1
    apply List.map_congr_left
    intro e _
    exact Series.evictThrough_length e.2 cut
  have hn : (p.evict cut).2 = (p.totals.evictThrough cut).2 +
      (p.byCategory.entries.map fun e => (e.2.evictThrough cut).2).sum := by
    simp only [evict, ← List.sum_eq_foldr]
  rw [size_eq, size_eq, sum_lengths_evict, hn]
  show (p.totals.evictThrough cut).1.length + _ + _ = _
  omega

/-- A category's push closes the count into the series found under the category. -/
theorem pushCategory_fst (m : Minute) (acc : Keyed Series × Rotation) (kv : String × Nat) :
    (pushCategory m acc kv).1 =
      if kv.2 = 0 then acc.1 else acc.1.alter kv.1 fun _ => closeInto ((acc.1.find? kv.1).getD []) m kv.2 := by
  obtain ⟨series, rot⟩ := acc
  obtain ⟨c, n⟩ := kv
  simp only [pushCategory]
  split_ifs with hn
  · rfl
  · split <;> rename_i hp <;> simp [closeInto, hn, hp]

theorem sum_lengths_alterList {k : String} {v : Series} {l : List (String × Series)}
    (h : l.Pairwise (·.1 < ·.1)) :
    ((Keyed.alterList k (fun _ => v) l).map (·.2.length)).sum + ((l.lookup k).getD []).length =
      (l.map (·.2.length)).sum + v.length := by
  induction l with
  | nil => simp [Keyed.alterList]
  | cons e l ih =>
    obtain ⟨k', v'⟩ := e
    rw [List.pairwise_cons] at h
    unfold Keyed.alterList
    split_ifs with h1 h2
    · subst h1
      simp
      omega
    · -- a new name before every other one: nothing was found under it
      have hnone : ((k', v') :: l).lookup k = none :=
        Keyed.lookup_eq_none_of_lt fun e he => by
          rcases List.mem_cons.1 he with rfl | he
          · exact h2
          · exact lt_trans h2 (h.1 e he)
      rw [hnone]
      simp
      omega
    · have hb : (k == k') = false := beq_false_of_ne h1
      simp only [List.map_cons, List.sum_cons, List.lookup_cons, hb]
      have := ih h.2
      omega

theorem sum_lengths_pushCategory (m : Minute) {acc : Keyed Series × Rotation} (hs : acc.1.Sorted)
    (kv : String × Nat) :
    ((pushCategory m acc kv).1.values.map List.length).sum =
      (acc.1.values.map List.length).sum +
        if kv.2 = 0 then 0 else ((acc.1.find? kv.1).getD []).appendCount m := by
  rw [pushCategory_fst]
  split_ifs with hn
  · rfl
  · have h := @sum_lengths_alterList kv.1 (closeInto ((acc.1.find? kv.1).getD []) m kv.2) _ hs
    rw [Series.length_closeInto _ _ hn] at h
    simp only [Keyed.alter, Keyed.values, List.map_map, Keyed.find?] at h ⊢
    simp only [Function.comp_def] at h ⊢
    omega

/-- Pushing a sorted bucket adds to the categories' series one entry per push that appends. -/
theorem sum_lengths_foldl_pushCategory (m : Minute) {l : List (String × Nat)} (hl : l.Pairwise (·.1 < ·.1))
    {acc : Keyed Series × Rotation} (hs : acc.1.Sorted) :
    ((l.foldl (pushCategory m) acc).1.values.map List.length).sum =
      (acc.1.values.map List.length).sum +
        (l.map fun kv => if kv.2 = 0 then 0 else ((acc.1.find? kv.1).getD []).appendCount m).sum := by
  induction l generalizing acc with
  | nil => simp
  | cons kv l ih =>
    rw [List.pairwise_cons] at hl
    rw [List.foldl_cons, ih hl.2 (pushCategory_sorted m hs kv), sum_lengths_pushCategory m hs,
      List.map_cons, List.sum_cons]
    -- the later names are untouched by this push, so their series are still the old ones
    have hrest : (l.map fun kv' => if kv'.2 = 0 then 0 else
          (((pushCategory m acc kv).1.find? kv'.1).getD []).appendCount m) =
        l.map fun kv' => if kv'.2 = 0 then 0 else ((acc.1.find? kv'.1).getD []).appendCount m := by
      apply List.map_congr_left
      intro kv' hkv'
      have hne : kv.1 ≠ kv'.1 := ne_of_lt (hl.1 kv' hkv')
      simp only [pushCategory_find? m hs kv kv'.1, hne, false_and, if_false]
    rw [hrest]
    omega

/-- The entries a close of minute `m` appends: one for each push, of a category's count or of
the total, that does not merge into the series' last entry. -/
def closeAppends (s : Store) (m : Minute) : Nat :=
  (s.bucket.entries.map fun kv => if kv.2 = 0 then 0 else ((s.byCategory.find? kv.1).getD []).appendCount m).sum +
    s.totals.appendCount m

theorem size_pushBucket {s : Store} (hb : s.bucket.Sorted) (hc : s.byCategory.Sorted) (m : Minute)
    (ht : s.bucketTotal ≠ 0) : (s.pushBucket m).size = s.size + s.closeAppends m := by
  have hfold := @sum_lengths_foldl_pushCategory m _ hb (s.byCategory, { minute := some m }) hc
  simp only [size_eq, closeAppends, pushBucket, Series.length_closeInto _ _ ht] at hfold ⊢
  rw [hfold]
  omega

/-! ### Calls and runs -/

/-- One call on a store, with what its close did. -/
def call (w : Nat) (s : Store) : Op → Store × Rotation
  | .record c k => s.record c k w
  | .close => s.rotate w

theorem apply_eq_call (w : Nat) (s : Store) (op : Op) : s.apply w op = (s.call w op).1 := by
  cases op <;> rfl

/-- The entries appended by the close a call makes, if it makes one. -/
def appendsBy (w : Nat) (s : Store) (op : Op) : Nat :=
  match (s.call w op).2.minute with
  | some m => s.closeAppends m
  | none => 0

/-- The entries the closes of a run report as evicted. -/
def evictedAlong (w : Nat) : Store → List Op → Nat
  | _, [] => 0
  | s, op :: ops => (s.call w op).2.evicted + evictedAlong w (s.apply w op) ops

/-- The entries the closes of a run append. -/
def appendedAlong (w : Nat) : Store → List Op → Nat
  | _, [] => 0
  | s, op :: ops => s.appendsBy w op + appendedAlong w (s.apply w op) ops

theorem size_rotate {s : Store} (hb : s.bucket.Sorted) (hc : s.byCategory.Sorted) (w : Nat) :
    (s.rotate w).1.size + (s.rotate w).2.evicted = s.size + s.appendsBy w .close := by
  unfold appendsBy
  cases hm : s.openMinute with
  | none => simp [call, rotate_of_none hm, Rotation.idle]
  | some m =>
    by_cases ht : s.bucketTotal = 0
    · simp [call, rotate_of_zero ht, Rotation.idle]
    · simp only [call, rotate_minute hm ht, rotate_eq_evict hm ht, rotate_evicted hm ht, size_evict,
        size_pushBucket hb hc m ht]

/-- Opening a minute and counting an event leave the series alone. -/
theorem size_countEvent (s : Store) (c : String) : (s.countEvent c).size = s.size := rfl

theorem size_call {s : Store} (hb : s.bucket.Sorted) (hc : s.byCategory.Sorted) (w : Nat) (op : Op) :
    (s.call w op).1.size + (s.call w op).2.evicted = s.size + s.appendsBy w op := by
  cases op with
  | close => exact size_rotate hb hc w
  | record c k =>
    unfold appendsBy
    cases hm : s.openMinute with
    | none =>
      have h2 : (s.record c k w).2 = Rotation.idle := by simp [record, hm]
      simp only [call, record_of_none hm, h2, size_countEvent]
      rfl
    | some o =>
      by_cases hk : o < k
      · have h2 : (s.record c k w).2 = (s.rotate w).2 := by simp [record, hm, hk]
        have hr := size_rotate hb hc w
        simp only [appendsBy, call] at hr
        simp only [call, record_of_lt hm hk, h2, size_countEvent]
        exact hr
      · have h2 : (s.record c k w).2 = Rotation.idle := by simp [record, hm, hk]
        simp only [call, record_of_not_lt hm hk, h2, size_countEvent]
        rfl

end Store

/-- Along every run the store keeps, what its closes evict plus what it holds at the end is
what it held at the start plus what the closes appended. -/
theorem Models.evictedAlong_add_size {w : Nat} {s : Store} {h : History} (hm : Models w s h)
    (ops : List Op) :
    Store.evictedAlong w s ops + (s.applyAll w ops).size = s.size + Store.appendedAlong w s ops := by
  induction ops generalizing s h with
  | nil => simp [Store.evictedAlong, Store.appendedAlong, Store.applyAll]
  | cons op ops ih =>
    have hcall := Store.size_call hm.bucket.sorted hm.categories.sorted w op
    have hnext := ih (hm.apply op)
    simp only [Store.evictedAlong, Store.appendedAlong, Store.applyAll, List.foldl_cons] at hnext ⊢
    rw [Store.apply_eq_call] at hnext ⊢
    omega

namespace Store

theorem record_snd_cases (s : Store) (c : String) (k : Minute) (w : Nat) :
    (s.record c k w).2 = Rotation.idle ∨ (s.record c k w).2 = (s.rotate w).2 := by
  cases hm : s.openMinute with
  | none => exact Or.inl (by simp [record, hm])
  | some o =>
    by_cases hk : o < k
    · exact Or.inr (by simp [record, hm, hk])
    · exact Or.inl (by simp [record, hm, hk])

/-- A call that closes nothing evicts nothing. -/
theorem call_evicted_of_minute_none {s : Store} {w : Nat} {op : Op} (h : (s.call w op).2.minute = none) :
    (s.call w op).2.evicted = 0 := by
  cases op with
  | close => exact rotate_evicted_of_minute_none h
  | record c k =>
    rcases record_snd_cases s c k w with hr | hr <;> simp only [call, hr] at h ⊢
    · rfl
    · exact rotate_evicted_of_minute_none h

theorem evictedAlong_append (w : Nat) (s : Store) (ops ops' : List Op) :
    evictedAlong w s (ops ++ ops') = evictedAlong w s ops + evictedAlong w (s.applyAll w ops) ops' := by
  induction ops generalizing s with
  | nil => simp [evictedAlong, applyAll]
  | cons op ops ih =>
    simp only [List.cons_append, evictedAlong, ih, applyAll, List.foldl_cons]
    omega

end Store

/-- What a close adds to the evicted counter is the count it reports. -/
theorem Rotation.note_evicted (r : Rotation) (c : Counters) (h : r.minute = none → r.evicted = 0) :
    (r.note c).evicted = c.evicted + r.evicted := by
  unfold Rotation.note
  split
  · rename_i hm
    simp [h hm]
  · rfl

namespace Aggregator

theorem record_counters_evicted (a : Aggregator) (c : String) (t : Instant) (cs : Counters) :
    ((a.record c t).run cs).2.evicted = cs.evicted + Store.evictedAlong a.window a.store [.record c t.minute] := by
  show ((a.store.record c t.minute a.window).2.note { cs with recorded := cs.recorded + 1 }).evicted = _
  have h0 : (a.store.record c t.minute a.window).2.minute = none →
      (a.store.record c t.minute a.window).2.evicted = 0 :=
    @Store.call_evicted_of_minute_none a.store a.window (.record c t.minute)
  rw [Rotation.note_evicted _ _ h0]
  simp [Store.evictedAlong, Store.call]

theorem recordTimes_counters_evicted (a : Aggregator) (c : String) (t : Instant) (k : Nat) (cs : Counters) :
    ((a.recordTimes c t k).run cs).2.evicted =
      cs.evicted + Store.evictedAlong a.window a.store (List.replicate k (.record c t.minute)) := by
  induction k generalizing a cs with
  | zero => simp [recordTimes, Store.evictedAlong]; rfl
  | succ k ih =>
    have hstep : ((a.recordTimes c t (k + 1)).run cs).2 =
        ((((a.record c t).run cs).1.recordTimes c t k).run ((a.record c t).run cs).2).2 := rfl
    have hstore : ((a.record c t).run cs).1 =
        { a with store := a.store.apply a.window (.record c t.minute) } := rfl
    rw [hstep, ih, record_counters_evicted, hstore, List.replicate_succ]
    simp only [Store.evictedAlong]
    omega

/-- A step adds to the evicted counter what the closes of its store calls report. -/
theorem step_counters_evicted (a : Aggregator) (st : Step) (cs : Counters) :
    ((a.step st).run cs).2.evicted = cs.evicted + Store.evictedAlong a.window a.store (st.ops a.now) := by
  cases st with
  | record c t => exact record_counters_evicted a c t cs
  | recordMany c t k =>
    rw [show ((a.step (.recordMany c t k)).run cs).2 = ((a.recordTimes c t k).run cs).2 from rfl,
      recordTimes_counters_evicted]
    simp [Step.ops, Step.events, List.map_replicate]
  | recordText c raw =>
    rw [show ((a.step (.recordText c raw)).run cs).2 = ((a.recordText c raw).run cs).2 from rfl]
    unfold recordText
    cases hp : Instant.parse? raw with
    | some t =>
      simpa [Step.ops, Step.events, hp] using record_counters_evicted a c t cs
    | none =>
      simpa [Step.ops, Step.events, hp] using
        record_counters_evicted a c a.now { cs with fallback := cs.fallback + 1 }
  | openMinute | windowMinutes | debug => simp [step, Step.ops, Step.events, Store.evictedAlong]; rfl
  | totalSeries | categorySeries | summary =>
    show ((a.store.rotate a.window).2.note cs).evicted = _
    rw [Rotation.note_evicted _ _ Store.rotate_evicted_of_minute_none]
    simp [Step.ops, Store.evictedAlong, Store.call]

theorem afterSteps_counters_evicted (a : Aggregator) (steps : List Step) (cs : Counters) :
    ((a.afterSteps steps).run cs).2.evicted =
      cs.evicted + Store.evictedAlong a.window a.store (steps.flatMap (Step.ops a.now)) := by
  induction steps generalizing a cs with
  | nil => simp [afterSteps, Store.evictedAlong]; rfl
  | cons st steps ih =>
    have hcons : ((a.afterSteps (st :: steps)).run cs).2 =
        ((((a.step st).run cs).1.2.afterSteps steps).run ((a.step st).run cs).2).2 := rfl
    rw [hcons, ih, step_run, step_counters_evicted, List.flatMap_cons, Store.evictedAlong_append]
    dsimp only
    omega

end Aggregator

/-- **The evicted counter accounts for every removed entry.** After any steps on a fresh
aggregator the evicted counter has grown by the evicted counts its closes reported, and these
add up to the entries ever appended to a series (by pushes that do not merge) less the entries
the store still holds. Each eviction counts exactly the entries it removes, the whole series of
a category it forgets included, and none it keeps. -/
theorem evicted_counter_accounts (w : Nat) (now : Instant) (steps : List Step) (cs : Counters) :
    let ops := steps.flatMap (Step.ops now)
    let r := ((Aggregator.create w now).afterSteps steps).run cs
    r.2.evicted = cs.evicted + Store.evictedAlong (max w 1) {} ops ∧
      Store.evictedAlong (max w 1) {} ops + r.1.store.size = Store.appendedAlong (max w 1) {} ops ∧
      ∀ (p : Store) (cut : Minute), (p.evict cut).1.size + (p.evict cut).2 = p.size := by
  intro ops r
  refine ⟨Aggregator.afterSteps_counters_evicted _ steps cs, ?_, Store.size_evict⟩
  have hstore : r.1.store = ({} : Store).applyAll (max w 1) ops := by
    show (((Aggregator.create w now).afterSteps steps).run cs).1.store = _
    rw [Aggregator.afterSteps_run]
    rfl
  rw [hstore, (Models.empty (max w 1)).evictedAlong_add_size ops]
  simp [Store.size_eq, Keyed.values]
  rfl

end MinuteWindow.Window

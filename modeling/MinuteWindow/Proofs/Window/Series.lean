import Mathlib
import MinuteWindow.Window.Series
/-! Series as counts per minute.

A series is read through `countAt`, the events it holds at each minute. `Counts s L` says that
`s` is *the* series of the minute list `L`: strictly ascending by minute, with no empty entry,
and holding at every minute as many events as `L` lists there. Such a series is unique
(`Counts.unique`), so a series is pinned down by the minutes of its events, whatever the order
of the closes and merges that built it.

The two operations of a close act on that view as expected: closing `k` events at a minute no
earlier than any in `L` succeeds and counts `L ++ replicate k m` (`Counts.push?`), and
eviction of an ascending series is a filter (`evictThrough_eq_filter`), so it counts the
minutes after the cutoff (`Counts.filter`). `minuteCounts` writes the series of an ordered
minute list directly: its distinct minutes in order, each with its count. -/
namespace MinuteWindow.Time.Minute

theorem lt_iff {a b : Minute} : a < b ↔ a.index < b.index := Iff.rfl

theorem le_iff {a b : Minute} : a ≤ b ↔ a.index ≤ b.index := Iff.rfl

theorem eq_iff {a b : Minute} : a = b ↔ a.index = b.index := by
  cases a; cases b; simp

theorem ne_of_lt {a b : Minute} (h : a < b) : a ≠ b := by
  rintro rfl
  exact Int.lt_irrefl _ h

end MinuteWindow.Time.Minute

namespace MinuteWindow.Window.Series
open Time

/-- Events the series holds at minute `m`. -/
def countAt (s : Series) (m : Minute) : Nat := ((s.filter fun e => e.minute = m).map (·.count)).sum

/-- `s` is the series of the minutes `L`: strictly ascending, no empty entry, and at each
minute the number of times `L` lists it. -/
structure Counts (s : Series) (L : List Minute) : Prop where
  ascending : s.Pairwise (·.minute < ·.minute)
  positive : ∀ e ∈ s, 0 < e.count
  countAt_eq : ∀ m, s.countAt m = L.count m

@[simp] theorem countAt_nil (m : Minute) : countAt [] m = 0 := rfl

theorem countAt_cons (e : Entry) (s : Series) (m : Minute) :
    countAt (e :: s) m = (if e.minute = m then e.count else 0) + countAt s m := by
  by_cases h : e.minute = m <;> simp [countAt, h]

theorem countAt_append (s t : Series) (m : Minute) :
    countAt (s ++ t) m = countAt s m + countAt t m := by
  simp [countAt, List.filter_append]

theorem countAt_eq_zero {s : Series} {m : Minute} (h : ∀ e ∈ s, e.minute ≠ m) : countAt s m = 0 := by
  induction s with
  | nil => rfl
  | cons e s ih =>
    rw [countAt_cons, if_neg (h e (by simp)), ih fun f hf => h f (by simp [hf])]

/-- In an ascending series an entry is the only one at its minute. -/
theorem countAt_of_mem {s : Series} (h : s.Pairwise (·.minute < ·.minute)) {e : Entry} (he : e ∈ s) :
    countAt s e.minute = e.count := by
  induction s with
  | nil => cases he
  | cons f s ih =>
    rw [List.pairwise_cons] at h
    rw [countAt_cons]
    rcases List.mem_cons.1 he with rfl | he
    · have hrest : countAt s e.minute = 0 :=
        countAt_eq_zero fun g hg => by
          have := h.1 g hg
          simp only [Minute.lt_iff, ne_eq, Minute.eq_iff] at this ⊢
          omega
      simp [hrest]
    · have hne : f.minute ≠ e.minute := by
        have := h.1 e he
        simp only [Minute.lt_iff, ne_eq, Minute.eq_iff] at this ⊢
        omega
      rw [if_neg hne, ih h.2 he, Nat.zero_add]

/-- A minute with events in the series has an entry. -/
theorem exists_mem_of_countAt_pos {s : Series} {m : Minute} (h : 0 < countAt s m) :
    ∃ e ∈ s, e.minute = m := by
  by_contra hn
  rw [countAt_eq_zero fun e he hem => hn ⟨e, he, hem⟩] at h
  exact Nat.lt_irrefl 0 h

theorem ne_of_minute_lt {a b : Entry} (h : a.minute < b.minute) : a ≠ b := by
  rintro rfl
  exact Minute.ne_of_lt h rfl

namespace Counts
variable {s t : Series} {L : List Minute}

theorem minute_mem (h : s.Counts L) {e : Entry} (he : e ∈ s) : e.minute ∈ L := by
  have hc := h.countAt_eq e.minute
  rw [countAt_of_mem h.ascending he] at hc
  exact List.count_pos_iff.1 (hc ▸ h.positive e he)

/-- The entries of a series are its minutes with their counts. -/
theorem exists_mem (h : s.Counts L) {m : Minute} (hm : m ∈ L) : ∃ e ∈ s, e.minute = m :=
  exists_mem_of_countAt_pos (by rw [h.countAt_eq]; exact List.count_pos_iff.2 hm)

theorem mem_iff (h : s.Counts L) {e : Entry} : e ∈ s ↔ 0 < L.count e.minute ∧ e.count = L.count e.minute := by
  constructor
  · intro he
    have hc : e.count = L.count e.minute := (countAt_of_mem h.ascending he).symm.trans (h.countAt_eq _)
    exact ⟨hc ▸ h.positive e he, hc⟩
  · rintro ⟨hpos, hc⟩
    rw [← h.countAt_eq] at hpos hc
    obtain ⟨f, hf, hfm⟩ := exists_mem_of_countAt_pos hpos
    have hfc : f.count = e.count := by rw [hc, ← hfm, countAt_of_mem h.ascending hf]
    have hfe : f = e := by cases f; cases e; simp_all
    exact hfe ▸ hf

/-- Two series of the same minutes are equal. -/
theorem unique (h₁ : s.Counts L) (h₂ : t.Counts L) : s = t := by
  have hperm : s.Perm t := by
    rw [List.perm_ext_iff_of_nodup (h₁.ascending.imp ne_of_minute_lt) (h₂.ascending.imp ne_of_minute_lt)]
    intro e
    rw [h₁.mem_iff, h₂.mem_iff]
  refine hperm.eq_of_pairwise (fun a b _ _ hab hba => ?_) h₁.ascending h₂.ascending
  simp only [Minute.lt_iff] at hab hba
  omega

theorem nil_iff (h : s.Counts L) : s = [] ↔ L = [] := by
  constructor
  · rintro rfl
    apply List.eq_nil_iff_forall_not_mem.2
    intro m hm
    have := h.countAt_eq m
    rw [countAt_nil] at this
    exact absurd (List.count_pos_iff.2 hm) (by omega)
  · rintro rfl
    apply List.eq_nil_iff_forall_not_mem.2
    intro e he
    exact absurd (h.minute_mem he) (List.not_mem_nil)

theorem nil : Counts [] [] := ⟨List.Pairwise.nil, by simp, by simp⟩

/-- Keeping the minutes after a cutoff keeps the entries after it. -/
theorem filter (h : s.Counts L) (cut : Minute) :
    Counts (s.filter fun e => cut < e.minute) (L.filter fun m => cut < m) := by
  refine ⟨h.ascending.filter _, fun e he => h.positive e (List.mem_of_mem_filter he), fun m => ?_⟩
  by_cases hm : cut < m
  · rw [List.count_filter (by simpa using hm), ← h.countAt_eq]
    unfold countAt
    rw [List.filter_filter]
    congr 2
    apply List.filter_congr
    intro e _
    by_cases he : e.minute = m <;> simp [he, hm]
  · rw [List.count_eq_zero.2 fun hmem => hm (by simpa using (List.mem_filter.1 hmem).2)]
    exact countAt_eq_zero fun e he hem => hm (hem ▸ by simpa using (List.mem_filter.1 he).2)

end Counts

/-- Eviction drops a prefix, which in an ascending series is every entry at or before the
cutoff. -/
theorem evictThrough_eq_filter {s : Series} (h : s.Pairwise (·.minute < ·.minute)) (cut : Minute) :
    (s.evictThrough cut).1 = s.filter fun e => cut < e.minute := by
  induction s with
  | nil => rfl
  | cons e s ih =>
    rw [List.pairwise_cons] at h
    by_cases he : e.minute ≤ cut
    · have hn : ¬ cut < e.minute := by
        simp only [Minute.lt_iff, Minute.le_iff] at he ⊢
        omega
      simp only [evictThrough, List.dropWhile_cons, he, decide_true] at ih ⊢
      simp [ih h.2, hn]
    · have hlt : cut < e.minute := by
        simp only [Minute.lt_iff, Minute.le_iff] at he ⊢
        omega
      have hrest : (s.filter fun f => cut < f.minute) = s :=
        List.filter_eq_self.2 fun f hf => by
          have := h.1 f hf
          simp only [Minute.lt_iff, decide_eq_true_eq] at this hlt ⊢
          omega
      simp [evictThrough, he, hlt, hrest]

theorem Counts.evictThrough {s : Series} {L : List Minute} (h : s.Counts L) (cut : Minute) :
    (s.evictThrough cut).1.Counts (L.filter fun m => cut < m) := by
  rw [evictThrough_eq_filter h.ascending]
  exact h.filter cut

/-- An entry after every minute of a series extends it. -/
theorem Counts.snoc {s : Series} {L : List Minute} {m : Minute} {k : Nat} (h : s.Counts L)
    (hlt : ∀ e ∈ s, e.minute < m) (hk : 0 < k) :
    (s ++ [Entry.mk m k]).Counts (L ++ List.replicate k m) := by
  refine ⟨List.pairwise_append.2 ⟨h.ascending, List.pairwise_singleton _ _, fun a ha b hb => ?_⟩,
    fun e he => ?_, fun x => ?_⟩
  · rw [List.mem_singleton] at hb
    subst hb
    exact hlt a ha
  · rcases List.mem_append.1 he with he | he
    · exact h.positive e he
    · rw [List.mem_singleton] at he
      exact he ▸ hk
  · rw [countAt_append, h.countAt_eq, countAt_cons, List.count_append, List.count_replicate]
    by_cases hx : m = x <;> simp [hx]

/-- Closing `k` events at a minute no earlier than any counted one succeeds, merging into the
last entry when it has that minute. -/
theorem Counts.push? {s : Series} {L : List Minute} {m : Minute} {k : Nat} (h : s.Counts L)
    (hle : ∀ x ∈ L, x ≤ m) (hk : 0 < k) :
    ∃ t, s.push? m k = some t ∧ t.Counts (L ++ List.replicate k m) := by
  rcases List.eq_nil_or_concat s with rfl | ⟨init, last, rfl⟩
  · -- an empty series starts with the new entry
    have hL : L = [] := h.nil_iff.1 rfl
    subst hL
    exact ⟨[⟨m, k⟩], rfl, by simpa using Counts.nil.snoc (fun e he => nomatch he) hk⟩
  rw [List.concat_eq_append] at h ⊢
  have hinit : ∀ e ∈ init, e.minute < last.minute := by
    have := h.ascending
    rw [List.pairwise_append] at this
    exact fun e he => this.2.2 e he last (by simp)
  have hlm : last.minute ≤ m := hle _ (h.minute_mem (by simp))
  by_cases heq : last.minute = m
  · -- the last entry has the minute: its count grows
    have hcount : ∀ x, (L ++ List.replicate k m).count x = L.count x + if m = x then k else 0 := by
      intro x
      by_cases hx : m = x <;> simp [List.count_replicate, hx]
    refine ⟨init ++ [⟨m, last.count + k⟩], by simp [Series.push?, heq], ?_, ?_, fun x => ?_⟩
    · rw [List.pairwise_append]
      refine ⟨(List.pairwise_append.1 h.ascending).1, List.pairwise_singleton _ _, ?_⟩
      intro a ha b hb
      rw [List.mem_singleton] at hb
      subst hb
      exact heq ▸ hinit a ha
    · intro e he
      rcases List.mem_append.1 he with he | he
      · exact h.positive e (by simp [he])
      · rw [List.mem_singleton] at he
        subst he
        simp only
        omega
    · rw [hcount, ← h.countAt_eq, countAt_append, countAt_append]
      by_cases hx : m = x
      · simp [countAt_cons, hx, heq]
        omega
      · simp [countAt_cons, hx, heq]
  · -- a later minute: a new entry after the last one
    have hlt : last.minute < m := by
      simp only [Minute.le_iff, Minute.lt_iff, Minute.eq_iff] at hlm heq ⊢
      omega
    have hnot : ¬ m < last.minute := by
      simp only [Minute.lt_iff] at hlt ⊢
      omega
    refine ⟨init ++ [last] ++ [⟨m, k⟩], by simp [Series.push?, heq, hnot], h.snoc (fun e he => ?_) hk⟩
    rcases List.mem_append.1 he with he | he
    · have := hinit e he
      simp only [Minute.lt_iff] at this hlt ⊢
      omega
    · rw [List.mem_singleton] at he
      exact he ▸ hlt

/-! ### The series of a minute list -/

/-- The distinct minutes of `L`, each with the number of times `L` lists it. For an ordered
list these come in ascending order. -/
def minuteCounts (L : List Minute) : Series := L.dedup.map fun m => ⟨m, L.count m⟩

theorem counts_minuteCounts {L : List Minute} (h : L.Pairwise (· ≤ ·)) : (minuteCounts L).Counts L := by
  have hasc : L.dedup.Pairwise (· < ·) := by
    have hle := h.sublist (List.dedup_sublist L)
    refine (hle.and (List.nodup_dedup L)).imp fun ⟨hab, hne⟩ => ?_
    simp only [Minute.le_iff, Minute.lt_iff, ne_eq, Minute.eq_iff] at hab hne ⊢
    omega
  refine ⟨List.pairwise_map.2 (hasc.imp id), ?_, fun m => ?_⟩
  · intro e he
    obtain ⟨x, hx, rfl⟩ := List.mem_map.1 he
    exact List.count_pos_iff.2 (List.mem_dedup.1 hx)
  · by_cases hm : m ∈ L
    · have hmem : (⟨m, L.count m⟩ : Entry) ∈ minuteCounts L :=
        List.mem_map.2 ⟨m, List.mem_dedup.2 hm, rfl⟩
      exact countAt_of_mem (List.pairwise_map.2 (hasc.imp id)) hmem
    · rw [List.count_eq_zero.2 hm]
      apply countAt_eq_zero
      intro e he hem
      obtain ⟨x, hx, rfl⟩ := List.mem_map.1 he
      exact hm (hem ▸ List.mem_dedup.1 hx)

theorem Counts.eq_minuteCounts {s : Series} {L : List Minute} (h : s.Counts L) (hL : L.Pairwise (· ≤ ·)) :
    s = minuteCounts L :=
  h.unique (counts_minuteCounts hL)

/-! ### Totals -/

theorem total_eq_sum (s : Series) : s.total = (s.map (·.count)).sum := by
  induction s with
  | nil => rfl
  | cons e s ih => simp [total, List.foldr_cons] at ih ⊢; omega

/-- A series holds as many events as its minute list. -/
theorem Counts.total_eq {s : Series} {L : List Minute} (h : s.Counts L) : s.total = L.length := by
  have hperm : (s.map (·.minute)).Perm L.dedup := by
    rw [List.perm_ext_iff_of_nodup ((List.pairwise_map.2 h.ascending).imp Minute.ne_of_lt)
      (List.nodup_dedup L)]
    intro m
    rw [List.mem_dedup, List.mem_map]
    constructor
    · rintro ⟨e, he, rfl⟩
      exact h.minute_mem he
    · intro hm
      have hpos : 0 < s.countAt m := (h.countAt_eq m).symm ▸ List.count_pos_iff.2 hm
      exact exists_mem_of_countAt_pos hpos
  have hcount : s.map (·.count) = (s.map (·.minute)).map L.count := by
    rw [List.map_map]
    apply List.map_congr_left
    intro e he
    exact (countAt_of_mem h.ascending he).symm.trans (h.countAt_eq _)
  rw [total_eq_sum, hcount, (hperm.map _).sum_eq, List.sum_map_count_dedup_eq_length]

end MinuteWindow.Window.Series

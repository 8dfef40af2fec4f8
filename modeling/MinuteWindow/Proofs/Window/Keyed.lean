import Mathlib
import MinuteWindow.Window.Keyed
/-! Sorted keyed maps.

A keyed map is `Sorted` when its names are strictly ascending; then each name occurs once, and
the map is determined by what `find?` answers (`Keyed.ext`). Altering a name and pruning values
keep a map sorted, and on a sorted map they act on `find?` as a finite function would:
`find?_alter_self` and `find?_alter_ne` for an alteration, `find?_prune` for a prune. A sum over
the values of a sorted map is a sum over its names (`sum_values`). -/
namespace MinuteWindow.Window.Keyed
variable {α β : Type}

/-- The names are strictly ascending. -/
def Sorted (m : Keyed α) : Prop := m.entries.Pairwise (·.1 < ·.1)

@[simp] theorem find?_empty (k : String) : (({} : Keyed α)).find? k = none := rfl

theorem sorted_empty : ({} : Keyed α).Sorted := List.Pairwise.nil

theorem lookup_eq_none_of_lt {l : List (String × α)} {k : String} (h : ∀ e ∈ l, k < e.1) :
    l.lookup k = none := by
  induction l with
  | nil => rfl
  | cons e l ih =>
    have hne : (k == e.1) = false := beq_false_of_ne (ne_of_lt (h e (by simp)))
    rw [List.lookup_cons, hne]
    exact ih fun f hf => h f (by simp [hf])

/-- In a sorted list the value found at a name is the one listed with it. -/
theorem lookup_eq_some_iff {l : List (String × α)} (h : l.Pairwise (·.1 < ·.1)) {k : String} {v : α} :
    l.lookup k = some v ↔ (k, v) ∈ l := by
  induction l with
  | nil => simp
  | cons e l ih =>
    obtain ⟨k', v'⟩ := e
    rw [List.pairwise_cons] at h
    by_cases hk : k = k'
    · subst hk
      have hnot : (k, v) ∉ l := fun hm => lt_irrefl k (h.1 _ hm)
      simp [hnot, eq_comm]
    · have hb : (k == k') = false := beq_false_of_ne hk
      simp [List.lookup_cons, hb, hk, ih h.2]

theorem find?_eq_some_iff {m : Keyed α} (h : m.Sorted) {k : String} {v : α} :
    m.find? k = some v ↔ (k, v) ∈ m.entries :=
  lookup_eq_some_iff h

/-! ### Alteration -/

theorem mem_alterList {k : String} {f : Option α → α} {l : List (String × α)} {e : String × α}
    (he : e ∈ alterList k f l) : e.1 = k ∨ e ∈ l := by
  induction l with
  | nil => simp [alterList] at he; simp [he]
  | cons e' l ih =>
    obtain ⟨k', v'⟩ := e'
    unfold alterList at he
    split_ifs at he with h1 h2
    · rcases List.mem_cons.1 he with rfl | he
      · simp
      · simp [he]
    · rcases List.mem_cons.1 he with rfl | he
      · simp
      · simp [he]
    · rcases List.mem_cons.1 he with rfl | he
      · simp
      · rcases ih he with h | h
        · exact Or.inl h
        · simp [h]

theorem alterList_sorted {k : String} {f : Option α → α} {l : List (String × α)}
    (h : l.Pairwise (·.1 < ·.1)) : (alterList k f l).Pairwise (·.1 < ·.1) := by
  induction l with
  | nil => simp [alterList]
  | cons e l ih =>
    obtain ⟨k', v'⟩ := e
    rw [List.pairwise_cons] at h
    unfold alterList
    split_ifs with h1 h2
    · subst h1
      exact List.pairwise_cons.2 ⟨h.1, h.2⟩
    · refine List.pairwise_cons.2 ⟨fun e he => ?_, List.pairwise_cons.2 h⟩
      rcases List.mem_cons.1 he with rfl | he
      · exact h2
      · exact lt_trans h2 (h.1 e he)
    · have hlt : k' < k := lt_of_le_of_ne (not_lt.1 h2) (Ne.symm h1)
      refine List.pairwise_cons.2 ⟨fun e he => ?_, ih h.2⟩
      rcases mem_alterList he with he | he
      · exact he ▸ hlt
      · exact h.1 e he

theorem alter_sorted {m : Keyed α} (h : m.Sorted) (k : String) (f : Option α → α) :
    (m.alter k f).Sorted :=
  alterList_sorted h

theorem find?_alterList_self {k : String} {f : Option α → α} {l : List (String × α)}
    (h : l.Pairwise (·.1 < ·.1)) : (alterList k f l).lookup k = some (f (l.lookup k)) := by
  induction l with
  | nil => simp [alterList]
  | cons e l ih =>
    obtain ⟨k', v'⟩ := e
    rw [List.pairwise_cons] at h
    unfold alterList
    split_ifs with h1 h2
    · subst h1
      simp
    · have hnone : ((k', v') :: l).lookup k = none :=
        lookup_eq_none_of_lt fun e he => by
          rcases List.mem_cons.1 he with rfl | he
          · exact h2
          · exact lt_trans h2 (h.1 e he)
      simp [List.lookup_cons, ← hnone]
    · have hb : (k == k') = false := beq_false_of_ne h1
      simp only [List.lookup_cons, hb]
      exact ih h.2

/-- Altering a name of a sorted map sets its value to `f` of the old one. -/
theorem find?_alter_self {m : Keyed α} (h : m.Sorted) (k : String) (f : Option α → α) :
    (m.alter k f).find? k = some (f (m.find? k)) :=
  find?_alterList_self h

/-! ### Pruning -/

theorem prune_sorted {m : Keyed α} (h : m.Sorted) (f : α → Option β) : (m.prune f).Sorted := by
  refine h.filterMap _ fun a a' hlt b hb b' hb' => ?_
  obtain ⟨w, -, rfl⟩ := Option.map_eq_some_iff.1 hb
  obtain ⟨w', -, rfl⟩ := Option.map_eq_some_iff.1 hb'
  exact hlt

/-- Pruning a sorted map prunes the value found at every name. -/
theorem find?_prune {m : Keyed α} (h : m.Sorted) (f : α → Option β) (k : String) :
    (m.prune f).find? k = (m.find? k).bind f := by
  obtain ⟨l⟩ := m
  unfold Sorted at h
  simp only [find?, prune] at h ⊢
  induction l with
  | nil => rfl
  | cons e l ih =>
    obtain ⟨k', v'⟩ := e
    rw [List.pairwise_cons] at h
    by_cases hk : k = k'
    · subst hk
      have hrest : (l.filterMap fun (e : String × α) => (f e.2).map (e.1, ·)).lookup k = none := by
        apply lookup_eq_none_of_lt
        intro e he
        obtain ⟨e', he', hmap⟩ := List.mem_filterMap.1 he
        obtain ⟨w, -, rfl⟩ := Option.map_eq_some_iff.1 hmap
        exact h.1 e' he'
      cases hf : f v' <;> simp [hf, hrest]
    · have hb : (k == k') = false := beq_false_of_ne hk
      cases hf : f v' <;> simp [hf, List.lookup_cons, hb, ih h.2]

/-! ### Names and values -/

theorem keys_nodup {m : Keyed α} (h : m.Sorted) : m.keys.Nodup :=
  (List.pairwise_map.2 h).imp ne_of_lt

theorem mem_keys_of_find? {m : Keyed α} (h : m.Sorted) {k : String} {v : α} (hk : m.find? k = some v) :
    k ∈ m.keys :=
  List.mem_map.2 ⟨(k, v), (find?_eq_some_iff h).1 hk, rfl⟩

/-- Adding up a function of the values of a sorted map is adding up, over its names, what the
function gives at the value found there. -/
theorem sum_values {m : Keyed α} (h : m.Sorted) (f : α → Nat) (g : String → Nat)
    (hfg : ∀ k v, m.find? k = some v → f v = g k) : (m.values.map f).sum = (m.keys.map g).sum := by
  unfold values keys
  rw [List.map_map, List.map_map]
  congr 1
  apply List.map_congr_left
  rintro ⟨k, v⟩ hkv
  exact hfg k v ((find?_eq_some_iff h).2 hkv)

/-! ### Extensionality -/

/-- A sorted map is determined by the values it finds. -/
theorem ext {m₁ m₂ : Keyed α} (h₁ : m₁.Sorted) (h₂ : m₂.Sorted) (h : ∀ k, m₁.find? k = m₂.find? k) :
    m₁ = m₂ := by
  have hnodup : ∀ {m : Keyed α}, m.Sorted → m.entries.Nodup := fun hm =>
    hm.imp fun {a b} hab => by
      rintro rfl
      exact lt_irrefl a.1 hab
  have hperm : m₁.entries.Perm m₂.entries := by
    rw [List.perm_ext_iff_of_nodup (hnodup h₁) (hnodup h₂)]
    rintro ⟨k, v⟩
    rw [← find?_eq_some_iff h₁, ← find?_eq_some_iff h₂, h k]
  have heq := hperm.eq_of_pairwise (fun a b _ _ hab hba => absurd hba (lt_asymm hab)) h₁ h₂
  cases m₁
  cases m₂
  simp only at heq
  rw [heq]

end MinuteWindow.Window.Keyed

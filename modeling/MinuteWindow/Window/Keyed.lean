/-! Maps keyed by category name.

A `Keyed α` holds at most one value per category name, kept in ascending order of the names
(the order of their UTF-8 bytes, which is the order of their code points). `alter` replaces or
inserts the value at one name and `prune` changes or removes every value.

`find?_alter_ne`: altering one name leaves every other name's value as it was. -/
namespace MinuteWindow.Window

/-- Values keyed by category name, in ascending order of the names. -/
structure Keyed (α : Type) where
  entries : List (String × α)
  deriving Repr

namespace Keyed
variable {α β : Type}

/-- No names. -/
def empty : Keyed α := ⟨[]⟩

instance : EmptyCollection (Keyed α) := ⟨empty⟩

/-- The value at a name. -/
def find? (m : Keyed α) (k : String) : Option α := (m.entries.lookup k)

/-- Sets the value at `k` to `f` of the old one; a new name goes in its place in the order. -/
def alterList (k : String) (f : Option α → α) : List (String × α) → List (String × α)
  | [] => [(k, f none)]
  | (k', v) :: rest =>
    if k = k' then (k, f (some v)) :: rest
    else if k < k' then (k, f none) :: (k', v) :: rest
    else (k', v) :: alterList k f rest

/-- Sets the value at `k` to `f` of the old one. -/
def alter (m : Keyed α) (k : String) (f : Option α → α) : Keyed α := ⟨alterList k f m.entries⟩

/-- Applies a function to every value, dropping those sent to `none`. -/
def prune (m : Keyed α) (f : α → Option β) : Keyed β :=
  ⟨m.entries.filterMap fun (k, v) => (f v).map (k, ·)⟩

/-- The names, in order. -/
def keys (m : Keyed α) : List String := m.entries.map (·.1)

/-- The values, in the order of their names. -/
def values (m : Keyed α) : List α := m.entries.map (·.2)

theorem find?_alterList_ne (k j : String) (f : Option α → α) (l : List (String × α))
    (h : j ≠ k) : (alterList k f l).lookup j = l.lookup j := by
  have hjk : (j == k) = false := by simpa [beq_iff_eq] using h
  induction l with
  | nil => simp [alterList, List.lookup_cons, hjk]
  | cons kv rest ih =>
    obtain ⟨k', v⟩ := kv
    unfold alterList
    by_cases hk : k = k'
    · subst hk; simp [List.lookup_cons, hjk]
    · by_cases hl : k < k'
      · simp [hk, hl, List.lookup_cons, hjk]
      · by_cases hj : j = k'
        · subst hj; simp [hk, hl]
        · have hb : (j == k') = false := by simpa [beq_iff_eq] using hj
          simp [hk, hl, List.lookup_cons, hb, ih]

theorem find?_alter_ne (m : Keyed α) (k j : String) (f : Option α → α) (h : j ≠ k) :
    (m.alter k f).find? j = m.find? j :=
  find?_alterList_ne k j f m.entries h

end Keyed
end MinuteWindow.Window

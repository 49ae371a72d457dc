import Mathlib.Data.List.Sort
import Mathlib.Order.Lattice

namespace LoraEval.Core

structure Table (κ β : Type) [LinearOrder κ] where
  rows : List (κ × β)
  ordered : rows.Pairwise fun first second => first.1 < second.1

variable {κ β : Type} [LinearOrder κ]

namespace Table

def empty : Table κ β := ⟨[], .nil⟩

def keys (table : Table κ β) : List κ := table.rows.map Prod.fst

def find (table : Table κ β) (key : κ) : Option β := table.rows.lookup key

def lastKey (table : Table κ β) : Option κ := table.keys.getLast?

/-- A row for the key, in the place of the row it had before. -/
def insert (table : Table κ β) (key : κ) (value : β) : Table κ β where
  rows := table.rows.filter (·.1 < key) ++ (key, value) :: table.rows.filter (key < ·.1)
  ordered := by
    refine List.pairwise_append.mpr ⟨table.ordered.filter _, ?_, ?_⟩
    · refine List.pairwise_cons.mpr ⟨fun row member => ?_, table.ordered.filter _⟩
      simpa using (List.mem_filter.mp member).2
    · intro first before second after
      have low : first.1 < key := by simpa using (List.mem_filter.mp before).2
      rcases List.mem_cons.mp after with rfl | later
      · exact low
      · exact low.trans (by simpa using (List.mem_filter.mp later).2)

def remove (table : Table κ β) (key : κ) : Table κ β where
  rows := table.rows.filter (·.1 ≠ key)
  ordered := table.ordered.filter _

theorem find_eq_some_iff (table : Table κ β) (key : κ) (value : β) :
    table.find key = some value ↔ (key, value) ∈ table.rows := by
  obtain ⟨rows, ordered⟩ := table
  change rows.lookup key = some value ↔ (key, value) ∈ rows
  induction rows with
  | nil => simp
  | cons row rest ih =>
    obtain ⟨other, held⟩ := row
    obtain ⟨least, later⟩ := List.pairwise_cons.mp ordered
    by_cases same : key = other
    · subst same
      have absent : (key, value) ∉ rest := fun member => lt_irrefl key (least _ member)
      simp [absent, eq_comm]
    · have different : (key == other) = false := by simpa using same
      rw [List.lookup_cons, different, ih later]
      simp [same]

@[simp] theorem find_empty (key : κ) : (empty : Table κ β).find key = none := rfl

theorem find_insert (table : Table κ β) (key other : κ) (value : β) :
    (table.insert key value).find other = if other = key then some value else table.find other := by
  apply Option.ext
  intro found
  rw [find_eq_some_iff]
  by_cases same : other = key
  · simp [insert, same, eq_comm]
  · have side : other < key ∨ key < other := lt_or_gt_of_ne same
    simp only [insert, List.mem_append, List.mem_cons, List.mem_filter, Prod.mk.injEq, same, false_and,
      false_or, decide_eq_true_eq, if_false, find_eq_some_iff]
    rw [← and_or_left, and_iff_left side]

theorem find_remove (table : Table κ β) (key other : κ) :
    (table.remove key).find other = if other = key then none else table.find other := by
  apply Option.ext
  intro found
  rw [find_eq_some_iff]
  by_cases same : other = key <;> simp [remove, same, find_eq_some_iff]

theorem mem_keys_iff (table : Table κ β) (key : κ) : key ∈ table.keys ↔ (table.find key).isSome := by
  rw [Option.isSome_iff_exists, keys, List.mem_map]
  simp only [find_eq_some_iff]
  exact ⟨fun ⟨row, member, same⟩ => ⟨row.2, same ▸ member⟩, fun ⟨value, member⟩ => ⟨_, member, rfl⟩⟩

theorem keys_ordered (table : Table κ β) : table.keys.Pairwise (· < ·) := List.pairwise_map.mpr table.ordered

/-- The keys are listed in the same order in every table that has them. -/
theorem keys_congr {first second : Table κ β}
    (same : ∀ key, (first.find key).isSome ↔ (second.find key).isSome) : first.keys = second.keys := by
  refine List.Pairwise.eq_of_mem_iff first.keys_ordered second.keys_ordered fun key => ?_
  rw [mem_keys_iff, mem_keys_iff]
  exact same key

theorem insert_above (table : Table κ β) (above : ∀ other ∈ table.keys, other < key) (value : β) :
    (table.insert key value).rows = table.rows ++ [(key, value)] := by
  have low : ∀ row ∈ table.rows, row.1 < key := fun row member => above row.1 (List.mem_map_of_mem member)
  have kept : table.rows.filter (·.1 < key) = table.rows := by
    simpa [List.filter_eq_self] using low
  have none : table.rows.filter (key < ·.1) = [] := by
    simpa [List.filter_eq_nil_iff] using fun a b member => le_of_lt (low (a, b) member)
  simp only [insert, kept, none]

theorem lastKey_insert_above (table : Table κ β) (above : ∀ other ∈ table.keys, other < key) (value : β) :
    (table.insert key value).lastKey = some key := by
  rw [lastKey, keys, table.insert_above above value]
  simp

end Table

end LoraEval.Core

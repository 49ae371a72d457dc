import LoraEval.Core.Loop

namespace LoraEval.Core

/-- A checked store: an index outside the array is a failure. -/
def store (buffer : Vector α n) (index : Nat) (value : α) : Option (Vector α n) :=
  if bound : index < n then some (buffer.set index value bound) else none

theorem store_spec (buffer : Vector α n) (value : α) (bound : index < n) :
    ∃ next, store buffer index value = some next ∧ next[index]? = some value ∧
      ∀ other, other ≠ index → next[other]? = buffer[other]? := by
  refine ⟨buffer.set index value bound, by simp [store, bound], by simp, ?_⟩
  intro other different
  simp [Ne.symm different]

/-- Store a computed value at every listed index; reading the value may fail too. -/
def fill (indices : List Nat) (value : Nat → Option α) (buffer : Vector α n) : Option (Vector α n) :=
  forEach indices (fun index buffer => value index >>= store buffer index) buffer

theorem fill_spec {indices : List Nat} {value : Nat → Option α} {content : Nat → α}
    (bound : ∀ index ∈ indices, index < n)
    (defined : ∀ index ∈ indices, value index = some (content index)) (buffer : Vector α n) :
    ∃ next, fill indices value buffer = some next ∧
      (∀ index ∈ indices, next[index]? = some (content index)) ∧
      ∀ other, other ∉ indices → next[other]? = buffer[other]? := by
  induction indices generalizing buffer with
  | nil => exact ⟨buffer, rfl, by simp, by simp⟩
  | cons index rest ih =>
    obtain ⟨first, stored, written, kept⟩ := store_spec buffer (content index) (bound index (by simp))
    obtain ⟨next, filled, contents, others⟩ := ih (fun other member => bound other (by simp [member]))
      (fun other member => defined other (by simp [member])) first
    refine ⟨next, ?_, ?_, ?_⟩
    · have head := defined index (by simp)
      simp only [fill, forEach, List.foldlM_cons] at filled ⊢
      simp only [head, Option.bind_eq_bind, Option.bind_some, stored]
      exact filled
    · intro other member
      by_cases later : other ∈ rest
      · exact contents other later
      · have same : other = index := by simpa [later] using member
        rw [others other later, same, written]
    · intro other absent
      have ⟨different, later⟩ : other ≠ index ∧ other ∉ rest := by simpa using absent
      rw [others other later, kept other different]

theorem fill_inside {indices : List Nat} {value : Nat → Option α} {buffer next : Vector α n}
    (filled : fill indices value buffer = some next) : ∀ index ∈ indices, index < n := by
  induction indices generalizing buffer with
  | nil => simp
  | cons index rest ih =>
    obtain ⟨first, head, tail⟩ := Option.bind_eq_some_iff.mp filled
    obtain ⟨item, -, stored⟩ := Option.bind_eq_some_iff.mp head
    have bound : index < n := by
      by_contra beyond
      simp [store, beyond] at stored
    exact List.forall_mem_cons.mpr ⟨bound, ih tail⟩

/-- Copy as many items as fit to the front; the remaining cells keep their content. -/
def overwrite (buffer : Vector α n) (items : List α) : Vector α n :=
  ⟨(items.take n ++ buffer.toList.drop items.length).toArray, by simp; omega⟩

private theorem overwrite_getElem? (buffer : Vector α n) (items : List α) (index : Nat) :
    (overwrite buffer items)[index]? = (items.take n ++ buffer.toList.drop items.length)[index]? := by
  rw [← Vector.getElem?_toList]
  rfl

theorem overwrite_front (buffer : Vector α n) (inside : index < items.length) (bound : index < n) :
    (overwrite buffer items)[index]? = items[index]? := by
  rw [overwrite_getElem?, List.getElem?_append_left (by simp; omega), List.getElem?_take_of_lt bound]

theorem overwrite_rest (buffer : Vector α n) (beyond : items.length ≤ index) :
    (overwrite buffer items)[index]? = buffer[index]? := by
  by_cases bound : index < n
  · have whole : items.take n = items := List.take_of_length_le (by omega)
    rw [overwrite_getElem?, whole, List.getElem?_append_right beyond, List.getElem?_drop,
      Nat.add_sub_cancel' beyond, Vector.getElem?_toList]
  · rw [Vector.getElem?_eq_none (by omega), Vector.getElem?_eq_none (by omega)]

theorem overwrite_nil (buffer : Vector α n) : overwrite buffer [] = buffer := by
  apply Vector.ext
  intro index inside
  simpa [inside] using overwrite_rest buffer (show ([] : List α).length ≤ index by simp)

/-- The copied items are the front of the array, whatever it held before. -/
theorem overwrite_take (buffer : Vector α n) (fits : items.length ≤ n) :
    (overwrite buffer items).toList.take items.length = items := by
  apply List.ext_getElem?
  intro index
  by_cases inside : index < items.length
  · rw [List.getElem?_take_of_lt inside, Vector.getElem?_toList,
      overwrite_front buffer inside (by omega)]
  · rw [List.getElem?_eq_none (by simp; omega), List.getElem?_eq_none (by omega)]

/-- An item list as long as the array leaves nothing of the old content. -/
theorem overwrite_full (buffer : Vector α n) (full : items.length = n) :
    (overwrite buffer items).toList = items := by
  have front := overwrite_take buffer (Nat.le_of_eq full)
  rwa [List.take_of_length_le (by simp [full])] at front

/-- The front of the array after a copy: the items, then what they did not reach. -/
theorem overwrite_take_eq (buffer : Vector α n) (items : List α) (bound : count ≤ n) :
    (overwrite buffer items).toList.take count =
      items.take count ++ (buffer.toList.take count).drop items.length := by
  have whole : (overwrite buffer items).toList = items.take n ++ buffer.toList.drop items.length := rfl
  rw [whole, List.take_append, List.take_take, Nat.min_eq_left bound, List.drop_take, List.length_take]
  by_cases short : items.length ≤ n
  · rw [Nat.min_eq_right short]
  · rw [List.drop_of_length_le (by simp; omega), List.take_nil, List.take_nil]

theorem fill_copy [Inhabited α] (buffer : Vector α n) {source : List α} (read : count ≤ source.length)
    (fits : count ≤ n) :
    fill (List.range count) (source[·]?) buffer = some (overwrite buffer (source.take count)) := by
  have bound : ∀ index ∈ List.range count, index < n := fun index member =>
    Nat.lt_of_lt_of_le (List.mem_range.mp member) fits
  have defined : ∀ index ∈ List.range count, source[index]? = some (source[index]?.getD default) := by
    intro index member
    rw [List.getElem?_eq_getElem (Nat.lt_of_lt_of_le (List.mem_range.mp member) read)]
    rfl
  obtain ⟨next, filled, contents, others⟩ := fill_spec bound defined buffer
  have size : (source.take count).length = count := List.length_take_of_le read
  suffices same : next = overwrite buffer (source.take count) by rw [filled, same]
  refine Vector.toList_inj.mp (List.ext_getElem? fun index => ?_)
  rw [Vector.getElem?_toList, Vector.getElem?_toList]
  by_cases copied : index < count
  · rw [contents index (List.mem_range.mpr copied), ← defined index (List.mem_range.mpr copied),
      overwrite_front buffer (size.symm ▸ copied) (Nat.lt_of_lt_of_le copied fits),
      List.getElem?_take_of_lt copied]
  · rw [others index (mt List.mem_range.mp copied), overwrite_rest buffer (by omega)]

end LoraEval.Core

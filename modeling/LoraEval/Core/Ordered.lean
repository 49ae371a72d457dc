import Mathlib.Data.List.SplitBy

namespace LoraEval.Core

/-- Skip every item that has the label of the item before it. -/
def dropRepeats [DecidableEq κ] (label : α → κ) : Option κ → List α → List α
  | _, [] => []
  | last, item :: rest =>
    if some (label item) = last then dropRepeats label last rest
    else item :: dropRepeats label (some (label item)) rest

theorem dropRepeats_sublist [DecidableEq κ] (label : α → κ) (last : Option κ) (items : List α) :
    (dropRepeats label last items).Sublist items := by
  induction items generalizing last with
  | nil => exact .slnil
  | cons item rest ih =>
    rw [dropRepeats]
    split
    · exact .cons item (ih last)
    · exact .cons_cons item (ih _)

def Nondecreasing (key : α → Int) (items : List α) : Prop :=
  items.Pairwise fun first second => key first ≤ key second

def Increasing (key : α → Int) (items : List α) : Prop :=
  items.Pairwise fun first second => key first < key second

def below (key : α → Int) (bound : Int) (items : List α) : List α :=
  items.filter fun item => key item < bound

def between (key : α → Int) (low high : Int) (items : List α) : List α :=
  items.filter fun item => low ≤ key item ∧ key item < high

section

variable {key : α → Int}

private theorem dropRepeats_some (ordered : Nondecreasing key items)
    (least : ∀ item ∈ items, last ≤ key item) :
    dropRepeats key (some last) items =
        (items.filter fun item => key item ≠ last).eraseDupsBy (fun first second => key first == key second) ∧
      Increasing key (dropRepeats key (some last) items) ∧
      ∀ item ∈ dropRepeats key (some last) items, last < key item := by
  induction items generalizing last with
  | nil => exact ⟨rfl, .nil, by simp [dropRepeats]⟩
  | cons item rest ih =>
    obtain ⟨first, others⟩ := List.pairwise_cons.mp ordered
    by_cases same : key item = last
    · have skipped := ih others fun other member => least other (List.mem_cons_of_mem item member)
      simpa [dropRepeats, same] using skipped
    · have above : last < key item := by
        have := least item List.mem_cons_self
        omega
      obtain ⟨kept, increasing, greater⟩ := ih others first
      have step : dropRepeats key (some last) (item :: rest) =
          item :: dropRepeats key (some (key item)) rest := by
        simp [dropRepeats, same]
      have fresh : ∀ other ∈ rest, key other ≠ last := by
        intro other member
        have := first other member
        omega
      have whole : (item :: rest).filter (fun other => key other ≠ last) = item :: rest := by
        simpa [same] using fresh
      refine ⟨?_, ?_, ?_⟩
      · rw [step, whole, List.eraseDupsBy_cons, kept]
        simp
      · rw [step]
        exact .cons greater increasing
      · intro other member
        rw [step] at member
        rcases List.mem_cons.mp member with rfl | later
        · exact above
        · have := greater other later
          omega

/-- In nondecreasing order only the first item of each key is kept, and the keys of
the kept items increase. -/
theorem dropRepeats_first (ordered : Nondecreasing key items) :
    dropRepeats key none items = items.eraseDupsBy (fun first second => key first == key second) ∧
      Increasing key (dropRepeats key none items) := by
  cases items with
  | nil => exact ⟨rfl, .nil⟩
  | cons item rest =>
    obtain ⟨first, others⟩ := List.pairwise_cons.mp ordered
    obtain ⟨kept, increasing, greater⟩ := dropRepeats_some others first
    have step : dropRepeats key none (item :: rest) = item :: dropRepeats key (some (key item)) rest := by
      simp [dropRepeats]
    refine ⟨?_, ?_⟩
    · rw [step, List.eraseDupsBy_cons, kept]
      simp
    · rw [step]
      exact .cons greater increasing

theorem Increasing.dropRepeats_eq (increasing : Increasing key items)
    (above : ∀ bound ∈ last, ∀ item ∈ items, bound < key item) : dropRepeats key last items = items := by
  induction items generalizing last with
  | nil => rfl
  | cons item rest ih =>
    obtain ⟨first, others⟩ := List.pairwise_cons.mp increasing
    have fresh : some (key item) ≠ last := by
      intro same
      exact Int.lt_irrefl _ (above (key item) same.symm item List.mem_cons_self)
    rw [dropRepeats, if_neg fresh, ih others]
    rintro bound ⟨⟩
    exact first

theorem Increasing.split (increasing : Increasing key items) (bound : Int) :
    ∃ lower upper, items = lower ++ upper ∧ (∀ item ∈ lower, key item < bound) ∧
      ∀ item ∈ upper, bound ≤ key item := by
  induction items with
  | nil => exact ⟨[], [], rfl, by simp, by simp⟩
  | cons item rest ih =>
    obtain ⟨first, others⟩ := List.pairwise_cons.mp increasing
    by_cases small : key item < bound
    · obtain ⟨lower, upper, rfl, lows, highs⟩ := ih others
      exact ⟨item :: lower, upper, rfl, by simpa [small] using lows, highs⟩
    · refine ⟨[], item :: rest, rfl, by simp, ?_⟩
      intro other member
      rcases List.mem_cons.mp member with rfl | later
      · omega
      · have := first other later
        omega

private theorem filter_advance {lower upper : List α} (p : α → Prop) [DecidablePred p]
    (lows : ∀ item ∈ lower, key item < bound) (highs : ∀ item ∈ upper, bound ≤ key item) :
    (lower ++ upper).filter (fun item => p item ∧ key item < bound + 1) =
      (lower ++ upper).filter (fun item => p item ∧ key item < bound) ++
        upper.filter (fun item => p item ∧ key item = bound) := by
  have same : lower.filter (fun item => p item ∧ key item < bound + 1) =
      lower.filter (fun item => p item ∧ key item < bound) := by
    apply List.filter_congr
    intro item member
    have := lows item member
    simp [this, show key item < bound + 1 by omega]
  have none : upper.filter (fun item => p item ∧ key item < bound) = [] := by
    apply List.filter_eq_nil_iff.mpr
    intro item member
    have := highs item member
    simp
    omega
  have equal : upper.filter (fun item => p item ∧ key item < bound + 1) =
      upper.filter (fun item => p item ∧ key item = bound) := by
    apply List.filter_congr
    intro item member
    have := highs item member
    simp only [show key item < bound + 1 ↔ key item = bound by omega]
  rw [List.filter_append, List.filter_append, same, none, equal, List.append_nil]

private theorem filter_head (increasing : Increasing key items) (least : ∀ item ∈ items, bound ≤ key item) :
    items.filter (fun item => key item = bound) =
      (items.head?.filter fun item => key item = bound).toList := by
  cases items with
  | nil => rfl
  | cons item rest =>
    obtain ⟨first, -⟩ := List.pairwise_cons.mp increasing
    have others : rest.filter (fun item => key item = bound) = [] := by
      apply List.filter_eq_nil_iff.mpr
      intro other member
      have := first other member
      have := least item List.mem_cons_self
      simp
      omega
    by_cases here : key item = bound
    · simp [here, others, Option.filter]
    · simp [here, others, Option.filter]

/-- Raising the bound by one takes in the item with the key `bound`, if there is one; the
cursor stands at that item. -/
theorem Increasing.advance (increasing : Increasing key items) (bound : Int) :
    let next := (items[(below key bound items).length]?.filter fun item => key item = bound).toList
    below key (bound + 1) items = below key bound items ++ next ∧
      ∀ low ≤ bound, between key low (bound + 1) items = between key low bound items ++ next := by
  obtain ⟨lower, upper, rfl, lows, highs⟩ := increasing.split bound
  have counted : below key bound (lower ++ upper) = lower := by
    rw [below, List.filter_append, List.filter_eq_self.mpr (by simpa using lows),
      List.filter_eq_nil_iff.mpr (by simpa using highs), List.append_nil]
  have next : ((lower ++ upper)[(below key bound (lower ++ upper)).length]?.filter fun item =>
      key item = bound).toList = upper.filter fun item => key item = bound := by
    rw [counted, List.getElem?_append_right (Nat.le_refl _), Nat.sub_self, ← List.head?_eq_getElem?,
      filter_head (List.pairwise_append.mp increasing).2.1 highs]
  simp only [next]
  refine ⟨?_, ?_⟩
  · simpa [below] using filter_advance (fun _ => True) lows highs
  · intro low inside
    rw [between, filter_advance (fun item => low ≤ key item) lows highs, between]
    congr 1
    apply List.filter_congr
    intro item member
    have := highs item member
    simp [show low ≤ key item by omega]

/-- Lists in a row, each with its keys in the range of its position. -/
structure Segments (key : α → Int) (size : Nat) (items : List ι) (segment : ι × Nat → List α) : Prop where
  low : ∀ pair ∈ items.zipIdx, ∀ item ∈ segment pair, (pair.2 * size : Int) ≤ key item
  high : ∀ pair ∈ items.zipIdx, ∀ item ∈ segment pair, key item < pair.2 * size + size

private theorem range_before {first second : Nat} (size : Nat) (before : first < second) :
    (first * size + size : Int) ≤ second * size := by
  have next := Nat.mul_le_mul_right size (show first + 1 ≤ second from before)
  rw [Nat.succ_mul] at next
  exact_mod_cast next

variable {size : Nat} {items : List ι} {segment : ι × Nat → List α}

theorem Segments.increasing (segments : Segments key size items segment)
    (each : ∀ pair ∈ items.zipIdx, Increasing key (segment pair)) :
    Increasing key (items.zipIdx.flatMap segment) := by
  have indices : (items.zipIdx.map Prod.snd).Pairwise (· < ·) := by
    rw [List.zipIdx_map_snd]
    exact List.pairwise_lt_range'
  rw [List.pairwise_map] at indices
  refine List.pairwise_flatMap.mpr ⟨each, indices.imp_of_mem ?_⟩
  intro first second firstKnown secondKnown before one inFirst other inSecond
  have := segments.high first firstKnown one inFirst
  have := segments.low second secondKnown other inSecond
  have := range_before size before
  omega

private theorem flatMap_zipIdx_single {k : Nat} (f : ι → List α) (found : items[k]? = some item)
    (start : Nat) :
    ((items.zipIdx start).flatMap fun pair => if pair.2 = start + k then f pair.1 else []) = f item := by
  induction items generalizing k start with
  | nil => simp at found
  | cons head rest ih =>
    rw [List.zipIdx_cons, List.flatMap_cons]
    cases k with
    | zero =>
      obtain rfl : head = item := by simpa using found
      have others : ((rest.zipIdx (start + 1)).flatMap fun pair =>
          if pair.2 = start + 0 then f pair.1 else []) = [] := by
        rw [List.flatMap_eq_nil_iff]
        rintro ⟨other, index⟩ member
        have later := List.le_snd_of_mem_zipIdx member
        rw [if_neg (by simp only at later ⊢; omega)]
      rw [others]
      simp
    | succ k =>
      have later := ih (by simpa using found) (start + 1)
      rw [if_neg (by simp), List.nil_append, ← later]
      simp only [Nat.add_assoc, Nat.add_comm 1 k]

theorem Segments.between_eq {k : Nat} (segments : Segments key size items segment)
    (found : items[k]? = some item) :
    between key (k * size) (k * size + size) (items.zipIdx.flatMap segment) = segment (item, k) := by
  have cut : ∀ pair ∈ items.zipIdx, between key (k * size) (k * size + size) (segment pair) =
      if pair.2 = k then segment (pair.1, k) else [] := by
    rintro ⟨other, index⟩ known
    have low : ∀ entry ∈ segment (other, index), (index * size : Int) ≤ key entry := segments.low _ known
    have high : ∀ entry ∈ segment (other, index), key entry < index * size + size := segments.high _ known
    split
    · rename_i same
      subst same
      exact List.filter_eq_self.mpr fun entry member => by simpa using ⟨low entry member, high entry member⟩
    · rename_i different
      refine List.filter_eq_nil_iff.mpr fun entry member => ?_
      have := low entry member
      have := high entry member
      simp only [decide_eq_true_eq] at different ⊢
      rcases Nat.lt_or_gt_of_ne different with before | after
      · have := range_before size before
        omega
      · have := range_before size after
        omega
  have single := flatMap_zipIdx_single (fun item => segment (item, k)) found 0
  simp only [Nat.zero_add] at single
  rw [← single, between, List.filter_flatMap]
  exact List.flatMap_congr cut

end

section

variable {alike : α → α → Bool} {items : List α} {item last : α}

theorem splitBy_new (unlike : ∀ last ∈ items.getLast?, alike last item = false) :
    (items ++ [item]).splitBy alike = items.splitBy alike ++ [[item]] :=
  List.splitBy_append_cons [] unlike

theorem splitBy_last (final : (items.splitBy alike).getLast? = some group) :
    group.getLast? = items.getLast? := by
  obtain ⟨groups, split⟩ := List.getLast?_eq_some_iff.mp final
  obtain ⟨joined, nonempty, -⟩ := List.splitBy_eq_iff.mp split
  have inside : group ≠ [] := fun empty => nonempty (by simp [empty])
  rw [joined]
  simp [List.getLast?_append, List.getLast?_eq_some_getLast inside]

theorem splitBy_join (ends : items.getLast? = some last) (same : alike last item = true) :
    ∃ groups group, items.splitBy alike = groups ++ [group] ∧ group.getLast? = some last ∧
      (items ++ [item]).splitBy alike = groups ++ [group ++ [item]] := by
  have filled : items.splitBy alike ≠ [] := by
    rw [List.splitBy_ne_nil]
    rintro rfl
    simp at ends
  obtain ⟨groups, group, split⟩ : ∃ groups group, items.splitBy alike = groups ++ [group] :=
    ⟨_, _, (List.dropLast_append_getLast filled).symm⟩
  obtain ⟨joined, nonempty, chains, borders⟩ := List.splitBy_eq_iff.mp split
  have final : group.getLast? = some last := by rw [splitBy_last (by rw [split, List.getLast?_concat]), ends]
  refine ⟨groups, group, split, final, List.splitBy_eq_iff.mpr ⟨by simp [joined], ?_, ?_, ?_⟩⟩
  · intro member
    rcases List.mem_append.mp member with earlier | here
    · exact nonempty (List.mem_append_left _ earlier)
    · simp at here
  · intro other member
    rcases List.mem_append.mp member with earlier | here
    · exact chains other (List.mem_append_left _ earlier)
    · obtain rfl := List.mem_singleton.mp here
      refine List.isChain_append.mpr ⟨chains group (by simp), by simp, fun x isLast y isHead => ?_⟩
      obtain rfl : last = x := by simpa [final] using isLast
      obtain rfl : item = y := by simpa using isHead
      exact same
  · obtain ⟨earlier, -, border⟩ := List.isChain_append.mp borders
    refine List.isChain_append.mpr ⟨earlier, by simp, fun other isLast y isHead => ?_⟩
    obtain rfl : group ++ [item] = y := by simpa using isHead
    obtain ⟨before, behind, unlike⟩ := border other isLast group (by simp)
    exact ⟨before, by simp, by rwa [List.head_append_of_ne_nil behind]⟩

end

end LoraEval.Core

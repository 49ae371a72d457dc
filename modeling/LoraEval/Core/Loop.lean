import Mathlib.Algebra.Group.Nat.Defs
import Mathlib.Data.List.Basic
import Mathlib.Data.List.Forall2

/-! Bounded loops over an explicit state. A loop body may fail, and every state
has an observable output. The rules below compute the output of a whole loop
nest from the output of its innermost body. -/

namespace LoraEval.Core

/-- Run `body` on each index in turn, stopping at the first failure. -/
def forEach (indices : List ι) (body : ι → σ → Option σ) (state : σ) : Option σ :=
  indices.foldlM (fun state index => body index state) state

theorem forEach_nil (body : ι → σ → Option σ) (state : σ) : forEach [] body state = some state := rfl

theorem forEach_cons (index : ι) (rest : List ι) (body : ι → σ → Option σ) (state : σ) :
    forEach (index :: rest) body state = body index state >>= forEach rest body := rfl

theorem forEach_append (front back : List ι) (body : ι → σ → Option σ) (state : σ) :
    forEach (front ++ back) body state = forEach front body state >>= forEach back body :=
  List.foldlM_append

/-- `forEach` with a guard: an index that is not selected is skipped. -/
def forSelected (selected : ι → Bool) (indices : List ι) (body : ι → σ → Option σ) :
    σ → Option σ :=
  forEach indices (fun index state => if selected index then body index state else some state)

/-- From every state of `pre` the run succeeds, ends in `post` and appends
exactly `emitted` to the observed output. -/
def Emits (observe : σ → List ε) (pre : σ → Prop) (run : σ → Option σ) (emitted : List ε)
    (post : σ → Prop) : Prop :=
  ∀ state, pre state → ∃ final, run state = some final ∧ post final ∧
    observe final = observe state ++ emitted

theorem Emits.skip {observe : σ → List ε} {inv : σ → Prop} : Emits observe inv some [] inv :=
  fun state holds => ⟨state, rfl, holds, by simp⟩

theorem Emits.weaken {observe : σ → List ε} {pre strong post weak : σ → Prop}
    (run : Emits observe strong body emitted post) (before : ∀ state, pre state → strong state)
    (after : ∀ state, post state → weak state) : Emits observe pre body emitted weak := by
  intro state holds
  obtain ⟨final, result, reached, output⟩ := run state (before state holds)
  exact ⟨final, result, after final reached, output⟩

theorem Emits.andThen {observe : σ → List ε} {pre middle post : σ → Prop}
    (first : Emits observe pre run₁ emitted₁ middle)
    (second : Emits observe middle run₂ emitted₂ post) :
    Emits observe pre (fun state => run₁ state >>= run₂) (emitted₁ ++ emitted₂) post := by
  intro state holds
  obtain ⟨between, result₁, reached, output₁⟩ := first state holds
  obtain ⟨final, result₂, ended, output₂⟩ := second between reached
  refine ⟨final, ?_, ended, ?_⟩
  · simp [result₁, result₂]
  · rw [output₂, output₁, List.append_assoc]

/-- A loop whose body emits `emitted i` from every state of the invariant emits
the concatenation in index order. -/
theorem Emits.forEach {observe : σ → List ε} {inv : σ → Prop} {indices : List ι}
    {emitted : ι → List ε}
    (body : ∀ index ∈ indices, Emits observe inv (step index) (emitted index) inv) :
    Emits observe inv (forEach indices step) (indices.flatMap emitted) inv := by
  induction indices with
  | nil => exact Emits.skip
  | cons index rest ih =>
    have head := body index (by simp)
    have tail := ih (fun other member => body other (by simp [member]))
    have both := head.andThen tail
    rw [List.flatMap_cons]
    exact both

/-- A guarded loop emits the concatenation over the selected indices only. -/
theorem Emits.forSelected {observe : σ → List ε} {inv : σ → Prop} {indices : List ι}
    {selected : ι → Bool} {emitted : ι → List ε}
    (body : ∀ index ∈ indices, selected index = true →
      Emits observe inv (step index) (emitted index) inv) :
    Emits observe inv (forSelected selected indices step)
      ((indices.filter selected).flatMap emitted) inv := by
  have guarded : Emits observe inv (LoraEval.Core.forSelected selected indices step)
      (indices.flatMap (fun index => if selected index then emitted index else [])) inv := by
    apply Emits.forEach
    intro index member
    cases chosen : selected index with
    | false => simpa [chosen] using Emits.skip
    | true => simpa [chosen] using body index member chosen
  have same : indices.flatMap (fun index => if selected index then emitted index else []) =
      (indices.filter selected).flatMap emitted := by
    clear guarded body
    induction indices with
    | nil => rfl
    | cons index rest ih =>
      cases chosen : selected index <;> simp [List.flatMap_cons, chosen, ih]
  rw [← same]
  exact guarded

theorem forEach_keeps {body : ι → σ → Option σ} (inv : σ → Prop)
    (keeps : ∀ index ∈ indices, ∀ state next, body index state = some next → inv state → inv next)
    (run : forEach indices body state = some final) (initially : inv state) : inv final := by
  induction indices generalizing state with
  | nil =>
    cases run
    exact initially
  | cons index rest ih =>
    obtain ⟨next, taken, others⟩ := Option.bind_eq_some_iff.mp run
    exact ih (fun other member => keeps other (List.mem_cons_of_mem _ member)) others
      (keeps index List.mem_cons_self state next taken initially)

theorem forSelected_keeps {body : ι → σ → Option σ} (inv : σ → Prop)
    (keeps : ∀ index state next, body index state = some next → inv state → inv next)
    (run : forSelected selected indices body state = some final) (initially : inv state) : inv final := by
  refine forEach_keeps inv ?_ run initially
  intro index _ state next taken holds
  split at taken
  · exact keeps index state next taken holds
  · cases taken
    exact holds

/-- A loop over states with more in them runs like the loop over what `view` keeps. -/
theorem forEach_view {view : τ → σ} {fine : ι → τ → Option τ} {body : ι → σ → Option σ}
    (each : ∀ index state, (fine index state).map view = body index (view state)) (state : τ) :
    (forEach indices fine state).map view = forEach indices body (view state) := by
  induction indices generalizing state with
  | nil => rfl
  | cons index rest ih =>
    rw [forEach_cons, forEach_cons, ← each index state]
    cases fine index state with
    | none => rfl
    | some next => exact ih next

theorem forSelected_view {view : τ → σ} {fine : ι → τ → Option τ} {body : ι → σ → Option σ}
    (each : ∀ index state, (fine index state).map view = body index (view state)) (state : τ) :
    (forSelected selected indices fine state).map view =
      forSelected selected indices body (view state) := by
  refine forEach_view ?_ state
  intro index state
  split
  · exact each index state
  · rfl

/-- One level of a loop nest: the indices it runs over and the guard on them. -/
structure Level (ι : Type u) where
  selected : ι → Bool
  indices : List ι

/-- All choices of one item from each list, the first list varying slowest. -/
def product : List (List ι) → List (List ι)
  | [] => [[]]
  | items :: rest => items.flatMap fun item => (product rest).map (item :: ·)

theorem mem_product {lists : List (List ι)} : choice ∈ product lists ↔
    List.Forall₂ (· ∈ ·) choice lists := by
  induction lists generalizing choice with
  | nil => simp [product]
  | cons items rest ih =>
    simp only [product, List.mem_flatMap, List.mem_map]
    constructor
    · rintro ⟨item, chosen, others, member, rfl⟩
      exact .cons chosen (ih.mp member)
    · intro related
      cases related with
      | cons chosen others => exact ⟨_, chosen, _, ih.mpr others, rfl⟩

theorem product_length (lists : List (List ι)) :
    (product lists).length = (lists.map List.length).prod := by
  induction lists with
  | nil => rfl
  | cons items rest ih => simp [product, List.length_flatMap, ih]

theorem getElem?_flatMap_blocks {items : List ι} {block : ι → List κ} (positive : 0 < size)
    (sized : ∀ item ∈ items, (block item).length = size) (place : Nat) :
    (items.flatMap block)[place]? = items[place / size]? >>= fun item => (block item)[place % size]? := by
  induction items generalizing place with
  | nil => rfl
  | cons item rest ih =>
    obtain ⟨first, others⟩ := List.forall_mem_cons.mp sized
    rw [List.flatMap_cons]
    by_cases inside : place < size
    · rw [List.getElem?_append_left (first ▸ inside), Nat.div_eq_of_lt inside, Nat.mod_eq_of_lt inside]
      rfl
    · have behind : size ≤ place := Nat.not_lt.mp inside
      rw [List.getElem?_append_right (first ▸ behind), first, ih others, Nat.div_eq_sub_div positive behind,
        Nat.mod_eq_sub_mod behind]
      rfl

/-- Which item of a list stands in the choice at a place: each list runs through its items
once for every item of the lists before it. -/
theorem getElem?_product {lists : List (List ι)} (inside : place < (product lists).length)
    (found : lists[level]? = some items) :
    ((product lists)[place]? >>= fun choice => choice[level]?) =
      items[place / (product (lists.drop (level + 1))).length % items.length]? := by
  induction lists generalizing level place with
  | nil => simp at found
  | cons first rest ih =>
    have size : (product (first :: rest)).length = first.length * (product rest).length := by
      simp [product_length]
    rw [size] at inside
    have positive : 0 < (product rest).length := Nat.pos_of_mul_pos_left (Nat.zero_lt_of_lt inside)
    have sized : ∀ item ∈ first, ((product rest).map (item :: ·)).length = (product rest).length :=
      fun item _ => List.length_map _
    have outer : place / (product rest).length < first.length := (Nat.div_lt_iff_lt_mul positive).mpr inside
    have inner : place % (product rest).length < (product rest).length := Nat.mod_lt _ positive
    rw [product, getElem?_flatMap_blocks positive sized, List.getElem?_eq_getElem outer]
    cases level with
    | zero =>
      obtain rfl : first = items := Option.some.inj found
      simp [inner, outer, Nat.mod_eq_of_lt outer]
    | succ level =>
      have later : rest[level]? = some items := found
      obtain ⟨bound, rfl⟩ := List.getElem?_eq_some_iff.mp later
      have parts : (product rest).length = (product (rest.drop (level + 1))).length *
          (rest[level].length * ((rest.take level).map List.length).prod) := by
        have split : rest = rest.take level ++ rest[level] :: rest.drop (level + 1) := by
          rw [← List.drop_eq_getElem_cons bound, List.take_append_drop]
        rw [product_length, product_length]
        conv_lhs => rw [split]
        rw [List.map_append, List.prod_append, List.map_cons, List.prod_cons]
        ac_rfl
      have chosen := ih inner later
      rw [parts, Nat.mod_mul_right_div_self, Nat.mod_mod_of_dvd _ (Nat.dvd_mul_right _ _), ← parts] at chosen
      rw [List.drop_succ_cons, ← chosen]
      simp [inner]

/-- Strictly increasing lists have their product in strict lexicographic order. -/
theorem product_sorted [LT ι] {lists : List (List ι)}
    (sorted : ∀ items ∈ lists, items.Pairwise (· < ·)) : (product lists).Pairwise (· < ·) := by
  induction lists with
  | nil => exact List.pairwise_singleton _ _
  | cons items rest ih =>
    have inner := ih fun other member => sorted other (by simp [member])
    rw [product, List.pairwise_flatMap]
    constructor
    · intro item _
      rw [List.pairwise_map]
      exact inner.imp fun less => List.Lex.cons less
    · refine (sorted items (by simp)).imp fun less => ?_
      simp only [List.mem_map]
      rintro _ ⟨first, _, rfl⟩ _ ⟨second, _, rfl⟩
      exact List.Lex.rel less

def Level.chosen (level : Level ι) : List ι := level.indices.filter level.selected

/-- The selected index paths of a nest, outermost index first, in the order in
which the loops visit them. -/
def paths (levels : List (Level ι)) : List (List ι) := product (levels.map Level.chosen)

theorem paths_cons (level : Level ι) (inner : List (Level ι)) :
    paths (level :: inner) = level.chosen.flatMap fun index => (paths inner).map (index :: ·) := rfl

theorem mem_paths {levels : List (Level ι)} : path ∈ paths levels ↔
    List.Forall₂ (fun index level => index ∈ level.indices ∧ level.selected index = true) path levels := by
  rw [paths, mem_product, List.forall₂_map_right_iff]
  simp only [Level.chosen, List.mem_filter]

def Along (holds : Nat → ι → Prop) (path : List ι) : Prop :=
  ∀ level index, path[level]? = some index → holds level index

theorem Along.extend {before after : Nat → ι → Prop} {path : List ι} (along : Along before path)
    (new : after path.length index)
    (kept : ∀ level value, level ≠ path.length → before level value → after level value) :
    Along after (path ++ [index]) := by
  intro level value found
  by_cases last : level = path.length
  · subst level
    have same : index = value := by simpa using found
    exact same ▸ new
  · have bound : level < path.length := by
      have := (List.getElem?_eq_some_iff.mp found).1
      simp only [List.length_append, List.length_cons, List.length_nil] at this
      omega
    rw [List.getElem?_append_left bound] at found
    exact kept level value last (along level value found)

theorem Along.shorten {holds : Nat → ι → Prop} {path : List ι} (along : Along holds (path ++ [index])) :
    Along holds path := by
  intro level value found
  have bound := (List.getElem?_eq_some_iff.mp found).1
  exact along level value (by rw [List.getElem?_append_left bound]; exact found)

/-- Guarded loops nested around `body`. `enter` is what a level does with a
selected index before its inner loop runs; levels are numbered from outside. -/
def nest (enter : Nat → ι → σ → Option σ) (body : σ → Option σ) :
    List (Level ι) → Nat → σ → Option σ
  | [], _ => body
  | level :: inner, depth =>
    forSelected level.selected level.indices fun index state =>
      enter depth index state >>= nest enter body inner (depth + 1)

/-- What entering a level and the innermost body keep, the nest keeps. -/
theorem nest_keeps {enter : Nat → ι → σ → Option σ} {body : σ → Option σ} (inv : σ → Prop)
    (enters : ∀ depth index state next, enter depth index state = some next → inv state → inv next)
    (keeps : ∀ state next, body state = some next → inv state → inv next)
    (run : nest enter body levels depth state = some final) (initially : inv state) : inv final := by
  induction levels generalizing depth state final with
  | nil => exact keeps state final run initially
  | cons level inner ih =>
    refine forSelected_keeps inv ?_ run initially
    intro index state next taken holds
    obtain ⟨between, entered, nested⟩ := Option.bind_eq_some_iff.mp taken
    exact ih nested (enters depth index state between entered holds)

/-- A nest over states with more in them runs like the nest over what `view` keeps. -/
theorem nest_view {view : τ → σ} {enterFine : Nat → ι → τ → Option τ} {bodyFine : τ → Option τ}
    {enter : Nat → ι → σ → Option σ} {body : σ → Option σ}
    (enters : ∀ depth index state, (enterFine depth index state).map view = enter depth index (view state))
    (bodies : ∀ state, (bodyFine state).map view = body (view state)) (levels : List (Level ι))
    (depth : Nat) (state : τ) :
    (nest enterFine bodyFine levels depth state).map view = nest enter body levels depth (view state) := by
  induction levels generalizing depth state with
  | nil => exact bodies state
  | cons level inner ih =>
    refine forSelected_view ?_ state
    intro index state
    rw [← enters depth index state]
    cases enterFine depth index state with
    | none => rfl
    | some next => exact ih (depth + 1) next

/-- An invariant of the index path entered so far. Entering a level extends the
path silently, and leaving it restores the invariant of the shorter path. -/
structure NestInvariant (observe : σ → List ε) (inv : List ι → σ → Prop)
    (enter : Nat → ι → σ → Option σ) (levels : List (Level ι)) (depth : Nat) : Prop where
  enters : ∀ offset level, levels[offset]? = some level → ∀ index ∈ level.indices,
    level.selected index = true → ∀ path, path.length = depth + offset →
      Emits observe (inv path) (enter (depth + offset) index) [] (inv (path ++ [index]))
  leaves : ∀ path index state, inv (path ++ [index]) state → inv path state

theorem NestInvariant.tail {observe : σ → List ε} {inv : List ι → σ → Prop} {inner : List (Level ι)}
    (holds : NestInvariant observe inv enter (level :: inner) depth) :
    NestInvariant observe inv enter inner (depth + 1) := by
  refine ⟨?_, holds.leaves⟩
  intro offset next found index member selected path length
  have later := holds.enters (offset + 1) next (by simpa using found) index member selected path
    (by omega)
  rwa [show depth + (offset + 1) = depth + 1 + offset by omega] at later

/-- A nest emits what its body emits for each selected path, in lexicographic order. -/
theorem Emits.nest {observe : σ → List ε} {inv : List ι → σ → Prop} {levels : List (Level ι)}
    (emitted : List ι → List ε) (holds : NestInvariant observe inv enter levels depth)
    (path : List ι) (length : path.length = depth)
    (inner : ∀ rest ∈ paths levels,
      Emits observe (inv (path ++ rest)) body (emitted (path ++ rest)) (inv (path ++ rest))) :
    Emits observe (inv path) (nest enter body levels depth)
      ((paths levels).flatMap fun rest => emitted (path ++ rest)) (inv path) := by
  induction levels generalizing depth path with
  | nil =>
    have innermost := inner [] (by simp [paths, product])
    simpa [LoraEval.Core.nest, paths, product] using innermost
  | cons level levels ih =>
    have each : ∀ index ∈ level.indices, level.selected index = true →
        Emits observe (inv path)
          (fun state => enter depth index state >>= LoraEval.Core.nest enter body levels (depth + 1))
          ((paths levels).flatMap fun rest => emitted (path ++ index :: rest)) (inv path) := by
      intro index member selected
      have entered := holds.enters 0 level rfl index member selected path (by simpa using length)
      have nested := ih holds.tail (path ++ [index]) (by simp [length]) (by
        intro rest chosen
        have within : index :: rest ∈ paths (level :: levels) := by
          rw [paths_cons]
          refine List.mem_flatMap.mpr ⟨index, List.mem_filter.mpr ⟨member, selected⟩, ?_⟩
          exact List.mem_map.mpr ⟨rest, chosen, rfl⟩
        simpa using inner (index :: rest) within)
      have both := entered.andThen nested
      simp only [List.nil_append, List.append_assoc, List.cons_append, Nat.add_zero] at both
      exact both.weaken (fun _ held => held) (holds.leaves path index)
    have loop := Emits.forSelected each
    have emittedSame : ((paths (level :: levels)).flatMap fun rest => emitted (path ++ rest)) =
        level.chosen.flatMap fun index =>
          (paths levels).flatMap fun rest => emitted (path ++ index :: rest) := by
      simp [paths_cons, List.flatMap_assoc, List.flatMap_map]
    rw [emittedSame]
    exact loop

end LoraEval.Core

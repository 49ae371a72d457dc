import LoraEval.Core.Loop
import Mathlib.Data.List.Induction
import Mathlib.Logic.Relation

/-! Runs: of a transition relation, and of a machine that takes events one after
another (`forEach`) and refuses an event it is not ready for. -/

namespace LoraEval.Core

/-- Where a list that ends with `event` can be split. -/
theorem split_append (split : history ++ [event] = before ++ next :: after) :
    (after = [] ∧ before = history ∧ next = event) ∨
      ∃ rest, after = rest ++ [event] ∧ history = before ++ next :: rest := by
  rcases List.eq_nil_or_concat after with rfl | ⟨rest, last, rfl⟩
  · obtain ⟨rfl, same⟩ := List.append_inj' split rfl
    exact .inl ⟨rfl, rfl, by simpa using same.symm⟩
  · have regrouped : history ++ [event] = (before ++ next :: rest) ++ [last] := by simpa using split
    obtain ⟨rfl, same⟩ := List.append_inj' regrouped rfl
    exact .inr ⟨rest, by simpa using same.symm, rfl⟩

theorem run_invariant {step : σ → σ → Prop} (inv : σ → Prop)
    (keeps : ∀ before after, inv before → step before after → inv after)
    (run : Relation.ReflTransGen step start final) (initially : inv start) : inv final := by
  induction run with
  | refl => exact initially
  | tail _ next ih => exact keeps _ _ ih next

def notes (step : σ → ε → σ) (note : σ → ν → ε → ν) (start : σ) (nothing : ν) (history : List ε) : ν :=
  (history.foldl (fun reached event => (step reached.1 event, note reached.1 reached.2 event))
    (start, nothing)).2

theorem notes_append (step : σ → ε → σ) (note : σ → ν → ε → ν) (start : σ) (nothing : ν) (history : List ε)
    (event : ε) : notes step note start nothing (history ++ [event]) =
      note (history.foldl step start) (notes step note start nothing history) event := by
  have same : (history.foldl (fun reached event => (step reached.1 event, note reached.1 reached.2 event))
      (start, nothing)).1 = history.foldl step start := by
    induction history using List.reverseRecOn with
    | nil => rfl
    | append_singleton before last ih =>
      rw [List.foldl_append, List.foldl_append]
      exact congrArg (step · last) ih
  rw [notes, List.foldl_append, ← same]
  rfl

theorem forEach_split {step : ε → σ → Option σ}
    (run : forEach (front ++ back) step start = some final) :
    ∃ between, forEach front step start = some between ∧ forEach back step between = some final := by
  rw [forEach_append] at run
  exact Option.bind_eq_some_iff.mp run

theorem forEach_extend {step : ε → σ → Option σ} (reached : forEach before step start = some state)
    (taken : step event state = some next) : forEach (before ++ [event]) step start = some next := by
  rw [forEach_append, reached]
  simpa [forEach] using taken

theorem forEach_taken {step : ε → σ → Option σ}
    (run : forEach (before ++ event :: after) step start = some final) :
    ∃ state next, forEach before step start = some state ∧ step event state = some next := by
  obtain ⟨state, reached, rest⟩ := forEach_split run
  obtain ⟨next, taken, -⟩ := Option.bind_eq_some_iff.mp rest
  exact ⟨state, next, reached, taken⟩

/-- What an event keeps of the state and of the history so far holds after every
run. The induction is on the history, from its end. -/
theorem history_invariant {step : ε → σ → Option σ} (inv : List ε → σ → Prop)
    (initially : inv [] start)
    (keeps : ∀ before event state next, step event state = some next → inv before state →
      inv (before ++ [event]) next)
    (run : forEach events step start = some final) : inv events final := by
  induction events using List.reverseRecOn generalizing final with
  | nil =>
    obtain rfl : start = final := by simpa [forEach] using run
    exact initially
  | append_singleton before event ih =>
    obtain ⟨state, reached, last⟩ := forEach_split run
    have taken : step event state = some final := by simpa [forEach] using last
    exact keeps before event state final taken (ih reached)

/-- Every event of a run meets a condition on the history and the state before it. -/
def Meets (step : ε → σ → Option σ) (condition : List ε → ε → σ → Prop) :
    List ε → σ → List ε → Prop
  | _, _, [] => True
  | before, state, event :: rest => condition before event state ∧
      ∀ next, step event state = some next → Meets step condition (before ++ [event]) next rest

theorem Meets.cons {step : ε → σ → Option σ} (met : condition before event state)
    (taken : step event state = some next)
    (later : Meets step condition (before ++ [event]) next rest) :
    Meets step condition before state (event :: rest) := by
  refine ⟨met, fun other also => ?_⟩
  obtain rfl : next = other := Option.some.inj (taken.symm.trans also)
  exact later

theorem Meets.of_forall {step : ε → σ → Option σ}
    (holds : ∀ event ∈ events, ∀ before state, condition before event state) :
    Meets step condition before state events := by
  induction events generalizing before state with
  | nil => trivial
  | cons event rest ih =>
    exact ⟨holds event (by simp) before state,
      fun _ _ => ih fun later member => holds later (by simp [member])⟩

theorem Meets.split {step : ε → σ → Option σ} {middle : σ}
    (met : Meets step condition before state (front ++ back))
    (run : forEach front step state = some middle) :
    Meets step condition before state front ∧ Meets step condition (before ++ front) middle back := by
  induction front generalizing before state with
  | nil =>
    obtain rfl : state = middle := Option.some.inj run
    exact ⟨trivial, by simpa using met⟩
  | cons event rest ih =>
    obtain ⟨next, taken, others⟩ := Option.bind_eq_some_iff.mp run
    obtain ⟨first, second⟩ := ih (met.2 next taken) others
    exact ⟨.cons met.1 taken first, by simpa using second⟩

/-- `history_invariant` for the runs whose events all meet a condition. -/
theorem guarded_invariant {step : ε → σ → Option σ} {condition : List ε → ε → σ → Prop}
    (inv : List ε → σ → Prop)
    (keeps : ∀ before event state next, forEach before step start = some state →
      condition before event state → step event state = some next → inv before state →
        inv (before ++ [event]) next)
    (met : Meets step condition before state events) (reached : forEach before step start = some state)
    (run : forEach events step state = some final) (initially : inv before state) :
    inv (before ++ events) final := by
  induction events generalizing before state with
  | nil =>
    obtain rfl : state = final := Option.some.inj run
    simpa using initially
  | cons event rest ih =>
    obtain ⟨next, taken, others⟩ := Option.bind_eq_some_iff.mp run
    obtain ⟨here, later⟩ := met
    have kept := keeps before event state next reached here taken initially
    simpa using ih (later next taken) (forEach_extend reached taken) others kept

/-- A property of the history and the state holds at every point of a run. -/
def Always (step : ε → σ → Option σ) (holds : List ε → σ → Prop) : List ε → σ → List ε → Prop
  | before, state, [] => holds before state
  | before, state, event :: rest => holds before state ∧
      ∀ next, step event state = some next → Always step holds (before ++ [event]) next rest

theorem Always.start {step : ε → σ → Option σ} (always : Always step holds before state events) :
    holds before state := by
  cases events with
  | nil => exact always
  | cons => exact always.1

theorem Always.finish {step : ε → σ → Option σ} (always : Always step holds before state events)
    (run : forEach events step state = some final) : holds (before ++ events) final := by
  induction events generalizing before state with
  | nil =>
    obtain rfl : state = final := Option.some.inj run
    simpa using always.start
  | cons event rest ih =>
    obtain ⟨next, taken, others⟩ := Option.bind_eq_some_iff.mp run
    simpa using ih (always.2 next taken) others

/-- A property that a step keeps exactly under a condition, as long as it and an
invariant hold, holds at every point of a run exactly if every event of the run meets
the condition. -/
theorem always_iff {step : ε → σ → Option σ} {condition : List ε → ε → σ → Prop}
    (inv : List ε → σ → Prop)
    (exact : ∀ before event state next, step event state = some next → inv before state →
      holds before state → (holds (before ++ [event]) next ↔ condition before event state))
    (keeps : ∀ before event state next, step event state = some next → inv before state →
      holds before state → condition before event state → inv (before ++ [event]) next)
    (run : forEach events step state = some final) (initially : inv before state)
    (holding : holds before state) :
    Always step holds before state events ↔ Meets step condition before state events := by
  induction events generalizing before state with
  | nil => exact iff_of_true holding trivial
  | cons event rest ih =>
    obtain ⟨next, taken, others⟩ := Option.bind_eq_some_iff.mp run
    have here := exact before event state next taken initially holding
    constructor
    · rintro ⟨-, later⟩
      have held := (later next taken).start
      have kept := keeps before event state next taken initially holding (here.mp held)
      exact .cons (here.mp held) taken ((ih others kept held).mp (later next taken))
    · rintro ⟨met, later⟩
      refine ⟨holding, fun other also => ?_⟩
      obtain rfl : next = other := Option.some.inj (taken.symm.trans also)
      have kept := keeps before event state next taken initially holding met
      exact (ih others kept (here.mpr met)).mpr (later next taken)

def Throughout (step : ε → σ → Option σ) (holds : σ → Prop) : σ → List ε → Prop
  | state, [] => holds state
  | state, event :: rest =>
    holds state ∧ ∀ next, step event state = some next → Throughout step holds next rest

theorem throughout_iff_always {step : ε → σ → Option σ} :
    Throughout step holds state events ↔ Always step (fun _ => holds) before state events := by
  induction events generalizing before state with
  | nil => rfl
  | cons event rest ih =>
    exact and_congr_right fun _ => forall_congr' fun next => imp_congr_right fun _ => ih

/-- `always_iff` for a property of the state alone. -/
theorem throughout_iff {step : ε → σ → Option σ} {condition : ε → σ → Prop}
    (exact : ∀ event state next, step event state = some next → holds state →
      (holds next ↔ condition event state))
    (run : forEach events step state = some final) (initially : holds state) :
    Throughout step holds state events ↔
      Meets step (fun _ event state => condition event state) before state events :=
  throughout_iff_always.trans (always_iff (fun _ _ => True)
    (fun _ event state next taken _ => exact event state next taken) (fun _ _ _ _ _ _ _ _ => trivial)
    run trivial initially)

/-- A point of a history is marked, given what came before it, and no later one is. -/
structure Last (marked : List ε → ε → Prop) (before : List ε) (event : ε) (after : List ε) : Prop where
  here : marked before event
  later : ∀ front next back, after = front ++ next :: back → ¬ marked (before ++ event :: front) next

theorem Last.single (here : marked before event) : Last marked before event [] :=
  ⟨here, by simp⟩

theorem Last.extend (last : Last marked before event after)
    (unmarked : ¬ marked (before ++ event :: after) next) : Last marked before event (after ++ [next]) := by
  refine ⟨last.here, ?_⟩
  intro front other back split
  rcases split_append split with ⟨-, rfl, rfl⟩ | ⟨rest, -, earlier⟩
  · exact unmarked
  · exact last.later front other rest earlier

theorem Last.before_le (last : Last marked before event after) (here : marked other next)
    (same : before ++ event :: after = other ++ next :: rest) : other.length ≤ before.length := by
  rcases List.append_eq_append_iff.mp same with ⟨between, rfl, split⟩ | ⟨between, rfl, split⟩
  · cases between with
    | nil => simp
    | cons first between =>
      obtain ⟨rfl, rfl⟩ : event = first ∧ after = between ++ next :: rest := by simpa using split
      exact absurd here (last.later between next rest rfl)
  · simp

/-- Some event of a history is marked and every later one is quiet, each given what
came before it. -/
def SinceGiven (quiet marked : List ε → ε → Prop) (history : List ε) : Prop :=
  ∃ before event after, history = before ++ event :: after ∧ marked before event ∧
    ∀ front next back, after = front ++ next :: back → quiet (before ++ event :: front) next

theorem not_sinceGiven_nil : ¬ SinceGiven quiet marked [] := by
  rintro ⟨before, event, after, split, -⟩
  simp at split

theorem sinceGiven_append :
    SinceGiven quiet marked (history ++ [event]) ↔
      marked history event ∨ quiet history event ∧ SinceGiven quiet marked history := by
  constructor
  · rintro ⟨before, first, after, split, mark, silent⟩
    rcases split_append split with ⟨-, rfl, rfl⟩ | ⟨rest, rfl, rfl⟩
    · exact .inl mark
    · refine .inr ⟨silent rest event [] rfl, before, first, rest, rfl, mark, ?_⟩
      rintro front next back rfl
      exact silent front next (back ++ [event]) (by simp)
  · intro possible
    rcases possible with mark | ⟨quietly, before, first, after, rfl, mark, silent⟩
    · exact ⟨history, event, [], rfl, mark, by simp⟩
    · refine ⟨before, first, after ++ [event], by simp, mark, ?_⟩
      intro front next back split
      rcases split_append split with ⟨-, rfl, rfl⟩ | ⟨rest, -, rfl⟩
      · exact quietly
      · exact silent front next rest rfl

/-- Some event of a history is marked, given what came before it, and every later
event is quiet. -/
def Since (quiet : ε → Prop) (marked : List ε → ε → Prop) (history : List ε) : Prop :=
  ∃ before event after, history = before ++ event :: after ∧ marked before event ∧
    ∀ later ∈ after, quiet later

theorem since_iff_sinceGiven {quiet : ε → Prop} :
    Since quiet marked history ↔ SinceGiven (fun _ => quiet) marked history := by
  have later (after : List ε) : (∀ later ∈ after, quiet later) ↔
      ∀ front next back, after = front ++ next :: back → quiet next := by
    constructor
    · rintro silent front next back rfl
      exact silent next (by simp)
    · intro silent later member
      obtain ⟨front, back, split⟩ := List.append_of_mem member
      exact silent front later back split
  simp only [Since, SinceGiven, later]

theorem not_since_nil {quiet : ε → Prop} : ¬ Since quiet marked [] :=
  fun since => not_sinceGiven_nil (since_iff_sinceGiven.mp since)

theorem since_append {quiet : ε → Prop} :
    Since quiet marked (history ++ [event]) ↔
      marked history event ∨ quiet event ∧ Since quiet marked history := by
  rw [since_iff_sinceGiven, since_iff_sinceGiven, sinceGiven_append]

end LoraEval.Core

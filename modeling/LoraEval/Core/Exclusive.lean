import LoraEval.Core.Run

/-! Threads of which at most one may be alive. A command aborts some threads and may then
start one; it keeps them exclusive exactly if it leaves no other thread alive. -/

namespace LoraEval.Core

def AtMostOne (alive : τ → Prop) : Prop := ∀ first second, alive first → alive second → first = second

theorem AtMostOne.dead {alive : τ → Prop} (exclusive : AtMostOne alive) (other : τ) (active : alive thread)
    (different : other ≠ thread) : ¬ alive other :=
  fun also => different (exclusive other thread also active)

structure Command (τ : Type u) where
  aborts : τ → Prop
  starts : Option τ

namespace Command

def nothing : Command τ := ⟨fun _ => False, none⟩

def abort (thread : τ) : Command τ := ⟨(· = thread), none⟩

def restart (thread : τ) : Command τ := ⟨(· = thread), some thread⟩

def apply (command : Command τ) (alive : τ → Prop) (thread : τ) : Prop :=
  command.starts = some thread ∨ alive thread ∧ ¬ command.aborts thread

/-- A thread is started only where every other one is dead or aborted. -/
def Clears (command : Command τ) (alive : τ → Prop) : Prop :=
  ∀ started ∈ command.starts, ∀ thread, alive thread → ¬ command.aborts thread → thread = started

theorem nothing_apply (alive : τ → Prop) : nothing.apply alive = alive := by
  funext thread
  simp [apply, nothing]

theorem Clears.of_none {command : Command τ} (none : command.starts = none) (alive : τ → Prop) :
    command.Clears alive := by
  intro started found
  rw [none] at found
  cases found

theorem exclusive_iff {command : Command τ} (exclusive : AtMostOne alive) :
    AtMostOne (command.apply alive) ↔ command.Clears alive := by
  constructor
  · intro after started found thread active kept
    exact after thread started (.inr ⟨active, kept⟩) (.inl found)
  · intro clears first second one two
    rcases one with new | ⟨active, kept⟩ <;> rcases two with also | ⟨active', kept'⟩
    · exact Option.some.inj (new.symm.trans also)
    · exact (clears first new second active' kept').symm
    · exact clears second also first active kept
    · exact exclusive first second active active'

end Command

/-- Exclusion along a run of a machine whose steps act on its threads as commands do. -/
theorem exclusive_run_iff {step : ε → σ → Option σ} {alive : σ → τ → Prop} {command : ε → σ → Command τ}
    {condition : ε → σ → Prop}
    (acts : ∀ event state next, step event state = some next →
      alive next = (command event state).apply (alive state))
    (clears : ∀ event state next, step event state = some next → AtMostOne (alive state) →
      ((command event state).Clears (alive state) ↔ condition event state))
    (run : forEach events step state = some final) (initially : ∀ thread, ¬ alive state thread) :
    Throughout step (fun state => AtMostOne (alive state)) state events ↔
      Meets step (fun _ event state => condition event state) before state events := by
  refine throughout_iff ?_ run fun first _ active => absurd active (initially first)
  intro event state next taken exclusive
  rw [acts event state next taken, Command.exclusive_iff exclusive]
  exact clears event state next taken exclusive

end LoraEval.Core

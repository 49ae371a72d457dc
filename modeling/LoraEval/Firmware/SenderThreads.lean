import LoraEval.Core.Run
import LoraEval.Firmware.Modem

/-! The experiment threads of the sender. `prepare_sender_cb` always starts
`exec_experiment` on `thread1`; a thread that reaches its end prepares the next
experiment itself, on the thread that `stack_number` picks. -/

namespace LoraEval.Firmware

open LoraEval.Core

/-- The two threads `exec_experiment` runs on. -/
inductive Slot where
  | thread1
  | thread3
deriving DecidableEq, Repr

/-- No thread was created yet, the thread has ended, or it is alive in one of the
three parts of `exec_experiment`. -/
inductive ExperimentThread where
  | unset
  | ended
  | listening
  | acknowledging
  | measuring
deriving DecidableEq, Repr

def ExperimentThread.alive : ExperimentThread → Bool
  | .unset | .ended => false
  | .listening | .acknowledging | .measuring => true

/-- `k_thread_abort` behind the test that the thread id is not `NULL`. -/
def ExperimentThread.abort : ExperimentThread → ExperimentThread
  | .unset => .unset
  | _ => .ended

theorem ExperimentThread.abort_alive (thread : ExperimentThread) : thread.abort.alive = false := by
  cases thread <;> rfl

/-- The global variables of `lses.c` behind an experiment. -/
structure SenderThreads where
  thread1 : ExperimentThread
  thread3 : ExperimentThread
  stackNumber : Nat
  configVals : Vector Byte 5
  config : LoraModemConfig
deriving DecidableEq, Repr

def SenderThreads.initial (config : LoraModemConfig) : SenderThreads where
  thread1 := .unset
  thread3 := .unset
  stackNumber := 0
  configVals := .replicate 5 0
  config := config

namespace SenderThreads

def thread (state : SenderThreads) : Slot → ExperimentThread
  | .thread1 => state.thread1
  | .thread3 => state.thread3

def setThread (state : SenderThreads) (slot : Slot) (thread : ExperimentThread) : SenderThreads :=
  match slot with
  | .thread1 => { state with thread1 := thread }
  | .thread3 => { state with thread3 := thread }

def aliveSlots (state : SenderThreads) : List Slot :=
  [Slot.thread1, Slot.thread3].filter fun slot => (state.thread slot).alive

/-- The part of `prepare_sender_cb` in front of the length test. -/
def abortAll (state : SenderThreads) : SenderThreads :=
  { state with thread1 := state.thread1.abort, thread3 := state.thread3.abort }

/-- `prepare_sender_cb` for a 5-byte write. -/
def prepareSender (outside : Nat → Nat) (pu : Vector Byte 5) (state : SenderThreads) : SenderThreads :=
  { state.abortAll with configVals := pu, config := changeConfig outside pu false, thread1 := .listening }

/-- `prepare_sender_cb` for a 1-byte write. -/
def cancelSender (state : SenderThreads) : SenderThreads :=
  let state := state.abortAll
  { state with config := { state.config with tx := true }, thread1 := state.thread1.abort }

end SenderThreads

/-- The last block of `exec_experiment`, and whether it came to its `return`. -/
structure Ending where
  state : SenderThreads
  returned : Bool
deriving DecidableEq, Repr

/-- The thread `current` replaces the thread `next` and returns. -/
def restart (next current : Slot) (state : SenderThreads) : Ending :=
  let aborted := state.setThread next (state.thread next).abort
  -- a thread that aborts itself does not come to the creation of its successor
  if next = current then ⟨aborted, false⟩
  else ⟨(aborted.setThread next .listening).setThread current .ended, true⟩

/-- The automatic preparation for another experiment, on the thread `slot`. -/
def endExperiment (outside : Nat → Nat) (slot : Slot) (state : SenderThreads) : Ending :=
  let state := { state with config := changeConfig outside state.configVals false }
  if state.stackNumber = 0 then restart .thread3 slot { state with stackNumber := 1 }
  else restart .thread1 slot { state with stackNumber := 0 }

/-- What the sender takes in: writes of the phone, packets of the receiver, and
the progress of the thread on a slot, up to every assignment of its loops. -/
inductive SenderInput where
  | explore (pu : Vector Byte 5)
  | prepare (pu : Vector Byte 5)
  | cancel
  | ping (slot : Slot)
  | settings (slot : Slot)
  | countedDown (slot : Slot)
  | assigns (slot : Slot) (level index : Nat)
  | ends (slot : Slot)
deriving DecidableEq, Repr

/-- The thread on `slot` goes from one part of `exec_experiment` to another. -/
def SenderThreads.advance (state : SenderThreads) (slot : Slot) (phase next : ExperimentThread)
    (config : LoraModemConfig) : Option SenderThreads :=
  if state.thread slot = phase then some { state.setThread slot next with config } else none

/-- One step of the sender. A slot takes only what its thread waits for. -/
def senderStep (outside : Nat → Nat) (input : SenderInput) (state : SenderThreads) :
    Option SenderThreads :=
  match input with
  | .explore pu => some { state with config := changeConfig outside pu true }
  | .prepare pu => some (state.prepareSender outside pu)
  | .cancel => some state.cancelSender
  | .ping slot => state.advance slot .listening .listening { state.config with tx := false }
  | .settings slot => state.advance slot .listening .acknowledging { state.config with tx := false }
  | .countedDown slot => state.advance slot .acknowledging .measuring { state.config with tx := true }
  | .assigns slot level index => do
    let config ← state.config.setParam level index
    state.advance slot .measuring .measuring config
  | .ends slot =>
    if state.thread slot = .measuring then some (endExperiment outside slot state).state else none

def senderRun (outside : Nat → Nat) (config : LoraModemConfig) (history : List SenderInput) :
    Option SenderThreads :=
  forEach history (senderStep outside) (.initial config)

/-- After the last block exactly one thread is alive, it listens, and the modem has
the prepared configuration for receiving. -/
def Ending.Ready (outside : Nat → Nat) (ending : Ending) : Prop :=
  ending.returned = true ∧
    (∃ slot, ending.state.aliveSlots = [slot] ∧ ending.state.thread slot = .listening) ∧
    ending.state.config = changeConfig outside ending.state.configVals false

/-- Every experiment of a history leaves the sender ready for the next one. -/
def AlwaysReady (outside : Nat → Nat) (config : LoraModemConfig) (history : List SenderInput) : Prop :=
  ∀ before slot after, history = before ++ .ends slot :: after →
    ∀ state, senderRun outside config before = some state →
      (endExperiment outside slot state).Ready outside

def SenderInput.quiet : SenderInput → Bool
  | .prepare _ | .cancel | .ends _ => false
  | .explore _ | .ping _ | .settings _ | .countedDown _ | .assigns _ _ _ => true

def SenderInput.isEnd : SenderInput → Bool
  | .ends _ => true
  | _ => false

/-- The thread that is alive was started by a preparation that followed an odd
number of experiments. -/
def LatePrepare (history : List SenderInput) : Prop :=
  Since (fun input => input.quiet = true)
    (fun before input => (∃ pu, input = .prepare pu) ∧ before.countP SenderInput.isEnd % 2 = 1) history

namespace SenderThreads

@[simp]
theorem thread_setThread (state : SenderThreads) (slot other : Slot) (thread : ExperimentThread) :
    (state.setThread slot thread).thread other = if other = slot then thread else state.thread other := by
  cases slot <;> cases other <;> rfl

@[simp]
theorem stackNumber_setThread (state : SenderThreads) (slot : Slot) (thread : ExperimentThread) :
    (state.setThread slot thread).stackNumber = state.stackNumber := by
  cases slot <;> rfl

/-- All that `advance` does. -/
theorem advance_spec {modem : LoraModemConfig} (taken : advance state slot phase after modem = some next) :
    state.thread slot = phase ∧ next.config = modem ∧ next.stackNumber = state.stackNumber ∧
      ∀ other, next.thread other = if other = slot then after else state.thread other := by
  obtain ⟨current, same⟩ := Option.ite_none_right_eq_some.mp taken
  obtain rfl := Option.some.inj same
  exact ⟨current, rfl, stackNumber_setThread .., fun other => thread_setThread ..⟩

/-- Going from one part of `exec_experiment` to another starts and ends no thread. -/
theorem advance_alive {modem : LoraModemConfig} (taken : advance state slot phase after modem = some next)
    (same : after.alive = phase.alive) :
    next.stackNumber = state.stackNumber ∧
      ∀ other, (next.thread other).alive = (state.thread other).alive := by
  obtain ⟨current, -, stack, threads⟩ := advance_spec taken
  refine ⟨stack, fun other => ?_⟩
  rw [threads]
  split
  case isTrue here => rw [here, current, same]
  case isFalse => rfl

end SenderThreads

theorem quiet_step (quiet : input.quiet = true) (taken : senderStep outside input state = some next) :
    next.stackNumber = state.stackNumber ∧
      ∀ slot, (next.thread slot).alive = (state.thread slot).alive := by
  cases input with
  | prepare | cancel | ends => simp [SenderInput.quiet] at quiet
  | explore pu =>
    obtain rfl := Option.some.inj taken
    exact ⟨rfl, fun slot => by cases slot <;> rfl⟩
  | ping slot | settings slot | countedDown slot => exact SenderThreads.advance_alive taken rfl
  | assigns slot level index =>
    obtain ⟨config, -, advanced⟩ := Option.bind_eq_some_iff.mp taken
    exact SenderThreads.advance_alive advanced rfl

/-- How `stack_number` and the alive thread hang together after a history. -/
structure ThreadsInv (history : List SenderInput) (state : SenderThreads) : Prop where
  stack : state.stackNumber = history.countP SenderInput.isEnd % 2
  single : state.thread1.alive = true → state.thread3.alive = false
  first : state.thread1.alive = true → (state.stackNumber = 1 ↔ LatePrepare history)
  third : state.thread3.alive = true → state.stackNumber = 1 ∧ ¬ LatePrepare history

theorem latePrepare_quiet (quiet : input.quiet = true) :
    LatePrepare (history ++ [input]) ↔ LatePrepare history := by
  have unmarked : ∀ pu, input ≠ .prepare pu := by
    rintro pu rfl
    simp [SenderInput.quiet] at quiet
  simp [LatePrepare, since_append, quiet, unmarked]

theorem latePrepare_prepare :
    LatePrepare (history ++ [.prepare pu]) ↔ history.countP SenderInput.isEnd % 2 = 1 := by
  simp [LatePrepare, since_append, SenderInput.quiet]

theorem not_latePrepare_ends : ¬ LatePrepare (history ++ [.ends slot]) := by
  simp [LatePrepare, since_append, SenderInput.quiet]

theorem ThreadsInv.quiet (inv : ThreadsInv history state) (quiet : input.quiet = true)
    (taken : senderStep outside input state = some next) : ThreadsInv (history ++ [input]) next := by
  obtain ⟨stack, alive⟩ := quiet_step quiet taken
  have alive₁ : next.thread1.alive = state.thread1.alive := alive .thread1
  have alive₃ : next.thread3.alive = state.thread3.alive := alive .thread3
  have uncounted : input.isEnd = false := by
    cases input <;> simp_all [SenderInput.quiet, SenderInput.isEnd]
  constructor
  · simpa [stack, uncounted] using inv.stack
  · simpa [alive₁, alive₃] using inv.single
  · simpa [alive₁, stack, latePrepare_quiet quiet] using inv.first
  · simpa [alive₃, stack, latePrepare_quiet quiet] using inv.third

theorem ThreadsInv.prepare (inv : ThreadsInv history state) :
    ThreadsInv (history ++ [.prepare pu]) (state.prepareSender outside pu) := by
  have stopped : (state.prepareSender outside pu).thread3.alive = false :=
    ExperimentThread.abort_alive state.thread3
  refine ⟨?_, fun _ => stopped, fun _ => ?_, by simp [stopped]⟩
  · change state.stackNumber = _
    simpa [SenderInput.isEnd] using inv.stack
  · rw [latePrepare_prepare, ← inv.stack]
    rfl

theorem ThreadsInv.cancel (inv : ThreadsInv history state) :
    ThreadsInv (history ++ [.cancel]) state.cancelSender := by
  have stopped₁ : state.cancelSender.thread1.alive = false := ExperimentThread.abort_alive _
  have stopped₃ : state.cancelSender.thread3.alive = false := ExperimentThread.abort_alive _
  refine ⟨?_, fun _ => stopped₃, by simp [stopped₁], by simp [stopped₃]⟩
  change state.stackNumber = _
  simpa [SenderInput.isEnd] using inv.stack

def SenderThreads.successor (state : SenderThreads) : Slot :=
  if state.stackNumber = 0 then .thread3 else .thread1

theorem endExperiment_eq (outside : Nat → Nat) (slot : Slot) (state : SenderThreads) :
    endExperiment outside slot state = restart state.successor slot
      { state with
        config := changeConfig outside state.configVals false,
        stackNumber := if state.stackNumber = 0 then 1 else 0 } := by
  by_cases first : state.stackNumber = 0 <;> simp [endExperiment, SenderThreads.successor, first]

theorem endExperiment_frame (outside : Nat → Nat) (slot : Slot) (state : SenderThreads) :
    (endExperiment outside slot state).state.stackNumber = (if state.stackNumber = 0 then 1 else 0) ∧
      (endExperiment outside slot state).state.configVals = state.configVals ∧
      (endExperiment outside slot state).state.config = changeConfig outside state.configVals false := by
  rw [endExperiment_eq]
  unfold restart SenderThreads.setThread
  cases state.successor <;> cases slot <;> exact ⟨rfl, rfl, rfl⟩

theorem endExperiment_self (outside : Nat → Nat) (self : state.successor = slot) :
    (endExperiment outside slot state).returned = false ∧
      ∀ other, (endExperiment outside slot state).state.thread other =
        if other = slot then (state.thread slot).abort else state.thread other := by
  rw [endExperiment_eq, self]
  refine ⟨by simp [restart], fun other => ?_⟩
  cases slot <;> cases other <;> simp [restart] <;> rfl

theorem endExperiment_other (outside : Nat → Nat) (different : state.successor ≠ slot) :
    (endExperiment outside slot state).returned = true ∧
      ∀ other, (endExperiment outside slot state).state.thread other =
        if other = slot then .ended else .listening := by
  rw [endExperiment_eq]
  refine ⟨by simp [restart, different], fun other => ?_⟩
  revert different
  cases state.successor <;> cases slot <;> cases other <;> simp [restart]

theorem endExperiment_alive (alone : ∀ other, other ≠ slot → (state.thread other).alive = false)
    (alive : ((endExperiment outside slot state).state.thread other).alive = true) :
    other = state.successor := by
  by_cases self : state.successor = slot
  · rw [(endExperiment_self outside self).2] at alive
    split at alive
    case isTrue => simp [ExperimentThread.abort_alive] at alive
    case isFalse different => simp [alone other different] at alive
  · rw [(endExperiment_other outside self).2] at alive
    split at alive
    case isTrue => simp [ExperimentThread.alive] at alive
    case isFalse different =>
      revert self different
      cases other <;> cases slot <;> cases state.successor <;> decide

theorem ThreadsInv.alone (inv : ThreadsInv history state) (running : state.thread slot = .measuring)
    (different : other ≠ slot) : (state.thread other).alive = false := by
  have active : (state.thread slot).alive = true := by rw [running]; rfl
  cases slot <;> cases other
  case thread1.thread1 | thread3.thread3 => exact absurd rfl different
  case thread1.thread3 => exact inv.single active
  case thread3.thread1 =>
    apply Bool.eq_false_iff.mpr
    intro both
    cases active.symm.trans (inv.single both)

theorem ThreadsInv.ends (inv : ThreadsInv history state) (running : state.thread slot = .measuring) :
    ThreadsInv (history ++ [.ends slot]) (endExperiment outside slot state).state := by
  have flipped := (endExperiment_frame outside slot state).1
  have survivor (other : Slot) (alive : ((endExperiment outside slot state).state.thread other).alive) :
      other = state.successor :=
    endExperiment_alive (fun _ different => inv.alone running different) alive
  refine ⟨?_, fun first => ?_, fun first => ?_, fun third => ?_⟩
  · have parity := inv.stack
    rw [flipped, List.countP_append, List.countP_singleton]
    simp only [SenderInput.isEnd, if_true]
    split <;> omega
  · apply Bool.eq_false_iff.mpr
    intro third
    cases (survivor .thread1 first).trans (survivor .thread3 third).symm
  · have odd : state.stackNumber ≠ 0 := by
      intro even
      have chosen := survivor .thread1 first
      simp [SenderThreads.successor, even] at chosen
    simp [flipped, odd, not_latePrepare_ends]
  · have even : state.stackNumber = 0 := by
      by_contra odd
      have chosen := survivor .thread3 third
      simp [SenderThreads.successor, odd] at chosen
    simp [flipped, even, not_latePrepare_ends]

theorem ThreadsInv.step (inv : ThreadsInv history state)
    (taken : senderStep outside input state = some next) : ThreadsInv (history ++ [input]) next := by
  cases input with
  | explore | ping | settings | countedDown | assigns => exact inv.quiet rfl taken
  | prepare pu =>
    obtain rfl := Option.some.inj taken
    exact inv.prepare
  | cancel =>
    obtain rfl := Option.some.inj taken
    exact inv.cancel
  | ends slot =>
    obtain ⟨running, rfl⟩ : state.thread slot = .measuring ∧
        (endExperiment outside slot state).state = next := by
      simpa [senderStep] using taken
    exact inv.ends running

theorem senderRun_inv (run : senderRun outside config history = some state) :
    ThreadsInv history state := by
  refine history_invariant ThreadsInv ?_ (fun _ _ _ _ taken inv => inv.step taken) run
  constructor <;> simp [SenderThreads.initial, ExperimentThread.alive]

/-- The last block does its work exactly if it prepares the thread it does not run on. -/
theorem ready_iff_successor (outside : Nat → Nat) (slot : Slot) (state : SenderThreads) :
    (endExperiment outside slot state).Ready outside ↔ state.successor ≠ slot := by
  constructor
  · intro ready self
    have returned := ready.1
    rw [(endExperiment_self outside self).1] at returned
    cases returned
  · intro different
    obtain ⟨returned, threads⟩ := endExperiment_other outside different
    obtain ⟨-, vals, config⟩ := endExperiment_frame outside slot state
    refine ⟨returned, ⟨state.successor, ?_, ?_⟩, ?_⟩
    · rw [SenderThreads.aliveSlots]
      revert different
      cases state.successor <;> cases slot <;> simp [threads, ExperimentThread.alive]
    · rw [threads, if_neg different]
    · rw [config, vals]

/-- A measuring thread prepares the other one, unless a late preparation started it. -/
theorem ThreadsInv.successor_iff (inv : ThreadsInv history state)
    (running : state.thread slot = .measuring) : state.successor ≠ slot ↔ ¬ LatePrepare history := by
  have active : (state.thread slot).alive = true := by rw [running]; rfl
  cases slot with
  | thread1 =>
    rw [← inv.first active, inv.stack, SenderThreads.successor, inv.stack]
    rcases Nat.mod_two_eq_zero_or_one (history.countP SenderInput.isEnd) with even | odd
    · simp [even]
    · simp [odd]
  | thread3 =>
    obtain ⟨odd, timely⟩ := inv.third active
    simp [SenderThreads.successor, odd, timely]

/-- The sender becomes ready after every experiment of a history exactly if none of
them was prepared after an odd number of experiments. -/
theorem alwaysReady_iff (run : senderRun outside config history = some final) :
    AlwaysReady outside config history ↔
      ∀ before slot after, history = before ++ .ends slot :: after → ¬ LatePrepare before := by
  have each (before : List SenderInput) (slot : Slot) (after : List SenderInput)
      (split : history = before ++ .ends slot :: after) :
      ∃ state, senderRun outside config before = some state ∧
        ((endExperiment outside slot state).Ready outside ↔ ¬ LatePrepare before) := by
    rw [split] at run
    obtain ⟨state, next, reached, taken⟩ := forEach_taken run
    have running : state.thread slot = .measuring := by
      by_contra idle
      simp [senderStep, idle] at taken
    exact ⟨state, reached,
      (ready_iff_successor ..).trans ((senderRun_inv reached).successor_iff running)⟩
  constructor
  · intro ready before slot after split
    obtain ⟨state, reached, same⟩ := each before slot after split
    exact same.mp (ready before slot after split state reached)
  · intro timely before slot after split state reached
    obtain ⟨other, reached', same⟩ := each before slot after split
    obtain rfl : state = other := Option.some.inj (reached.symm.trans reached')
    exact same.mpr (timely before slot after split)

def cycle (slot : Slot) : List SenderInput := [.settings slot, .countedDown slot, .ends slot]

/-- Two experiments after one preparation. -/
theorem alwaysReady_two_experiments :
    AlwaysReady (fun _ => 0) (changeConfig (fun _ => 0) #v[0, 0, 0, 0, 0] true)
      (.prepare #v[1, 0, 2, 0, 4] :: (cycle .thread1 ++ cycle .thread3)) := by
  refine (alwaysReady_iff rfl).mpr ?_
  rintro before slot after split ⟨front, input, back, rfl, ⟨⟨pu, rfl⟩, odd⟩, -⟩
  cases front with
  | nil => simp at odd
  | cons first rest =>
    have again : .prepare pu ∈ cycle .thread1 ++ cycle .thread3 := by
      rw [(List.cons.inj split).2]
      simp
    simp [cycle] at again

/-- The phone prepares the sender again after its first experiment, and the second
experiment ends with no thread alive. -/
theorem prepared_again_no_thread_alive :
    let history := .prepare #v[1, 0, 2, 0, 4] :: (cycle .thread1 ++
      .prepare #v[1, 0, 2, 0, 4] :: cycle .thread1)
    let config := changeConfig (fun _ => 0) #v[0, 0, 0, 0, 0] true
    (senderRun (fun _ => 0) config history).map SenderThreads.aliveSlots = some [] ∧
      ¬ AlwaysReady (fun _ => 0) config history := by
  refine ⟨rfl, fun ready => ?_⟩
  have last := ready (.prepare #v[1, 0, 2, 0, 4] :: (cycle .thread1 ++
    [.prepare #v[1, 0, 2, 0, 4], .settings .thread1, .countedDown .thread1])) .thread1 [] rfl _ rfl
  exact absurd last.1 (by decide)

end LoraEval.Firmware

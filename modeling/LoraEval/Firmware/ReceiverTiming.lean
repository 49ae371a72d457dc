import LoraEval.Firmware.ReceiverRecords
import LoraEval.Firmware.SenderTiming

namespace LoraEval.Firmware

open LoraEval.Core

/-- Every `lora_recv` returns a packet or times out within the time that is left. -/
def InTime : List RecvResult → Int → Prop
  | [], _ => True
  | result :: rest, left => result.elapsed ≤ left ∧ InTime rest (left - result.elapsed)

theorem receiveRound_timing
    (round : receiveRound settings ldiv0 delay result timing state = some (later, next)) :
    later = ⟨timing.iterationTime - result.elapsed, timing.millisTotal + result.elapsed⟩ := by
  unfold receiveRound at round
  cases heard : result.reception with
  | none =>
    simp only [heard] at round
    cases round
    rfl
  | some reception =>
    simp only [heard] at round
    obtain ⟨handled, -, same⟩ := Option.bind_eq_some_iff.mp round
    cases same
    rfl

/-- The reception loop of the receiver lasts exactly as long as its window. -/
theorem receiveLoop_window (inTime : InTime results timing.iterationTime)
    (left : 0 ≤ timing.iterationTime)
    (run : receiveLoop settings ldiv0 delay results timing state = some (later, final)) :
    later.iterationTime = 0 ∧ later.millisTotal = timing.millisTotal + timing.iterationTime := by
  induction results generalizing timing state with
  | nil =>
    by_cases more : 0 < timing.iterationTime
    · simp only [receiveLoop, more, if_true] at run
      have ended := receiveRound_timing run
      subst ended
      simp only
      omega
    · simp only [receiveLoop, more, if_false] at run
      cases run
      omega
  | cons result rest ih =>
    by_cases more : 0 < timing.iterationTime
    · simp only [receiveLoop, more, if_true] at run
      obtain ⟨⟨next, between⟩, round, others⟩ := Option.bind_eq_some_iff.mp run
      have spent := receiveRound_timing round
      subst spent
      obtain ⟨ended, total⟩ := ih inTime.2 (by have := inTime.1; simp only; omega) others
      refine ⟨ended, total.trans ?_⟩
      simp only
      omega
    · simp only [receiveLoop, more, if_false] at run
      cases run
      omega

/-- The milliseconds of the window of iteration `k`; the first one includes the
start delay. -/
def windowTime (settings : Settings) (delay : Nat) (first : Bool) (k : Nat) : Int :=
  (if first && k == 0 then 1000 * delay else 0) + window settings

theorem iterationTime_eq_window (settings : Settings) (delay : Nat) (first : Bool) (k : Nat) :
    iterationTime settings (first && k == 0) delay = windowTime settings delay first k := by
  simp only [iterationTime, windowTime, window]
  push_cast
  ring

/-- A run of the loops with the milliseconds that its windows took. -/
structure TimedReceiver where
  state : ReceiverState
  windows : List Int

section

variable (settings : Settings) (ldiv0 : Int → Int) (delay : Nat)

def TimedReceiver.enter (level index : Nat) (run : TimedReceiver) : Option TimedReceiver :=
  (run.state.enter level index).map fun state => { run with state }

/-- `receiveCombination`, with the time between its first and its last time stamp. -/
def TimedReceiver.combination (run : TimedReceiver) : Option TimedReceiver := do
  let configured := run.state.emit (.configured run.state.config.params)
  let timing : Timing := ⟨iterationTime settings run.state.firstIteration delay, 1000⟩
  let (later, final) ← receiveLoop settings ldiv0 delay (run.state.inputs.headD []) timing configured
  return {
    state := { final with
      firstIteration := false, iteration := final.iteration + 1, inputs := run.state.inputs.tail }
    windows := run.windows ++ [later.millisTotal - timing.millisTotal] }

def timedExperiment (state : ReceiverState) : Option TimedReceiver := do
  let compareData ← store state.compareData 5 underscore
  nest TimedReceiver.enter (TimedReceiver.combination settings ldiv0 delay) settings.levels 0
    ⟨{ state with compareData, config := { state.config with tx := false } }, []⟩

def receiverWindows (state : ReceiverState) : Option (List Int) :=
  (timedExperiment settings ldiv0 delay state).map TimedReceiver.windows

/-- In every window each `lora_recv` returns within the time that is left. -/
def ReceiverState.Punctual (state : ReceiverState) : Prop :=
  ∀ k, InTime (state.inputs.getD k []) (iterationTime settings (state.firstIteration && k == 0) delay)

variable {settings ldiv0 delay}

theorem TimedReceiver.combination_view (run : TimedReceiver) :
    (run.combination settings ldiv0 delay).map TimedReceiver.state =
      receiveCombination settings ldiv0 delay run.state := by
  rw [TimedReceiver.combination, receiveCombination]
  cases receiveLoop settings ldiv0 delay (run.state.inputs.headD [])
    ⟨iterationTime settings run.state.firstIteration delay, 1000⟩
    (run.state.emit (.configured run.state.config.params)) <;> rfl

/-- Timing a run does not change it. -/
theorem timedExperiment_view (state : ReceiverState) :
    (timedExperiment settings ldiv0 delay state).map TimedReceiver.state =
      receiverExperiment settings ldiv0 delay state := by
  rw [receiverExperiment_eq, timedExperiment]
  cases store state.compareData 5 underscore with
  | none => rfl
  | some compareData =>
    refine nest_view ?_ TimedReceiver.combination_view settings.levels 0 _
    intro level index run
    rw [TimedReceiver.enter, Option.map_map]
    exact Option.map_id'

variable (settings delay) in
/-- Between two combinations of a run from `start`: one window for each combination
so far, each of its own length. -/
structure TimedReceiver.Timed (start : ReceiverState) (run : TimedReceiver) : Prop where
  combinations : run.windows.length = run.state.reading.configured
  remaining : run.state.inputs = start.inputs.drop run.windows.length
  first : run.state.firstIteration = (start.firstIteration && run.windows.length == 0)
  lengths : run.windows =
    (List.range run.windows.length).map (windowTime settings delay start.firstIteration)

theorem TimedReceiver.Timed.combination {start : ReceiverState} {run next : TimedReceiver}
    (punctual : start.Punctual settings delay) (timed : run.Timed settings delay start)
    (body : run.combination settings ldiv0 delay = some next) : next.Timed settings delay start := by
  obtain ⟨⟨later, final⟩, received, same⟩ := Option.bind_eq_some_iff.mp body
  cases same
  have inTime := punctual run.windows.length
  rw [← timed.first, List.getD_eq_getElem?_getD, ← List.head?_drop, ← timed.remaining,
    ← List.headD_eq_head?_getD] at inTime
  obtain ⟨-, ended⟩ := receiveLoop_window inTime (iterationTime_pos _ _ _).le received
  obtain ⟨new, receives⟩ := receiveLoop_receives received
  have configured : final.reading.configured = run.state.reading.configured + 1 := by
    rw [receives.configured, ReceiverState.reading_started]
  have lasted : later.millisTotal - 1000 =
      windowTime settings delay start.firstIteration run.windows.length := by
    rw [ended, ← iterationTime_eq_window, ← timed.first]
    simp only
    omega
  refine ⟨?_, ?_, ?_, ?_⟩ <;> simp only [List.length_append, List.length_singleton]
  · rw [timed.combinations]
    exact configured.symm
  · rw [timed.remaining, List.tail_drop]
  · simp
  · rw [List.range_succ, List.map_append, ← timed.lengths, lasted]
    rfl

/-- A receiver whose radio calls return in time spends exactly its window on every
combination. -/
theorem receiverWindows_eq {start : ReceiverState} (punctual : start.Punctual settings delay)
    (fresh : start.trace = [])
    (run : receiverExperiment settings ldiv0 delay start = some final) :
    receiverWindows settings ldiv0 delay start = some
      ((List.range final.configuredParams.length).map
        (windowTime settings delay start.firstIteration)) := by
  rw [← timedExperiment_view] at run
  obtain ⟨timed, times, rfl⟩ := Option.map_eq_some_iff.mp run
  rw [receiverWindows, times]
  rw [timedExperiment] at times
  obtain ⟨compareData, -, nested⟩ := Option.bind_eq_some_iff.mp times
  have kept : timed.Timed settings delay start := by
    refine nest_keeps (TimedReceiver.Timed settings delay start) ?_
      (fun run next body holds => holds.combination punctual body) nested ?_
    · intro depth index run next entered holds
      obtain ⟨state, enters, rfl⟩ := Option.map_eq_some_iff.mp entered
      obtain ⟨config, -, rest⟩ := Option.bind_eq_some_iff.mp enters
      obtain ⟨data, -, same⟩ := Option.bind_eq_some_iff.mp rest
      cases same
      exact ⟨holds.combinations, holds.remaining, holds.first, holds.lengths⟩
    · refine ⟨?_, rfl, by simp, rfl⟩
      rw [ReceiverState.reading, fresh]
      rfl
  rw [← reading_configured, ← kept.combinations]
  exact congrArg some kept.lengths

end

end LoraEval.Firmware

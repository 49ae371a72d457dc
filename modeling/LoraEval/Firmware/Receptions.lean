import LoraEval.Firmware.ReceiverRecords

/-! The packets a run of the receiver handles, each with the time of its arrival and
the states before and after it. The run is the receiver's own, observed. -/

namespace LoraEval.Firmware

open LoraEval.Core

/-- A handled packet: the position of its window in the run, and the milliseconds
from the start of the window to its arrival. -/
structure Handling where
  iteration : Nat
  time : Nat
  reception : Reception
  before : ReceiverState
  after : ReceiverState

def Handling.arrival (handling : Handling) : Nat × Nat × Reception :=
  (handling.iteration, handling.time, handling.reception)

/-- The packets of a window that arrive while the loop runs, with their times. -/
def heard (window : Int) : Nat → List RecvResult → List (Nat × Reception)
  | _, [] => []
  | time, result :: rest =>
    if time < window then
      (result.reception.toList.map fun reception => (time + result.elapsed, reception)) ++
        heard window (time + result.elapsed) rest
    else []

/-- A state of the receiver with the packets handled so far. -/
structure ReceiverRun where
  state : ReceiverState
  handled : List Handling

namespace ReceiverRun

def enter (level index : Nat) (run : ReceiverRun) : Option ReceiverRun :=
  (run.state.enter level index).map fun state => { run with state }

section

variable (settings : Settings) (ldiv0 : Int → Int) (delay : Nat)

def round (result : RecvResult) (time : Nat) (timing : Timing) (run : ReceiverRun) :
    Option (Timing × ReceiverRun) :=
  (receiveRound settings ldiv0 delay result timing run.state).map fun (later, next) =>
    (later, ⟨next, run.handled ++ result.reception.toList.map fun reception =>
      ⟨run.state.reading.configured - 1, time + result.elapsed, reception, run.state, next⟩⟩)

def loop : List RecvResult → Nat → Timing → ReceiverRun → Option (Timing × ReceiverRun)
  | [], time, timing, run =>
    if 0 < timing.iterationTime then
      run.round settings ldiv0 delay ⟨timing.iterationTime.toNat, none⟩ time timing
    else some (timing, run)
  | result :: rest, time, timing, run =>
    if 0 < timing.iterationTime then do
      let (later, next) ← run.round settings ldiv0 delay result time timing
      loop rest (time + result.elapsed) later next
    else some (timing, run)

def combination (run : ReceiverRun) : Option ReceiverRun := do
  let configured := run.state.emit (.configured run.state.config.params)
  let timing : Timing := ⟨iterationTime settings run.state.firstIteration delay, 1000⟩
  let (_, final) ← loop settings ldiv0 delay (run.state.inputs.headD []) 0 timing
    { run with state := configured }
  return { final with state := { final.state with
    firstIteration := false
    iteration := final.state.iteration + 1
    inputs := run.state.inputs.tail } }

end

end ReceiverRun

section

variable (settings : Settings) (ldiv0 : Int → Int) (delay : Nat)

def observedExperiment (state : ReceiverState) : Option ReceiverRun := do
  let compareData ← store state.compareData 5 underscore
  nest ReceiverRun.enter (ReceiverRun.combination settings ldiv0 delay) settings.levels 0
    ⟨{ state with compareData, config := { state.config with tx := false } }, []⟩

def handlings (config : LoraModemConfig) (inputs : List (List RecvResult)) : Option (List Handling) :=
  (observedExperiment settings ldiv0 delay (.start config inputs)).map ReceiverRun.handled

variable {settings ldiv0 delay}

theorem ReceiverRun.round_view (result : RecvResult) (time : Nat) (timing : Timing) (run : ReceiverRun) :
    (run.round settings ldiv0 delay result time timing).map (fun final => (final.1, final.2.state)) =
      receiveRound settings ldiv0 delay result timing run.state := by
  rw [ReceiverRun.round, Option.map_map]
  exact Option.map_id'

theorem ReceiverRun.loop_view (results : List RecvResult) (time : Nat) (timing : Timing) (run : ReceiverRun) :
    (ReceiverRun.loop settings ldiv0 delay results time timing run).map
        (fun final => (final.1, final.2.state)) =
      receiveLoop settings ldiv0 delay results timing run.state := by
  induction results generalizing time timing run with
  | nil =>
    simp only [ReceiverRun.loop, receiveLoop]
    split
    · exact ReceiverRun.round_view _ time timing run
    · rfl
  | cons result rest ih =>
    simp only [ReceiverRun.loop, receiveLoop]
    split
    · rw [← ReceiverRun.round_view result time timing run]
      cases run.round settings ldiv0 delay result time timing with
      | none => rfl
      | some next => exact ih _ _ _
    · rfl

theorem ReceiverRun.combination_view (run : ReceiverRun) :
    (ReceiverRun.combination settings ldiv0 delay run).map ReceiverRun.state =
      receiveCombination settings ldiv0 delay run.state := by
  simp only [ReceiverRun.combination, receiveCombination]
  rw [← ReceiverRun.loop_view (run.state.inputs.headD []) 0 _
    { run with state := run.state.emit (.configured run.state.config.params) }]
  cases ReceiverRun.loop settings ldiv0 delay (run.state.inputs.headD []) 0
    ⟨iterationTime settings run.state.firstIteration delay, 1000⟩
    { run with state := run.state.emit (.configured run.state.config.params) } with
  | none => rfl
  | some final => rfl

/-- Observing the run does not change it. -/
theorem observedExperiment_view (state : ReceiverState) :
    (observedExperiment settings ldiv0 delay state).map ReceiverRun.state =
      receiverExperiment settings ldiv0 delay state := by
  rw [receiverExperiment_eq, observedExperiment]
  cases store state.compareData 5 underscore with
  | none => rfl
  | some compareData =>
    refine nest_view ?_ ReceiverRun.combination_view settings.levels 0 _
    intro level index run
    rw [ReceiverRun.enter, Option.map_map]
    exact Option.map_id'

variable (settings ldiv0 delay) (inputs : List (List RecvResult))

/-- The arrivals of window `k`. -/
def windowArrivals (k : Nat) : List (Nat × Nat × Reception) :=
  (heard (iterationTime settings (decide (k = 0)) delay) 0 (inputs.getD k [])).map fun (time, reception) =>
    (k, time, reception)

/-- A packet was handled at its time, in the window it is counted for. -/
structure Handling.Taken (handling : Handling) : Prop where
  handled : handleReception settings ldiv0 delay (1000 + handling.time) handling.reception
    handling.before = some handling.after
  configured : handling.before.reading.configured = handling.iteration + 1
  first : handling.before.firstIteration = decide (handling.iteration = 0)
  iteration : handling.before.iteration = BitVec.ofNat 8 handling.iteration
  tuned : handling.before.configuredParams.getLast? = some handling.before.config.params

/-- Every packet so far was taken, and the trace has only grown since. -/
def ReceiverRun.Sound (run : ReceiverRun) : Prop :=
  ∀ handling ∈ run.handled, handling.Taken settings ldiv0 delay ∧
    ∃ later, run.state.trace = handling.after.trace ++ later

/-- A run inside window `k`, `time` milliseconds after its start. -/
structure ReceiverRun.InWindow (window : Int) (k time : Nat) (timing : Timing) (run : ReceiverRun) :
    Prop where
  sound : run.Sound settings ldiv0 delay
  left : timing.iterationTime = window - time
  millis : timing.millisTotal = 1000 + time
  configured : run.state.reading.configured = k + 1
  first : run.state.firstIteration = decide (k = 0)
  iteration : run.state.iteration = BitVec.ofNat 8 k
  tuned : run.state.configuredParams.getLast? = some run.state.config.params

structure ReceiverRun.Between (run : ReceiverRun) : Prop where
  sound : run.Sound settings ldiv0 delay
  remaining : run.state.inputs = inputs.drop run.state.reading.configured
  arrivals : run.handled.map Handling.arrival =
    (List.range run.state.reading.configured).flatMap (windowArrivals settings delay inputs)
  first : run.state.firstIteration = decide (run.state.reading.configured = 0)
  iteration : run.state.iteration = BitVec.ofNat 8 run.state.reading.configured

variable {settings ldiv0 delay inputs} {run : ReceiverRun} {window : Int}

theorem ReceiverRun.Sound.grow (sound : run.Sound settings ldiv0 delay)
    (grown : next.trace = run.state.trace ++ events) :
    ReceiverRun.Sound settings ldiv0 delay ⟨next, run.handled⟩ := by
  intro handling member
  obtain ⟨taken, later, extended⟩ := sound handling member
  exact ⟨taken, later ++ events, by rw [grown, extended, List.append_assoc]⟩

theorem handleReception_grows
    (handled : handleReception settings ldiv0 delay millisTotal reception state = some next) :
    next.config = state.config ∧ next.configuredParams = state.configuredParams ∧
      ∃ events, next.trace = state.trace ++ events := by
  obtain ⟨data, buffer, record, -, rfl, -⟩ := handleReception_eq handled
  refine ⟨rfl, ?_, ?_⟩
  · rw [← takePacket_configuredParams settings reception state]
    simp [ReceiverState.configuredParams, ReceiverEvent.configured?]
  · simp only [takePacket, List.append_assoc]
    exact ⟨_, rfl⟩

theorem ReceiverRun.round_inWindow {next : ReceiverRun}
    (inWindow : run.InWindow settings ldiv0 delay window k time timing)
    (taken : run.round settings ldiv0 delay result time timing = some (later, next)) :
    next.InWindow settings ldiv0 delay window k (time + result.elapsed) later ∧
      next.handled.map Handling.arrival = run.handled.map Handling.arrival ++
        result.reception.toList.map fun reception => (k, time + result.elapsed, reception) := by
  obtain ⟨⟨timing', state⟩, round, same⟩ := Option.map_eq_some_iff.mp taken
  cases same
  obtain ⟨sound, left, millis, configured, first, iteration, tuned⟩ := inWindow
  have position : run.state.reading.configured - 1 = k := by omega
  refine ⟨?_, by simp [Handling.arrival, position, Function.comp_def]⟩
  cases arrived : result.reception with
  | none =>
    simp only [receiveRound, arrived] at round
    cases round
    refine ⟨?_, ?_, ?_, configured, first, iteration, tuned⟩
    · simpa using sound
    · simp only [left]
      omega
    · simp only [millis]
      omega
  | some reception =>
    simp only [receiveRound, arrived] at round
    obtain ⟨after, handled, same⟩ := Option.bind_eq_some_iff.mp round
    cases same
    obtain ⟨data, bytes, receives, -⟩ := handleReception_record handled
    obtain ⟨config, params, events, grown⟩ := handleReception_grows handled
    have total : timing.millisTotal + result.elapsed = 1000 + (time + result.elapsed : Nat) := by
      rw [millis]
      omega
    have rest : timing.iterationTime - result.elapsed = window - (time + result.elapsed : Nat) := by
      rw [left]
      omega
    refine ⟨?_, rest, total, receives.configured.trans configured, receives.first.trans first,
      receives.iteration.trans iteration, by rw [config, params]; exact tuned⟩
    intro handling member
    rcases List.mem_append.mp member with old | new
    · exact sound.grow grown handling old
    · obtain rfl : handling = _ := by simpa using new
      rw [total] at handled
      rw [position]
      exact ⟨⟨handled, configured, first, iteration, tuned⟩, [], (List.append_nil _).symm⟩

theorem ReceiverRun.loop_inWindow {final : ReceiverRun}
    (inWindow : run.InWindow settings ldiv0 delay window k time timing)
    (taken : ReceiverRun.loop settings ldiv0 delay results time timing run = some (later, final)) :
    (∃ ended, final.InWindow settings ldiv0 delay window k ended later) ∧
      final.handled.map Handling.arrival = run.handled.map Handling.arrival ++
        (heard window time results).map fun (time, reception) => (k, time, reception) := by
  have open' : 0 < timing.iterationTime ↔ time < window := by
    rw [inWindow.left]
    omega
  induction results generalizing time timing run with
  | nil =>
    simp only [ReceiverRun.loop] at taken
    split at taken
    · obtain ⟨ended, grown⟩ := round_inWindow inWindow taken
      exact ⟨⟨_, ended⟩, grown⟩
    · cases taken
      exact ⟨⟨time, inWindow⟩, (List.append_nil _).symm⟩
  | cons result rest ih =>
    simp only [ReceiverRun.loop, heard] at taken ⊢
    split at taken
    · rename_i running
      obtain ⟨⟨between, next⟩, round, others⟩ := Option.bind_eq_some_iff.mp taken
      obtain ⟨moved, grown⟩ := round_inWindow inWindow round
      obtain ⟨ended, arrivals⟩ := ih moved others (by rw [moved.left]; omega)
      refine ⟨ended, ?_⟩
      rw [arrivals, grown, if_pos (open'.mp running)]
      simp [Function.comp_def]
    · rename_i over'
      cases taken
      refine ⟨⟨time, inWindow⟩, ?_⟩
      rw [if_neg fun running => over' (open'.mpr running)]
      simp

theorem ReceiverRun.combination_between {next : ReceiverRun}
    (between : run.Between settings ldiv0 delay inputs)
    (taken : ReceiverRun.combination settings ldiv0 delay run = some next) :
    next.Between settings ldiv0 delay inputs := by
  obtain ⟨⟨later, final⟩, received, same⟩ := Option.bind_eq_some_iff.mp taken
  cases same
  have opened : ReceiverRun.InWindow settings ldiv0 delay
      (iterationTime settings run.state.firstIteration delay) run.state.reading.configured 0
      ⟨iterationTime settings run.state.firstIteration delay, 1000⟩
      { run with state := run.state.emit (.configured run.state.config.params) } := by
    refine ⟨between.sound.grow rfl, by simp, rfl, ?_, between.first, between.iteration, ?_⟩
    · rw [ReceiverState.reading, ReceiverState.emit, readTrace_append]
      rfl
    · simp [ReceiverState.configuredParams, ReceiverState.emit, ReceiverEvent.configured?]
  obtain ⟨⟨ended, inWindow⟩, arrivals⟩ := loop_inWindow opened received
  have configured : final.state.reading.configured = run.state.reading.configured + 1 := inWindow.configured
  have head : run.state.inputs.headD [] = inputs.getD run.state.reading.configured [] := by
    rw [between.remaining, List.headD_eq_head?_getD, List.head?_drop, List.getD_eq_getElem?_getD]
  refine ⟨inWindow.sound, ?_, ?_, ?_, ?_⟩
  · show run.state.inputs.tail = inputs.drop final.state.reading.configured
    rw [between.remaining, configured, List.tail_drop]
  · show final.handled.map Handling.arrival = (List.range final.state.reading.configured).flatMap _
    rw [arrivals, between.arrivals, configured, List.range_succ, List.flatMap_append, head, between.first]
    simp [windowArrivals]
  · show false = decide (final.state.reading.configured = 0)
    simp [configured]
  · show final.state.iteration + 1 = BitVec.ofNat 8 final.state.reading.configured
    rw [inWindow.iteration, configured, BitVec.ofNat_add]
    rfl

/-- The observation of a whole run, from any content of the buffers. -/
theorem observedExperiment_between {state : ReceiverState} (starts : state.Starts)
    (observes : observedExperiment settings ldiv0 delay state = some run) :
    run.Between settings ldiv0 delay state.inputs := by
  rw [observedExperiment] at observes
  obtain ⟨compareData, stored, nested⟩ := Option.bind_eq_some_iff.mp observes
  have opened : ReceiverRun.Between settings ldiv0 delay state.inputs
      ⟨{ state with compareData, config := { state.config with tx := false } }, []⟩ := by
    refine ⟨by simp [ReceiverRun.Sound], ?_, ?_, ?_, ?_⟩ <;>
      simp [ReceiverState.reading, readTrace, starts.fresh, starts.first, starts.iteration]
  refine nest_keeps (ReceiverRun.Between settings ldiv0 delay state.inputs) ?_
    (fun run next taken between => ReceiverRun.combination_between between taken) nested opened
  intro level index run next entered between
  obtain ⟨state, moved, rfl⟩ := Option.map_eq_some_iff.mp entered
  obtain ⟨config, -, rest⟩ := Option.bind_eq_some_iff.mp moved
  obtain ⟨data, -, same⟩ := Option.bind_eq_some_iff.mp rest
  cases same
  exact ⟨between.sound, between.remaining, between.arrivals, between.first, between.iteration⟩

/-- Every packet of a whole run was taken, and the run went on from there. -/
theorem handlings_taken (observed : handlings settings ldiv0 delay config inputs = some handled)
    (member : handling ∈ handled) : handling.Taken settings ldiv0 delay ∧
      ∃ final later, receiverExperiment settings ldiv0 delay (.start config inputs) = some final ∧
        final.trace = handling.after.trace ++ later := by
  obtain ⟨run, observes, rfl⟩ := Option.map_eq_some_iff.mp observed
  have erased : (observedExperiment settings ldiv0 delay (.start config inputs)).map ReceiverRun.state =
      receiverExperiment settings ldiv0 delay (.start config inputs) := observedExperiment_view _
  rw [observes] at erased
  obtain ⟨taken, later, grown⟩ :=
    (observedExperiment_between (.start config inputs) observes).sound handling member
  exact ⟨taken, run.state, later, erased.symm, grown⟩

def Handling.record (handling : Handling) : Option NumberedRecord :=
  handling.after.reading.records.getLast?

variable (settings ldiv0 delay)

/-- What is reported of a packet that is compared with `data`. -/
structure Handling.Reported (handling : Handling) (data : Vector Byte maxTransmLen)
    (record : NumberedRecord) : Prop where
  found : handling.record = some record
  iteration : record.iteration = handling.iteration
  number : record.number =
    msgNumber settings ldiv0 (decide (handling.iteration = 0)) delay (1000 + handling.time)
  reports : record.Reports (BitVec.ofNat 8 handling.iteration)
  flag : record.bytes[9]? = some
    (if (handling.before.beside handling.reception data).sameContent settings then correctFlag else falseFlag)
  front : ∀ position < 9, record.bytes[position]? =
    (overwrite handling.before.transmissionData handling.reception.packet)[position]?

variable {settings ldiv0 delay}

theorem Handling.Taken.reported {handling : Handling} (taken : handling.Taken settings ldiv0 delay) :
    ∃ data record, handling.Reported settings ldiv0 delay data record ∧
      .compared handling.before.config.params record.number data.toList ∈ handling.after.trace := by
  obtain ⟨handled, configured, first, iteration, -⟩ := taken
  obtain ⟨data, bytes, receives, compared, flag, front⟩ := handleReception_record handled
  rw [first] at receives compared
  have position : handling.before.reading.configured - 1 = handling.iteration := by omega
  rw [position] at receives
  obtain ⟨-, reports⟩ := receives.reported _ (List.mem_singleton_self _)
  rw [iteration] at reports
  have last : handling.record = some ⟨handling.iteration,
      msgNumber settings ldiv0 (decide (handling.iteration = 0)) delay (1000 + handling.time), bytes⟩ := by
    rw [Handling.record, receives.records, List.getLast?_append]
    rfl
  exact ⟨data, _, ⟨last, rfl, rfl, reports, flag, front⟩, compared⟩

/-- For a message length of at least eleven the run goes through, whatever is received,
and handles every packet that arrives in a window. -/
theorem handlings_complete (long : 11 ≤ settings.msgLength.toNat) (config : LoraModemConfig)
    (inputs : List (List RecvResult)) :
    ∃ packets, handlings settings ldiv0 delay config inputs = some packets ∧
      packets.map Handling.arrival =
        (List.range settings.combinations.length).flatMap (windowArrivals settings delay inputs) := by
  obtain ⟨final, run, configured, -⟩ :=
    receiverExperiment_spec settings long ldiv0 delay (.start config inputs) rfl
  rw [← observedExperiment_view] at run
  obtain ⟨observed, observes, rfl⟩ := Option.map_eq_some_iff.mp run
  refine ⟨observed.handled, by rw [handlings, observes]; rfl, ?_⟩
  rw [(observedExperiment_between (.start config inputs) observes).arrivals, reading_configured,
    configured, List.length_map]
  rfl

theorem handlings_arrival (long : 11 ≤ settings.msgLength.toNat) (config : LoraModemConfig)
    (inside : k < settings.combinations.length)
    (arrives : (k, time, reception) ∈ windowArrivals settings delay inputs k) :
    ∃ packets handling, handlings settings ldiv0 delay config inputs = some packets ∧
      handling ∈ packets ∧ handling.arrival = (k, time, reception) := by
  obtain ⟨packets, observed, arrivals⟩ :
      ∃ packets, handlings settings ldiv0 delay config inputs = some packets ∧ _ :=
    handlings_complete long config inputs
  have member : (k, time, reception) ∈ packets.map Handling.arrival := by
    rw [arrivals]
    exact List.mem_flatMap.mpr ⟨k, List.mem_range.mpr inside, arrives⟩
  obtain ⟨handling, member, same⟩ := List.mem_map.mp member
  exact ⟨packets, handling, observed, member, same⟩

theorem handlings_first (long : 11 ≤ settings.msgLength.toNat) (selected : settings.combinations ≠ [])
    (ldiv0 : Int → Int) (delay : Nat) (config : LoraModemConfig) (time : Nat) (reception : Reception)
    (rest : List RecvResult) (others : List (List RecvResult)) :
    ∃ packets handling,
      handlings settings ldiv0 delay config ((⟨time, some reception⟩ :: rest) :: others) = some packets ∧
      handling ∈ packets ∧ handling.iteration = 0 ∧ handling.time = time ∧
      handling.reception = reception := by
  have running : 0 < iterationTime settings true delay := by
    have messages := Int.natCast_nonneg (settings.numberOfMessages.toNat * settings.timeBetween.toNat)
    rw [iterationTime]
    omega
  have arrives : (0, time, reception) ∈
      windowArrivals settings delay ((⟨time, some reception⟩ :: rest) :: others) 0 := by
    simp [windowArrivals, heard, running]
  obtain ⟨packets, handling, observed, member, arrival⟩ :
      ∃ packets handling,
        handlings settings ldiv0 delay config ((⟨time, some reception⟩ :: rest) :: others) = some packets ∧
        handling ∈ packets ∧ handling.arrival = (0, time, reception) :=
    handlings_arrival long config (List.length_pos_of_ne_nil selected) arrives
  refine ⟨packets, handling, observed, member, ?_⟩
  simpa [Handling.arrival] using arrival

/-- One packet in the first window of a run with a single combination. -/
theorem handlings_onePacket (seconds : Byte) (time : Nat) (reception : Reception) :
    ∃ packets handling, handlings ⟨50, seconds, 30, 1, 1, 1, 1, 1⟩ (fun _ => 0) 5
        (changeConfig (fun _ => 0) #v[0, 0, 0, 0, 0] false) [[⟨time, some reception⟩]] = some packets ∧
      handling ∈ packets ∧ handling.iteration = 0 ∧ handling.time = time ∧
      handling.reception = reception := by
  -- The combinations do not depend on the seconds.
  have selected : (⟨50, seconds, 30, 1, 1, 1, 1, 1⟩ : Settings).combinations ≠ [] := by
    rw [Settings.combinations, Settings.levels]
    dsimp only
    decide
  exact handlings_first (show 11 ≤ (30 : Byte).toNat by decide) selected _ 5 _ time reception [] []

/-- A packet is handled with the parameters of the combination of its window. -/
theorem Handling.Taken.combination {handling : Handling} {final : ReceiverState}
    (taken : handling.Taken settings ldiv0 delay) (grown : final.trace = handling.after.trace ++ later)
    (configured : final.configuredParams = settings.combinations.map Combination.params) :
    ∃ combination, settings.combinations[handling.iteration]? = some combination ∧
      handling.before.config.params = combination.params := by
  obtain ⟨-, same, -⟩ := handleReception_grows taken.handled
  have front : final.configuredParams =
      handling.before.configuredParams ++ later.filterMap ReceiverEvent.configured? := by
    rw [← same, ReceiverState.configuredParams, ReceiverState.configuredParams, grown, List.filterMap_append]
  have size : handling.before.configuredParams.length = handling.iteration + 1 := by
    rw [← reading_configured, taken.configured]
  have last := taken.tuned
  rw [List.getLast?_eq_getElem?, size, Nat.add_sub_cancel] at last
  have entry : (settings.combinations.map Combination.params)[handling.iteration]? =
      some handling.before.config.params := by
    rw [← configured, front, List.getElem?_append_left (by omega), last]
  rw [List.getElem?_map] at entry
  obtain ⟨combination, found, params⟩ := Option.map_eq_some_iff.mp entry
  exact ⟨combination, found, params.symm⟩

/-- What a packet of a run is compared with is the message of the given number for the
combination of its window. -/
theorem Handling.Taken.compared {handling : Handling} {final : ReceiverState}
    (taken : handling.Taken settings ldiv0 delay) (grown : final.trace = handling.after.trace ++ later)
    (configured : final.configuredParams = settings.combinations.map Combination.params)
    (expected : ∀ event ∈ final.trace, event.Expected settings)
    (compared : .compared handling.before.config.params n data ∈ handling.after.trace) :
    ∃ combination, settings.combinations[handling.iteration]? = some combination ∧
      handling.before.config.params = combination.params ∧
      data.take settings.msgLength.toNat = message combination settings.msgLength.toNat n := by
  obtain ⟨combination, found, params⟩ := taken.combination grown configured
  have event : .compared handling.before.config.params n data ∈ final.trace := by
    rw [grown]
    exact List.mem_append_left later compared
  obtain ⟨other, member', params', content⟩ := expected _ event
  have valid := combination_valid settings (List.mem_of_getElem? found)
  have valid' := combination_valid settings member'
  obtain rfl := Combination.params_injective valid.frequency valid'.frequency (params.symm.trans params')
  exact ⟨combination, found, params, content⟩

theorem handlings_compared (long : 11 ≤ settings.msgLength.toNat)
    (observed : handlings settings ldiv0 delay config inputs = some packets)
    (member : handling ∈ packets)
    (compared : .compared handling.before.config.params n data ∈ handling.after.trace) :
    ∃ combination, settings.combinations[handling.iteration]? = some combination ∧
      data.take settings.msgLength.toNat = message combination settings.msgLength.toNat n := by
  obtain ⟨taken, final, later, run, grown⟩ := handlings_taken observed member
  obtain ⟨same, run', configured, expected⟩ :=
    receiverExperiment_spec settings long ldiv0 delay (.start config inputs) rfl
  obtain rfl : final = same := Option.some.inj (run.symm.trans run')
  obtain ⟨combination, found, -, content⟩ := taken.compared grown configured expected compared
  exact ⟨combination, found, content⟩

/-- A packet that arrives in the window of a combination is compared, from any content of
the buffers, with the combination's message of the computed number. -/
theorem receiverExperiment_compares (long : 11 ≤ settings.msgLength.toNat) {state final : ReceiverState}
    (starts : state.Starts) (run : receiverExperiment settings ldiv0 delay state = some final)
    (found : settings.combinations[k]? = some combination)
    (arrives : (k, time, reception) ∈ windowArrivals settings delay state.inputs k) :
    ∃ data, .compared combination.params
        (msgNumber settings ldiv0 (decide (k = 0)) delay (1000 + time)) data ∈ final.trace ∧
      data.take settings.msgLength.toNat = message combination settings.msgLength.toNat
        (msgNumber settings ldiv0 (decide (k = 0)) delay (1000 + time)) := by
  obtain ⟨same, run', configured, expected⟩ :=
    receiverExperiment_spec settings long ldiv0 delay state starts.fresh
  obtain rfl : final = same := Option.some.inj (run.symm.trans run')
  rw [← observedExperiment_view] at run
  obtain ⟨observed, observes, rfl⟩ := Option.map_eq_some_iff.mp run
  have between := observedExperiment_between starts observes
  have arrival : (k, time, reception) ∈ observed.handled.map Handling.arrival := by
    rw [between.arrivals, reading_configured, configured, List.length_map]
    exact List.mem_flatMap.mpr
      ⟨k, List.mem_range.mpr (List.getElem?_eq_some_iff.mp found).1, arrives⟩
  obtain ⟨handling, member, same⟩ := List.mem_map.mp arrival
  simp only [Handling.arrival, Prod.mk.injEq] at same
  obtain ⟨rfl, rfl, -⟩ := same
  obtain ⟨taken, later, grown⟩ := between.sound handling member
  obtain ⟨data, record, reported, compared⟩ := taken.reported
  obtain ⟨other, found', params, content⟩ := taken.compared grown configured expected compared
  obtain rfl : combination = other := Option.some.inj (found.symm.trans found')
  rw [params, reported.number] at compared
  rw [reported.number] at content
  refine ⟨data.toList, ?_, content⟩
  rw [grown]
  exact List.mem_append_left later compared

/-- Every packet of a run is compared with the message of its computed number for the
combination of its window, and reported with that number. -/
theorem handlings_reported (long : 11 ≤ settings.msgLength.toNat)
    (observed : handlings settings ldiv0 delay config inputs = some packets)
    (member : handling ∈ packets) : ∃ data record combination,
      handling.Reported settings ldiv0 delay data record ∧
      settings.combinations[handling.iteration]? = some combination ∧
      data.toList.take settings.msgLength.toNat =
        message combination settings.msgLength.toNat record.number := by
  obtain ⟨data, record, reported, compared⟩ := (handlings_taken observed member).1.reported
  obtain ⟨combination, found, content⟩ := handlings_compared long observed member compared
  exact ⟨data, record, combination, reported, found, content⟩

end

end LoraEval.Firmware

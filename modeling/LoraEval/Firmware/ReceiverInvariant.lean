import LoraEval.Firmware.ReceiverReports

namespace LoraEval.Firmware

open LoraEval.Core

def ReceiverEvent.configured? : ReceiverEvent → Option RadioParams
  | .configured params => some params
  | _ => none

def ReceiverState.configuredParams (state : ReceiverState) : List RadioParams :=
  state.trace.filterMap ReceiverEvent.configured?

/-- What a run of the loops may do: compare with messages of selected
combinations, notify well-formed records, and divide by zero only if the phone
asked for no time between messages. -/
def ReceiverEvent.Expected (settings : Settings) : ReceiverEvent → Prop
  | .configured _ => True
  | .compared params n compareData => ∃ combination ∈ settings.combinations,
      params = combination.params ∧ compareData.take settings.msgLength.toNat =
        message combination settings.msgLength.toNat n
  | .notified bytes => ∃ notification : Notification, bytes = notification.bytes
  | .dividedByZero => settings.timeBetween = 0

/-- The state of the loops after entering the levels of a path. -/
structure ReceiverState.On (settings : Settings) (path : List Nat) (state : ReceiverState) : Prop where
  entered : Entered path state.config state.compareData
  expected : ∀ event ∈ state.trace, event.Expected settings

theorem ReceiverState.On.append {state : ReceiverState} (on : state.On settings path)
    (next : ReceiverState) (entered : Entered path next.config next.compareData)
    (events : List ReceiverEvent) (grown : next.trace = state.trace ++ events)
    (fine : ∀ event ∈ events, event.Expected settings) : next.On settings path := by
  refine ⟨entered, ?_⟩
  intro event member
  rw [grown, List.mem_append] at member
  rcases member with old | new
  · exact on.expected event old
  · exact fine event new

section

variable {settings : Settings} {path : List Nat} (member : path ∈ paths settings.levels)
  (long : 11 ≤ settings.msgLength.toNat)

include member long in
/-- Whatever the buffer held behind the header, the expected message replaces it. -/
theorem expectMessage_eq (n : Nat) {state : ReceiverState}
    (entered : Entered path state.config state.compareData) :
    ∃ data : Vector Byte maxTransmLen,
      expectMessage settings n state =
        some ({ state with compareData := data }.emit (.compared state.config.params n data.toList)) ∧
      Entered path state.config data ∧ data.toList.take settings.msgLength.toNat =
        message (Combination.ofPath path) settings.msgLength.toNat n := by
  have full : path.length = 5 := (path_valid settings member).1
  have short := msgLength_fits settings
  obtain ⟨hundreds, tens, ones, payload, final, stored₆, stored₇, stored₈, filled, stored, kept,
    content⟩ := entered.complete full long short n
  simp only [hundredsByte, tensByte, onesByte, payloadIndex] at stored₆ stored₇ stored₈ filled
  refine ⟨final, ?_, kept, ?_⟩
  · simp [expectMessage, stored₆, stored₇, stored₈, filled, stored,
      show settings.msgLength.toNat ≠ 0 by omega]
  · apply eq_message (by simp [short])
    intro position inside
    rw [List.getElem?_take_of_lt inside, Vector.getElem?_toList]
    exact content position inside

include member long in
theorem expectMessage_spec (n : Nat) {state : ReceiverState} (on : state.On settings path) :
    ∃ next, expectMessage settings n state = some next ∧ next.On settings path ∧
      next.configuredParams = state.configuredParams := by
  have params : state.config.params = (Combination.ofPath path).params :=
    LoraModemConfig.params_eq (path_valid settings member).1 on.entered.params
  obtain ⟨data, built, entered, content⟩ := expectMessage_eq member long n on.entered
  refine ⟨_, built, on.append _ entered [.compared state.config.params n data.toList] rfl ?_, ?_⟩
  · intro event found
    rw [List.mem_singleton.mp found]
    exact ⟨Combination.ofPath path, List.mem_map_of_mem member, params, content⟩
  · simp [ReceiverState.configuredParams, ReceiverState.emit, ReceiverEvent.configured?]

end

theorem takePacket_configuredParams (settings : Settings) (reception : Reception) (state : ReceiverState) :
    (takePacket settings reception state).configuredParams = state.configuredParams := by
  rw [ReceiverState.configuredParams, takePacket, List.filterMap_append]
  split <;> exact List.append_nil _

theorem takePacket_spec (reception : Reception) {state : ReceiverState} (on : state.On settings path) :
    (takePacket settings reception state).On settings path := by
  refine on.append (takePacket settings reception state) on.entered _ rfl ?_
  intro event found
  split at found
  · rename_i instant
    rw [List.mem_singleton.mp found]
    exact instant
  · simp at found

theorem reportReception_spec (n : Nat) (reception : Reception) {state : ReceiverState}
    (on : state.On settings path) :
    ∃ next, reportReception settings n reception state = some next ∧ next.On settings path ∧
      next.configuredParams = state.configuredParams := by
  obtain ⟨buffer, record, reported, -⟩ := reportReception_eq settings n reception state
  refine ⟨_, reported, on.append _ on.entered _ rfl ?_, ?_⟩
  · intro event found
    simp only [List.mem_cons, List.not_mem_nil, or_false] at found
    rcases found with rfl | rfl
    · exact ⟨_, rfl⟩
    · exact ⟨_, rfl⟩
  · simp [ReceiverState.configuredParams, ReceiverEvent.configured?]

section

variable {settings : Settings} {path : List Nat} (ldiv0 : Int → Int) (delay : Nat)
  (member : path ∈ paths settings.levels) (long : 11 ≤ settings.msgLength.toNat)

include member long in
theorem handleReception_spec (millisTotal : Int) (reception : Reception) {state : ReceiverState}
    (on : state.On settings path) :
    ∃ next, handleReception settings ldiv0 delay millisTotal reception state = some next ∧
      next.On settings path ∧ next.configuredParams = state.configuredParams := by
  obtain ⟨next, built, nextOn, nextParams⟩ := expectMessage_spec member long
    (msgNumber settings ldiv0 state.firstIteration delay millisTotal) (takePacket_spec reception on)
  obtain ⟨final, reported, finalOn, finalParams⟩ := reportReception_spec
    (msgNumber settings ldiv0 state.firstIteration delay millisTotal) reception nextOn
  exact ⟨final, by simp [handleReception, built, reported], finalOn,
    finalParams.trans (nextParams.trans (takePacket_configuredParams settings reception state))⟩

include member long in
theorem receiveRound_spec (result : RecvResult) (timing : Timing) {state : ReceiverState}
    (on : state.On settings path) :
    ∃ later next, receiveRound settings ldiv0 delay result timing state = some (later, next) ∧
      next.On settings path ∧ next.configuredParams = state.configuredParams := by
  cases arrived : result.reception with
  | none => exact ⟨_, state, by simp only [receiveRound, arrived]; rfl, on, rfl⟩
  | some reception =>
    obtain ⟨next, handled, nextOn, same⟩ := handleReception_spec ldiv0 delay member long
      (timing.millisTotal + result.elapsed) reception on
    exact ⟨_, next, by simp only [receiveRound, arrived, handled]; rfl, nextOn, same⟩

include member long in
/-- The reception loop ends for every input and keeps the invariant. -/
theorem receiveLoop_spec (inputs : List RecvResult) (timing : Timing) {state : ReceiverState}
    (on : state.On settings path) :
    ∃ later next, receiveLoop settings ldiv0 delay inputs timing state = some (later, next) ∧
      next.On settings path ∧ next.configuredParams = state.configuredParams := by
  induction inputs generalizing timing state with
  | nil =>
    by_cases left : 0 < timing.iterationTime
    · simpa [receiveLoop, left] using receiveRound_spec ldiv0 delay member long
        ⟨timing.iterationTime.toNat, none⟩ timing on
    · exact ⟨timing, state, by simp [receiveLoop, left], on, rfl⟩
  | cons result rest ih =>
    by_cases left : 0 < timing.iterationTime
    · obtain ⟨later, next, round, nextOn, same⟩ :=
        receiveRound_spec ldiv0 delay member long result timing on
      obtain ⟨last, final, run, finalOn, final_same⟩ := ih later nextOn
      exact ⟨last, final, by simp [receiveLoop, left, round, run], finalOn, final_same.trans same⟩
    · exact ⟨timing, state, by simp [receiveLoop, left], on, rfl⟩

include member long in
theorem receiveCombination_emits :
    Emits ReceiverState.configuredParams (ReceiverState.On settings path)
      (receiveCombination settings ldiv0 delay) [(Combination.ofPath path).params]
      (ReceiverState.On settings path) := by
  intro state on
  have full : path.length = 5 := (path_valid settings member).1
  have params : state.config.params = (Combination.ofPath path).params :=
    LoraModemConfig.params_eq full on.entered.params
  have configuredOn : (state.emit (.configured state.config.params)).On settings path := by
    refine on.append _ on.entered [.configured state.config.params] rfl ?_
    intro event found
    rw [List.mem_singleton.mp found]
    trivial
  obtain ⟨later, final, run, finalOn, same⟩ := receiveLoop_spec ldiv0 delay member long
    (state.inputs.headD []) ⟨iterationTime settings state.firstIteration delay, 1000⟩ configuredOn
  refine ⟨{ final with
      firstIteration := false, iteration := final.iteration + 1, inputs := state.inputs.tail },
    ?_, ⟨finalOn.entered, finalOn.expected⟩, ?_⟩
  · simp only [receiveCombination, run]
    rfl
  · show final.configuredParams = _
    rw [same, ← params]
    simp [ReceiverState.configuredParams, ReceiverState.emit, ReceiverEvent.configured?]

end

theorem receiver_nestInvariant (settings : Settings) :
    NestInvariant ReceiverState.configuredParams (ReceiverState.On settings)
      (fun level index (state : ReceiverState) => state.enter level index) settings.levels 0 := by
  refine ⟨?_, fun path index state on => ⟨on.entered.shorten, on.expected⟩⟩
  intro offset level found index member _ path length state on
  obtain ⟨known, inside⟩ := levels_bound settings found member
  rw [Nat.zero_add] at length ⊢
  obtain ⟨next, bytes, assigned, stored, entered, -⟩ :=
    on.entered.extend length known inside (by decide)
  exact ⟨{ state with config := next, compareData := bytes },
    by simp [ReceiverState.enter, assigned, stored], ⟨entered, on.expected⟩,
    by simp [ReceiverState.configuredParams]⟩

/-- The explicit nest of the source is the nest over the five levels. -/
theorem receiverExperiment_eq (settings : Settings) (ldiv0 : Int → Int) (delay : Nat)
    (state : ReceiverState) :
    receiverExperiment settings ldiv0 delay state = (do
      let compareData ← store state.compareData 5 underscore
      nest ReceiverState.enter (receiveCombination settings ldiv0 delay) settings.levels 0
        { state with compareData, config := { state.config with tx := false } }) := rfl

/-- The whole run: no access outside a buffer, every selected combination
configured in loop order, and only expected events, whatever is received. -/
theorem receiverExperiment_spec (settings : Settings) (long : 11 ≤ settings.msgLength.toNat)
    (ldiv0 : Int → Int) (delay : Nat) (state : ReceiverState) (fresh : state.trace = []) :
    ∃ final, receiverExperiment settings ldiv0 delay state = some final ∧
      final.configuredParams = settings.combinations.map Combination.params ∧
      ∀ event ∈ final.trace, event.Expected settings := by
  obtain ⟨bytes, stored, written, -⟩ :=
    store_spec state.compareData underscore (show 5 < maxTransmLen by decide)
  have run := Emits.nest (fun path => [(Combination.ofPath path).params])
    (receiver_nestInvariant settings) [] rfl
    (fun path member => receiveCombination_emits ldiv0 delay member long)
  obtain ⟨final, result, on, output⟩ := run
    { state with compareData := bytes, config := { state.config with tx := false } }
    ⟨⟨written, by simp [Along], by simp [Along]⟩, by simp [fresh]⟩
  refine ⟨final, ?_, ?_, on.expected⟩
  · rw [receiverExperiment_eq]
    simpa [stored] using result
  · rw [output]
    simp [ReceiverState.configuredParams, fresh, Settings.combinations, ← List.map_eq_flatMap]

end LoraEval.Firmware

import LoraEval.Firmware.Sender

namespace LoraEval.Firmware

open LoraEval.Core

/-- The events of message `n` of a combination. -/
def messageTrace (settings : Settings) (combination : Combination) (n : Nat) : List SenderEvent :=
  [.sent combination.params n (message combination settings.msgLength.toNat n),
    .slept (messageSleep settings combination.params n)]

def combinationTrace (settings : Settings) (combination : Combination) : List SenderEvent :=
  [.configured combination.params, .slept (iterationSleep settings combination.params)] ++
    (List.range settings.numberOfMessages.toNat).flatMap (messageTrace settings combination)

def SenderState.On (path : List Nat) (state : SenderState size) : Prop :=
  Entered path state.config state.transmissionData

theorem sendMessage_emits (settings : Settings) (full : path.length = 5)
    (long : 11 ≤ settings.msgLength.toNat) (n : Nat) :
    Emits SenderState.trace (SenderState.On path) (sendMessage settings n)
      (messageTrace settings (Combination.ofPath path) n) (SenderState.On path) := by
  intro state entered
  have params : state.config.params = (Combination.ofPath path).params :=
    LoraModemConfig.params_eq full entered.params
  obtain ⟨hundreds, tens, ones, payload, final, stored₆, stored₇, stored₈, filled, stored, on,
    content⟩ := entered.complete full long (Nat.le_refl _) n
  have bytes : final.toList = message (Combination.ofPath path) settings.msgLength.toNat n := by
    apply eq_message (by simp)
    intro position inside
    simpa using content position inside
  refine ⟨⟨state.config, final, state.trace ++ messageTrace settings (Combination.ofPath path) n⟩,
    ?_, on, rfl⟩
  simp only [hundredsByte, tensByte, onesByte, payloadIndex] at stored₆ stored₇ stored₈ filled
  simp [sendMessage, SenderState.write, SenderState.emit, stored₆, stored₇, stored₈, filled, stored,
    messageTrace, params, bytes]

theorem sendCombination_emits (settings : Settings) (full : path.length = 5)
    (long : 11 ≤ settings.msgLength.toNat) :
    Emits SenderState.trace (SenderState.On path) (sendCombination settings)
      (combinationTrace settings (Combination.ofPath path)) (SenderState.On path) := by
  have messages : Emits SenderState.trace (SenderState.On path)
      (forEach (List.range settings.numberOfMessages.toNat) (sendMessage settings))
      ((List.range settings.numberOfMessages.toNat).flatMap
        (messageTrace settings (Combination.ofPath path))) (SenderState.On path) :=
    Emits.forEach fun n _ => sendMessage_emits settings full long n
  intro state entered
  have params : state.config.params = (Combination.ofPath path).params :=
    LoraModemConfig.params_eq full entered.params
  obtain ⟨final, run, on, output⟩ := messages
    ((state.emit (.configured state.config.params)).emit
      (.slept (iterationSleep settings state.config.params))) entered
  refine ⟨final, run, on, ?_⟩
  rw [output]
  simp [SenderState.emit, combinationTrace, params]

theorem SenderState.enter_emits (entersAt : path.length = level) (known : level < 5)
    (inside : index < 8) (room : 5 < size) :
    Emits SenderState.trace (SenderState.On path)
      (fun state : SenderState size => state.enter level index) [] (SenderState.On (path ++ [index])) := by
  intro state entered
  obtain ⟨next, bytes, assigned, stored, on, -⟩ := Entered.extend entered entersAt known inside room
  exact ⟨⟨next, bytes, state.trace⟩, by simp [SenderState.enter, SenderState.write, assigned, stored],
    on, by simp⟩

theorem sender_nestInvariant (settings : Settings) (long : 11 ≤ settings.msgLength.toNat) :
    NestInvariant SenderState.trace SenderState.On
      (fun level index (state : SenderState settings.msgLength.toNat) => state.enter level index)
      settings.levels 0 := by
  refine ⟨?_, fun path index state entered => entered.shorten⟩
  intro offset level found index member _ path length
  obtain ⟨known, inside⟩ := levels_bound settings found member
  exact SenderState.enter_emits (by omega) (by omega) inside (by omega)

/-- The explicit nest of the source is the nest over the five levels. -/
theorem senderExperiment_eq (settings : Settings) (state : SenderState settings.msgLength.toNat) :
    senderExperiment settings state = (do
      let state ← state.write 5 underscore
      nest SenderState.enter (sendCombination settings) settings.levels 0
        { state with config := { state.config with tx := true } }) := rfl

/-- The whole run: no access outside the buffer, and the trace of every selected
combination in loop order, from any initial buffer. -/
theorem senderExperiment_trace (settings : Settings) (long : 11 ≤ settings.msgLength.toNat)
    (state : SenderState settings.msgLength.toNat) :
    ∃ final, senderExperiment settings state = some final ∧
      final.trace = state.trace ++ settings.combinations.flatMap (combinationTrace settings) := by
  obtain ⟨bytes, stored, written, -⟩ :=
    store_spec state.transmissionData underscore (show 5 < settings.msgLength.toNat by omega)
  have run := Emits.nest (fun path => combinationTrace settings (Combination.ofPath path))
    (sender_nestInvariant settings long) [] rfl
    (fun path member => sendCombination_emits settings (path_valid settings member).1 long)
  obtain ⟨final, result, -, output⟩ := run
    ⟨{ state.config with tx := true }, bytes, state.trace⟩ ⟨written, by simp [Along], by simp [Along]⟩
  refine ⟨final, ?_, ?_⟩
  · rw [senderExperiment_eq]
    simpa [SenderState.write, stored] using result
  · rw [output, Settings.combinations, List.flatMap_map]
    rfl

def SenderEvent.configured? : SenderEvent → Option RadioParams
  | .configured params => some params
  | _ => none

def SenderState.configuredParams (state : SenderState size) : List RadioParams :=
  state.trace.filterMap SenderEvent.configured?

private theorem combinationTrace_configured (settings : Settings) (combination : Combination) :
    (combinationTrace settings combination).filterMap SenderEvent.configured? =
      [combination.params] := by
  have silent : ∀ numbers : List Nat, (numbers.flatMap (messageTrace settings combination)).filterMap
      SenderEvent.configured? = [] := by
    intro numbers
    induction numbers with
    | nil => rfl
    | cons n rest ih =>
      rw [List.flatMap_cons, List.filterMap_append, ih]
      rfl
  rw [combinationTrace, List.filterMap_append, silent]
  rfl

/-- A sender configures every selected combination once, in loop order. -/
theorem senderExperiment_configured (settings : Settings) (long : 11 ≤ settings.msgLength.toNat)
    (state : SenderState settings.msgLength.toNat) :
    ∃ final, senderExperiment settings state = some final ∧ final.configuredParams =
      state.configuredParams ++ settings.combinations.map Combination.params := by
  obtain ⟨final, run, output⟩ := senderExperiment_trace settings long state
  refine ⟨final, run, ?_⟩
  rw [SenderState.configuredParams, output, List.filterMap_append, List.filterMap_flatMap,
    List.map_eq_flatMap]
  simp only [combinationTrace_configured]
  rfl

end LoraEval.Firmware

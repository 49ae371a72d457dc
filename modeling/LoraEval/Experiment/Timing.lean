import LoraEval.Experiment.Enumeration
import LoraEval.Firmware.ReceiverTiming

/-! Do sender and receiver stay on the same combination? They start together and
never synchronise again: the sender sums up sleeps and times on air, the receiver
waits for a fixed window. -/

namespace LoraEval.Experiment

open LoraEval.Core LoraEval.App LoraEval.Firmware

/-- The item a schedule of items and durations is at after some time. -/
def activeAt : List (α × Nat) → Nat → Option α
  | [], _ => none
  | (item, duration) :: rest, time => if time < duration then some item else activeAt rest (time - duration)

/-- Both devices spend the same time on each combination, and are on the same one
at every moment after a common start. -/
structure InStep (settings : Settings) (sent : List SenderEvent) (configured : List RadioParams) : Prop where
  durations : ∀ segment ∈ (timeline sent).2, segment.2 = window settings
  moments : ∀ time, activeAt (timeline sent).2 time =
    activeAt (configured.map fun params => (params, window settings)) time

theorem SettingsOf.transmittable (of : SettingsOf form settings) (accepted : Accepted form)
    (member : combination ∈ settings.combinations) :
    Transmittable settings.msgLength.toNat combination.params := by
  obtain ⟨path, within, rfl⟩ := List.mem_map.mp member
  rw [of.paths, choices, mem_product] at within
  have position (configs : List Bool) (index : Nat) (found : index ∈ checked configs) :
      index < configs.length := (List.getElem?_eq_some_iff.mp (mem_checked.mp found)).1
  obtain ⟨length, measured, least⟩ := accepted.length
  obtain ⟨same, parsed, -, high, -⟩ := Java.parseByte_eq_ok.mp of.length
  have unique : length = same := Except.ok.inj (measured.symm.trans parsed)
  have long := of.long accepted
  have short : settings.msgLength.toNat ≤ 127 := by
    have read := (Java.toNat_of_parseByte of.length measured).mpr (by omega)
    omega
  simp only [CheckBoxes.lists, List.map_cons, List.map_nil] at within
  rcases within with _ | ⟨-, _ | ⟨second, _ | ⟨third, _ | ⟨fourth, _⟩⟩⟩⟩
  have bandwidth := position _ _ second
  have factor := position _ _ third
  have rate := position _ _ fourth
  simp only [Vector.length_toList] at bandwidth factor rate
  refine ⟨long, short, ?_, ?_, ?_, ?_, ?_⟩ <;> simp only [Combination.params, Combination.ofPath,
    List.getD_cons_zero, List.getD_cons_succ] <;> omega

theorem SettingsOf.sends (of : SettingsOf form settings) (accepted : Accepted form) :
    1 ≤ settings.numberOfMessages.toNat := by
  obtain ⟨number, parsed, one, -⟩ := accepted.messages
  have read := (Java.toNat_of_parseByte of.messages parsed).mpr (by omega)
  omega

/-- The runs of both devices with the settings of an accepted form. -/
theorem SettingsOf.inStep_iff (of : SettingsOf form settings) (accepted : Accepted form) (ldiv0 : Int → Int)
    (delay : Nat) (sender : SenderState settings.msgLength.toNat) (quiet : sender.trace = [])
    (receiver : ReceiverState) (fresh : receiver.trace = []) :
    ∃ sent received, senderExperiment settings sender = some sent ∧
      receiverExperiment settings ldiv0 delay receiver = some received ∧
      (receiver.Punctual settings delay → receiverWindows settings ldiv0 delay receiver = some
        ((List.range received.configuredParams.length).map
          (windowTime settings delay receiver.firstIteration))) ∧
      (InStep settings sent.trace received.configuredParams ↔
        ∀ combination ∈ settings.combinations, KeepsTime settings combination.params) := by
  have lasts (combination : Combination) (member : combination ∈ settings.combinations) :=
    duration_eq_window_iff (of.transmittable accepted member) (of.sends accepted)
  obtain ⟨sent, transmitted, output⟩ := senderExperiment_trace settings (of.long accepted) sender
  obtain ⟨received, run, configured, -⟩ :=
    receiverExperiment_spec settings (of.long accepted) ldiv0 delay receiver fresh
  rw [quiet, List.nil_append] at output
  refine ⟨sent, received, transmitted, run, fun punctual => receiverWindows_eq punctual fresh run, ?_⟩
  rw [output, configured]
  constructor
  · intro inStep combination member
    apply (lasts combination member).mp
    apply inStep.durations (combination.params, _)
    rw [timeline_combinations]
    exact List.mem_map_of_mem member
  · intro keeps
    have durations : (timeline (settings.combinations.flatMap (combinationTrace settings))).2 =
        (settings.combinations.map Combination.params).map fun params => (params, window settings) := by
      rw [timeline_combinations, List.map_map]
      apply List.map_congr_left
      intro combination member
      rw [(lasts combination member).mpr (keeps combination member)]
      rfl
    refine ⟨?_, fun time => by rw [durations]⟩
    intro segment member
    rw [durations] at member
    obtain ⟨params, -, rfl⟩ := List.mem_map.mp member
    rfl

/-- A receiver whose radio calls return in time spends its window on every
combination; sender and receiver then stay in step exactly if every selected
combination keeps time: seventeen blocks at coding rate 4/8, not too slow, and a
second or more between messages. -/
theorem stays_in_step_iff (stored : experimentReady form rowId = .ok (.stored entry))
    (encoded : createSettingsBytes entry total = .ok bytes)
    (read : Settings.ofBytes bytes = some settings) (ldiv0 : Int → Int) (delay : Nat)
    (sender : SenderState settings.msgLength.toNat) (quiet : sender.trace = [])
    (receiver : ReceiverState) (fresh : receiver.trace = []) :
    ∃ sent received, senderExperiment settings sender = some sent ∧
      receiverExperiment settings ldiv0 delay receiver = some received ∧
      (receiver.Punctual settings delay → receiverWindows settings ldiv0 delay receiver = some
        ((List.range received.configuredParams.length).map
          (windowTime settings delay receiver.firstIteration))) ∧
      (InStep settings sent.trace received.configuredParams ↔
        ∀ combination ∈ settings.combinations, KeepsTime settings combination.params) := by
  obtain ⟨accepted, rfl⟩ := (experimentReady_eq_stored rowId).mp stored
  obtain ⟨same, read', of⟩ := settings_of_encoded encoded
  obtain rfl : settings = same := Option.some.inj (read.symm.trans read')
  exact of.inStep_iff accepted ldiv0 delay sender quiet receiver fresh

def idleSender (size : Nat) : SenderState size :=
  ⟨changeConfig (fun _ => 0) #v[0, 0, 0, 0, 0] false, Vector.replicate size 0, []⟩

def idleReceiver : ReceiverState := .start (changeConfig (fun _ => 0) #v[0, 0, 0, 0, 0] false) []

/-- Messages of 55 bytes every four seconds at spreading factor 7 and coding rate 4/8. -/
def wholeForm : Form :=
  { sampleForm "50" "4" with
    msgLength := "55"
    boxes := { firstBoxes with codingRates := #v[false, false, false, true] } }

def wholeSettings : Settings := ⟨50, 4, 55, 1, 1, 1, 8, 1⟩

theorem stays_in_step_whole :
    experimentReady wholeForm 1 = .ok (.stored (wholeForm.record 1)) ∧
      createSettingsBytes (wholeForm.record 1) 5000 = .ok (wholeForm.header 50 4 55 ++ delayBytes 5000) ∧
      Settings.ofBytes (wholeForm.header 50 4 55 ++ delayBytes 5000) = some wholeSettings ∧
      ∃ sent received, senderExperiment wholeSettings (idleSender 55) = some sent ∧
        receiverExperiment wholeSettings (fun _ => 0) 5 idleReceiver = some received ∧
        receiverWindows wholeSettings (fun _ => 0) 5 idleReceiver = some [210000] ∧
        InStep wholeSettings sent.trace received.configuredParams := by
  have stored : experimentReady wholeForm 1 = .ok (.stored (wholeForm.record 1)) :=
    sampleForm_with_stored (show Java.parseInt "50" = .ok 50 by decide) (by decide) (by decide) (by decide)
      (show Java.parseInt "55" = .ok 55 by decide) (by decide) _ (by decide) 1
  have encoded := (createSettingsBytes_record_eq_ok wholeForm 1 5000).mpr
    ⟨50, 4, 55, by decide, by decide, by decide, rfl⟩
  have read : Settings.ofBytes (wholeForm.header 50 4 55 ++ delayBytes 5000) = some wholeSettings := by
    decide
  obtain ⟨sent, received, transmitted, run, windows, inStep⟩ :=
    stays_in_step_iff stored encoded read (fun _ => 0) 5 (idleSender 55) rfl idleReceiver rfl
  obtain ⟨same, run', configured, -⟩ :=
    receiverExperiment_spec wholeSettings (by decide) (fun _ => 0) 5 idleReceiver rfl
  obtain rfl : received = same := Option.some.inj (run.symm.trans run')
  refine ⟨stored, encoded, read, sent, received, transmitted, run, ?_, inStep.mpr ?_⟩
  · rw [windows fun _ => trivial, configured, List.length_map]
    decide
  · decide

def slowForm : Form :=
  { sampleForm "50" "1" with
    boxes := { firstBoxes with spreadingFactors := #v[false, false, false, false, false, true] } }

def slowSettings : Settings := ⟨50, 1, 30, 1, 1, 32, 1, 1⟩

theorem slowForm_out_of_step :
    experimentReady slowForm 1 = .ok (.stored (slowForm.record 1)) ∧
      createSettingsBytes (slowForm.record 1) 5000 = .ok (slowForm.header 50 1 30 ++ delayBytes 5000) ∧
      Settings.ofBytes (slowForm.header 50 1 30 ++ delayBytes 5000) = some slowSettings ∧
      ∃ sent received, senderExperiment slowSettings (idleSender 30) = some sent ∧
        receiverExperiment slowSettings (fun _ => 0) 5 idleReceiver = some received ∧
        ¬ InStep slowSettings sent.trace received.configuredParams := by
  have stored : experimentReady slowForm 1 = .ok (.stored (slowForm.record 1)) :=
    sampleForm_with_stored (show Java.parseInt "50" = .ok 50 by decide) (by decide) (by decide) (by decide)
      (show Java.parseInt "30" = .ok 30 by decide) (by decide) _ (by decide) 1
  have encoded := (createSettingsBytes_record_eq_ok slowForm 1 5000).mpr
    ⟨50, 1, 30, by decide, by decide, by decide, rfl⟩
  obtain ⟨accepted, -⟩ := (experimentReady_eq_stored 1).mp stored
  obtain ⟨settings, read, of⟩ := settings_of_encoded encoded
  obtain rfl : slowSettings = settings := by
    apply Option.some.inj
    rw [← read]
    decide
  obtain ⟨sent, received, transmitted, run, -, inStep⟩ :=
    of.inStep_iff accepted (fun _ => 0) 5 (idleSender 30) rfl idleReceiver rfl
  refine ⟨stored, encoded, read, sent, received, transmitted, run, fun keeps => ?_⟩
  have kept := inStep.mp keeps
  revert kept
  decide

end LoraEval.Experiment

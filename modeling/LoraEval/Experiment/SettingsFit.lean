import LoraEval.Experiment.Start
import LoraEval.Firmware.ReceiverConfig

namespace LoraEval.Experiment

open LoraEval.Core LoraEval.App LoraEval.Firmware

/-- The callback of the receiver starts an experiment with the settings, whatever
`experiment_data` and the new `exp_data` held. -/
structure ReceiverTakes (outside : Nat → Nat) (settings : List Byte) : Prop where
  started : ∀ board, experimentSettingsCb outside settings board =
    some ⟨{ board with thread0 := false, thread1 := .asking }, none⟩
  copied : ∀ (experimentData : Vector Byte experimentDataLen) (expData : Vector Byte settings.length),
    ∃ stored sent, copySettings settings experimentData = some stored ∧
      stored.toList.take settings.length = settings ∧ copyExpData stored expData = some sent ∧
      sent.toList = settings

/-- A sender that hears the settings has them at the front of its buffer, and so has every
acknowledgement it sends for them. -/
structure SenderHolds (settings : List Byte) (sender : SenderSide) : Prop where
  buffer : (sender.receive settings).data.toList.take settings.length = settings
  acknowledges : (sender.receive settings).phase = .acknowledging ↔
    sender.phase = .listening ∨ settings[0]? ≠ some pingByte
  echo : (sender.receive settings).phase = .acknowledging →
    ∃ ack next, (sender.receive settings).reply = some (ack, next) ∧ ack.length = maxDataLen ∧
      ack.take settings.length = settings

theorem receiverTakes_of_length (outside : Nat → Nat) {settings : List Byte} (long : 10 ≤ settings.length)
    (short : settings.length ≤ 17) : ReceiverTakes outside settings := by
  have fits : settings.length ≤ experimentDataLen := Nat.le_trans short (by decide)
  refine ⟨fun board => ?_, fun experimentData expData => ?_⟩
  · rw [experimentSettingsCb_settings outside board (Vector.replicate _ 0) (by omega) (by omega),
      copySettings_eq _ fits]
    rfl
  · exact ⟨_, _, copySettings_eq experimentData fits, overwrite_take experimentData fits,
      copyExpData_overwrite experimentData fits expData, overwrite_full expData rfl⟩

theorem senderHolds_of_length {settings : List Byte} (long : 10 ≤ settings.length)
    (short : settings.length ≤ 17) {sender : SenderSide}
    (hears : sender.phase = .waiting ∨ sender.phase = .listening) : SenderHolds settings sender := by
  have size : settings.length ≤ maxDataLen := Nat.le_trans short (by decide)
  have front := receive_holds hears size
  refine ⟨front, ?_, fun phase => ⟨_, _, by simp only [SenderSide.reply, phase]; rfl, ?_, front⟩⟩
  · rcases hears with phase | phase
    · rw [waiting_receive sender settings (by omega) phase]
      by_cases marked : settings[0]? = some pingByte
      · simp [marked, phase]
      · simp [marked]
    · simp [SenderSide.receive, phase]
  · simp

/-- Settings are recognised by their length and fit everywhere: for every record and every
delay that passes the range check, with the total wrapped to 32 bits and at both powers. -/
theorem settings_fit (outside : Nat → Nat) (entry : Entry) (power : Byte) (hours minutes seconds : String)
    (settings : List Byte)
    (started : startExperiment entry power hours minutes seconds = .ok (some settings)) :
    (10 ≤ settings.length ∧ settings.length ≤ 17) ∧ ReceiverTakes outside settings ∧
      ∀ sender : SenderSide, sender.phase = .waiting ∨ sender.phase = .listening →
        SenderHolds settings sender := by
  obtain ⟨long, short⟩ := startExperiment_length started
  exact ⟨⟨long, short⟩, receiverTakes_of_length outside long short,
    fun _ hears => senderHolds_of_length long short hears⟩

/-- Fifty messages at low power with ten seconds of delay are eleven bytes. -/
theorem settings_fit_sample :
    startExperiment ((sampleForm "50" "4").record 1) 5 "0" "0" "10" =
        .ok (some ((sampleForm "50" "4").header 50 4 30 ++ delayBytes 10000)) ∧
      ReceiverTakes (fun _ => 0) ((sampleForm "50" "4").header 50 4 30 ++ delayBytes 10000) ∧
      SenderHolds ((sampleForm "50" "4").header 50 4 30 ++ delayBytes 10000) freshSender := by
  have started := sampleForm_fifty_started
  obtain ⟨-, taken, held⟩ := settings_fit (fun _ => 0) _ 5 "0" "0" "10" _ started
  exact ⟨started, taken, held freshSender (.inl rfl)⟩

end LoraEval.Experiment

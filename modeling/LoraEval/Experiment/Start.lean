import LoraEval.App.Settings
import LoraEval.Firmware.HandshakeInvariant
import LoraEval.Firmware.Modem

namespace LoraEval.Experiment

open LoraEval.Core LoraEval.App LoraEval.Firmware

/-- The settings `startExperiment` writes for a stored form. -/
structure Written (form : Form) (settings : List Byte) : Prop where
  accepted : Accepted form
  header : ∃ messages time length delay, Java.parseByte form.noMsgs = .ok messages ∧
    settings = form.header messages time length ++ delay
  long : 10 ≤ settings.length
  short : settings.length ≤ 17

theorem written_of_start (stored : experimentReady form rowId = .ok (.stored entry))
    (started : startExperiment entry power hours minutes seconds = .ok (some settings)) :
    Written form settings := by
  obtain ⟨long, short⟩ := startExperiment_length started
  obtain ⟨accepted, rfl⟩ := (experimentReady_eq_stored rowId).mp stored
  obtain ⟨hoursD, minutesD, secondsD, -, -, -, -, built⟩ := startExperiment_eq_some.mp started
  obtain ⟨messages, time, length, parsed, -, -, rfl⟩ :=
    (createSettingsBytes_record_eq_ok form rowId _).mp built
  exact ⟨accepted, ⟨messages, time, length, _, parsed, rfl⟩, long, short⟩

/-- Byte 0 is the number of messages, and byte 5 codes the bandwidths, of which at least
one is checked. -/
theorem Written.marked (written : Written form settings) : Marked settings := by
  obtain ⟨messages, time, length, delay, parsed, rfl⟩ := written.header
  refine ⟨⟨messages, rfl, ?_⟩, encodeParamByte form.boxes.bandwidths.toList, rfl, ?_⟩
  · obtain ⟨number, read, one, -⟩ := written.accepted.messages
    obtain ⟨same, read', -, -, signed⟩ := Java.parseByte_eq_ok.mp parsed
    obtain rfl : number = same := Except.ok.inj (read.symm.trans read')
    rintro rfl
    have none : number = 0 := signed.symm
    omega
  · have one : form.boxes.bandwidths.toList.any id = true :=
      List.all_eq_true.mp written.accepted.boxes _ (by simp [CheckBoxes.lists])
    obtain ⟨i, member⟩ := List.exists_mem_of_ne_nil _ (checked_ne_nil one)
    intro zero
    have bit := encodeParamByte_getLsbD (show form.boxes.bandwidths.toList.length ≤ 8 by simp) i
    rw [mem_checked.mp member, zero] at bit
    simp at bit

/-- Byte 0 is the number of messages, so it is the ping mark for 33 messages only. -/
theorem Written.ping_iff (written : Written form settings) :
    settings[0]? = some pingByte ↔ Java.parseInt form.noMsgs = .ok 33 := by
  obtain ⟨messages, time, length, delay, parsed, rfl⟩ := written.header
  obtain ⟨number, read, low, high, signed⟩ := Java.parseByte_eq_ok.mp parsed
  have first : (form.header messages time length ++ delay)[0]? = some messages := rfl
  rw [first, read]
  constructor
  · intro same
    obtain rfl : messages = pingByte := Option.some.inj same
    rw [← signed]
    rfl
  · intro same
    obtain rfl : number = 33 := Except.ok.inj same
    congr 1
    exact BitVec.eq_of_toInt_eq signed

/-- The first exchange of the handshake without a disturbance: the settings reach
a waiting sender, and its reply reaches the receiver. -/
structure Starts (settings : List Byte) (sender : SenderSide) (receiver : ReceiverSide) : Prop where
  leaves : (sender.receive settings).phase = .acknowledging
  holds : (sender.receive settings).data.toList.take settings.length = settings
  acknowledged : ∃ reply next, (sender.receive settings).reply = some (reply, next) ∧
    (receiver.receive settings reply).phase = .left

theorem waiting_receive (sender : SenderSide) (settings : List Byte) (nonempty : 0 < settings.length)
    (waiting : sender.phase = .waiting) : (sender.receive settings).phase =
      if settings[0]? = some pingByte then .responding else .acknowledging := by
  have front : (overwrite sender.data settings)[0]? = settings[0]? :=
    overwrite_front sender.data nonempty (by decide)
  have first : some (overwrite sender.data settings)[0] = settings[0]? := by
    rw [← front]
    simp
  simp only [SenderSide.receive, waiting, ← first, Option.some.injEq]

theorem receive_holds {sender : SenderSide} (hears : sender.phase = .waiting ∨ sender.phase = .listening)
    {settings : List Byte} (size : settings.length ≤ maxDataLen) :
    (sender.receive settings).data.toList.take settings.length = settings := by
  have data : (sender.receive settings).data = overwrite sender.data settings := by
    rcases hears with phase | phase <;> simp [SenderSide.receive, phase]
  rw [data]
  exact overwrite_take sender.data size

/-- Settings for any other number of messages than 33 are adopted and acknowledged. -/
theorem starts_of_plain (written : Written form settings)
    (plain : Java.parseInt form.noMsgs ≠ .ok 33) {sender : SenderSide}
    (waiting : sender.phase = .waiting) (receiver : ReceiverSide) :
    Starts settings sender receiver := by
  have phase := waiting_receive sender settings (by have := written.long; omega) waiting
  rw [if_neg (mt written.ping_iff.mp plain)] at phase
  have size : settings.length ≤ maxDataLen := Nat.le_trans written.short (by decide)
  have holds := receive_holds (.inl waiting) size
  refine ⟨phase, holds, _, _, by simp only [SenderSide.reply, phase]; rfl, ?_⟩
  have copied := overwrite_full receiver.data
    (show (sender.receive settings).data.toList.length = maxDataLen by simp)
  simp [ReceiverSide.receive, copied, holds]

/-- An admissible experiment starts on an undisturbed exchange exactly when it
does not send 33 messages per combination: that number is the mark of a ping. -/
theorem starts_iff (stored : experimentReady form rowId = .ok (.stored entry))
    (started : startExperiment entry power hours minutes seconds = .ok (some settings))
    (sender : SenderSide) (waiting : sender.phase = .waiting) (receiver : ReceiverSide) :
    Starts settings sender receiver ↔ Java.parseInt form.noMsgs ≠ .ok 33 := by
  have written := written_of_start stored started
  constructor
  · intro starts thirtyThree
    have leaves := starts.leaves
    rw [waiting_receive sender settings (by have := written.long; omega) waiting,
      if_pos (written.ping_iff.mpr thirtyThree)] at leaves
    cases leaves
  · intro plain
    exact starts_of_plain written plain waiting receiver

def freshSender : SenderSide := ⟨.waiting, Vector.replicate maxDataLen 0, ⟨[], 0, false, false⟩⟩
def freshReceiver : ReceiverSide := ⟨.sending, Vector.replicate maxDataLen 0, ⟨[], 0, false, false⟩⟩

theorem starts_iff_sample :
    experimentReady (sampleForm "50" "4") 1 = .ok (.stored ((sampleForm "50" "4").record 1)) ∧
      startExperiment ((sampleForm "50" "4").record 1) 5 "0" "0" "10" =
        .ok (some ((sampleForm "50" "4").header 50 4 30 ++ delayBytes 10000)) ∧
      (Starts ((sampleForm "50" "4").header 50 4 30 ++ delayBytes 10000) freshSender freshReceiver ↔
        Java.parseInt "50" ≠ .ok 33) := by
  have stored := sampleForm_fifty_stored
  have started := sampleForm_fifty_started
  exact ⟨stored, started, starts_iff stored started freshSender rfl freshReceiver⟩

/-- An experiment with 33 messages is stored and written, but the sender answers
its settings as a ping. -/
theorem thirty_three_messages_answered_as_ping :
    experimentReady (sampleForm "33" "4") 1 = .ok (.stored ((sampleForm "33" "4").record 1)) ∧
      startExperiment ((sampleForm "33" "4").record 1) 5 "0" "0" "10" =
        .ok (some ((sampleForm "33" "4").header 33 4 30 ++ delayBytes 10000)) ∧
      ¬ Starts ((sampleForm "33" "4").header 33 4 30 ++ delayBytes 10000) freshSender freshReceiver := by
  refine ⟨sampleForm_stored "33" "4" 33 (by decide) (by decide) (by decide) (by decide) 1,
    sampleForm_started "33" "4" 33 4 (by decide) (by decide) 1, ?_⟩
  intro starts
  have answered := waiting_receive freshSender
    ((sampleForm "33" "4").header 33 4 30 ++ delayBytes 10000) (by simp [Form.header]) rfl
  have leaves := starts.leaves
  rw [answered, if_pos (by rfl)] at leaves
  cases leaves

/-- The boards after the sender has heard the settings, about to acknowledge them. -/
def heard (settings : List Byte) (world : World) : World where
  sender := ⟨.acknowledging, overwrite world.sender.data settings, ⟨settings, 0, false, false⟩⟩
  receiver := { world.receiver with phase := .awaiting, driver := world.receiver.driver.send.recv }
  air := none

section

variable {settings : List Byte} {world : World} (initial : world.Initial)

include initial in
theorem heard_run (idle : world.sender.driver.waiting = false)
    (starts : Starts settings world.sender world.receiver) :
    Relation.ReflTransGen (Step settings) world (heard settings world) := by
  have received : { world.sender with driver := ⟨settings, 0, false, false⟩ }.receive settings =
      (heard settings world).sender := by
    have leaves := starts.leaves
    simp only [SenderSide.receive, initial.waiting] at leaves ⊢
    rw [leaves]
    rfl
  have taken : (world.sender.driver.recv.rxDone settings).take =
      some (settings, ⟨settings, 0, false, false⟩) := by
    simp [Driver.take, Driver.rxDone, Driver.recv, initial.untaken]
  have last : Step settings
      ⟨{ world.sender with driver := world.sender.driver.recv.rxDone settings },
        (heard settings world).receiver, none⟩ _ :=
    .senderReceives _ taken (.inl initial.waiting)
  rw [received] at last
  exact .head (Step.senderCalls world idle (.inl initial.waiting)) <|
    .head (Step.sendSettings _ initial.free initial.sending) <|
    .head (Step.receiverCalls _ initial.idle rfl) <|
    .head (Step.reachSender _ rfl rfl rfl) <| .head last .refl

/-- The acknowledgement is what the receiver compares with, so it leaves its loop. -/
theorem acknowledged_left (starts : Starts settings world.sender world.receiver)
    (waiting : world.sender.phase = .waiting) (driver : Driver) :
    ({ world.receiver with phase := .awaiting, driver }.receive settings
      (overwrite world.sender.data settings).toList).phase = .left := by
  have holds := starts.holds
  simp only [SenderSide.receive, waiting] at holds
  have copied := overwrite_full world.receiver.data
    (show (overwrite world.sender.data settings).toList.length = maxDataLen by simp)
  simp [ReceiverSide.receive, copied, holds]

include initial in
theorem undisturbed_run (idle : world.sender.driver.waiting = false)
    (untaken : world.receiver.driver.dataSem = 0) (starts : Starts settings world.sender world.receiver) :
    ∃ reached, Relation.ReflTransGen (Step settings) world reached ∧ reached.receiver.phase = .left := by
  have taken (bytes : List Byte) : (world.receiver.driver.send.recv.rxDone bytes).take =
      some (bytes, ⟨bytes, 0, false, false⟩) := by
    simp [Driver.take, Driver.rxDone, Driver.recv, Driver.send, untaken]
  refine ⟨_, (heard_run initial idle starts).trans <|
    .head (Step.reply (heard settings world) rfl rfl) <|
    .head (Step.reachReceiver _ rfl rfl) <|
    .head (Step.receiverReceives _ (taken _) rfl) .refl, ?_⟩
  exact acknowledged_left starts initial.waiting _

end

/-- Handshake agreement: on a half-duplex radio, with losses, altered settings, timeouts,
late packets and retransmissions in any order, a receiver that has left its
acknowledgement loop finds its settings in the sender's buffer, now and at every
later time until the measurement, which then reads them. -/
theorem handshake_agreement (stored : experimentReady form rowId = .ok (.stored entry))
    (started : startExperiment entry power hours minutes seconds = .ok (some settings))
    (initial : World.Initial world)
    (run : Relation.ReflTransGen (Step settings) world reached)
    (left : reached.receiver.phase = .left) :
    ∀ later, Relation.ReflTransGen (Step settings) reached later →
      later.sender.data.toList.take settings.length = settings ∧
        Settings.ofBytes later.sender.data.toList = Settings.ofBytes settings := by
  intro later onward
  have written := written_of_start stored started
  have same := handshake_agrees written.marked initial (run.trans onward) (left_stable onward left)
  refine ⟨same, ?_⟩
  rw [← Settings.ofBytes_take later.sender.data.toList (show 9 ≤ settings.length from
    Nat.le_trans (by decide) written.long), same]

theorem handshake_agreement_sample :
    experimentReady (sampleForm "50" "4") 1 = .ok (.stored ((sampleForm "50" "4").record 1)) ∧
      startExperiment ((sampleForm "50" "4").record 1) 5 "0" "0" "10" =
        .ok (some ((sampleForm "50" "4").header 50 4 30 ++ delayBytes 10000)) ∧
      World.Initial ⟨freshSender, freshReceiver, none⟩ ∧
      ∃ reached, Relation.ReflTransGen
          (Step ((sampleForm "50" "4").header 50 4 30 ++ delayBytes 10000))
          ⟨freshSender, freshReceiver, none⟩ reached ∧
        reached.receiver.phase = .left ∧
        reached.sender.data.toList.take
            ((sampleForm "50" "4").header 50 4 30 ++ delayBytes 10000).length =
          (sampleForm "50" "4").header 50 4 30 ++ delayBytes 10000 := by
  have stored := sampleForm_fifty_stored
  have started := sampleForm_fifty_started
  have initial : World.Initial ⟨freshSender, freshReceiver, none⟩ := ⟨rfl, rfl, rfl, rfl, rfl, rfl, rfl⟩
  have parsed : Java.parseInt (sampleForm "50" "4").noMsgs = .ok 50 := by
    show Java.parseInt "50" = .ok 50
    decide
  obtain ⟨reached, run, left⟩ := undisturbed_run initial rfl rfl
    (starts_of_plain (written_of_start stored started) (by rw [parsed]; decide) rfl freshReceiver)
  exact ⟨stored, started, initial, reached, run, left,
    (handshake_agreement stored started initial run left reached .refl).1⟩

end LoraEval.Experiment

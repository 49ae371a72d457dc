import LoraEval.App.Central
import LoraEval.App.ResultLog
import LoraEval.Experiment.Timing
import LoraEval.Firmware.ReceiverRecords

namespace LoraEval.Experiment

open LoraEval.Core LoraEval.App LoraEval.Firmware

/-- The bit errors the phone stores for a notification it takes for statistics. -/
def storedText (notification : List Byte) : Option String :=
  match onCharacteristicChanged .receiver notification with
  | .ok (some (.rssiSnr bytes)) =>
    match statisticsFields bytes with
    | some (.statistics _ _ bitErrors) => some bitErrors
    | _ => none
  | _ => none

/-- The bit errors stored for a packet: the first event of its report is the
notification of the statistics. -/
def storedBitErrors (settings : Settings) (n : Nat) (reception : Reception) (state : ReceiverState) :
    Option String := do
  let next ← reportReception settings n reception state
  match next.trace[state.trace.length]? with
  | some (.notified bytes) => storedText bytes
  | _ => none

theorem storedText_statistics (rssi snr bitErrors : Byte) :
    storedText (Notification.statistics rssi snr bitErrors).bytes =
      some (toString (bitErrors.toNat : Int)) := by
  have routed : onCharacteristicChanged .receiver [-1, rssi, snr, bitErrors] =
      .ok (some (.rssiSnr [-1, rssi, snr, bitErrors])) := by
    rw [onCharacteristicChanged_cons]
    simp
  have fields : statisticsFields [-1, rssi, snr, bitErrors] =
      some (.statistics ("-" ++ toString (makeByteUnsigned rssi)) (Java.byteToString snr)
        (toString (makeByteUnsigned bitErrors))) := rfl
  simp only [storedText, Notification.bytes, routed, fields, makeByteUnsigned_eq]

theorem storedBitErrors_eq (settings : Settings) (n : Nat) (reception : Reception) (state : ReceiverState) :
    storedBitErrors settings n reception state =
      some (toString ((state.bitErrors settings % 256 : Nat) : Int)) := by
  obtain ⟨buffer, record, reported, -⟩ := reportReception_eq settings n reception state
  simp only [storedBitErrors, reported, Option.bind_eq_bind, Option.bind_some,
    List.getElem?_append_right (Nat.le_refl _), Nat.sub_self, List.getElem?_cons_zero,
    storedText_statistics, BitVec.toNat_ofNat]

/-- A packet of the configured length fills the compared part of the buffer. -/
theorem bitErrors_beside (state : ReceiverState) (data : Vector Byte maxTransmLen)
    (whole : reception.packet.length = settings.msgLength.toNat) :
    (state.beside reception data).bitErrors settings =
      hammingDistance (data.toList.take settings.msgLength.toNat) reception.packet := by
  have fits := msgLength_fits settings
  have front : (overwrite state.transmissionData reception.packet).toList.take reception.packet.length =
      reception.packet := overwrite_take state.transmissionData (by omega)
  rw [whole] at front
  simp only [ReceiverState.bitErrors, ReceiverState.beside, front]

/-- For every expected message and every packet of the configured length, the phone
stores the Hamming distance exactly if fewer than 256 bits differ. -/
theorem bitErrors_stored_iff (settings : Settings) (n : Nat) (reception : Reception) (state : ReceiverState)
    (data : Vector Byte maxTransmLen) (whole : reception.packet.length = settings.msgLength.toNat) :
    storedBitErrors settings n reception (state.beside reception data) =
        some (toString (hammingDistance (data.toList.take settings.msgLength.toNat) reception.packet : Int)) ↔
      hammingDistance (data.toList.take settings.msgLength.toNat) reception.packet < 256 := by
  rw [storedBitErrors_eq, bitErrors_beside state data whole, Option.some.injEq]
  generalize hammingDistance (data.toList.take settings.msgLength.toNat) reception.packet = distance
  constructor
  · intro same
    have equal := Java.toString_int_inj.mp same
    omega
  · intro small
    rw [Nat.mod_eq_of_lt small]

/-- Forty bytes of the first message of a combination, expected by an idle receiver. -/
def fortySettings : Settings := ⟨50, 4, 40, 1, 1, 1, 1, 1⟩
def fortyBytes : List Byte := message ⟨0, 0, 0, 0, 0⟩ 40 0
def fortyExpected : Vector Byte maxTransmLen := overwrite (Vector.replicate maxTransmLen 0) fortyBytes

theorem fortyBytes_length : fortyBytes.length = fortySettings.msgLength.toNat := message_length _ _ _

theorem bitErrors_stored_sample :
    storedBitErrors fortySettings 0 ⟨fortyBytes, -90, 7⟩
      (idleReceiver.beside ⟨fortyBytes, -90, 7⟩ fortyExpected) =
        some (toString (hammingDistance (fortyExpected.toList.take 40) fortyBytes : Int)) ↔
      hammingDistance (fortyExpected.toList.take 40) fortyBytes < 256 :=
  bitErrors_stored_iff fortySettings 0 ⟨fortyBytes, -90, 7⟩ idleReceiver fortyExpected fortyBytes_length

theorem hammingDistance_inverted (bytes : List (BitVec w)) :
    hammingDistance bytes (bytes.map (~~~ ·)) = w * bytes.length := by
  have inverted (word : BitVec w) : bitDistance word (~~~ word) = w := by
    have all : ∀ index ∈ List.range w, (word.getLsbD index != (~~~ word).getLsbD index) = true := by
      intro index inside
      simp [List.mem_range.mp inside]
    rw [bitDistance, List.countP_eq_length.mpr all, List.length_range]
  induction bytes with
  | nil => simp [hammingDistance]
  | cons first rest ih =>
    have more : hammingDistance (first :: rest) ((first :: rest).map (~~~ ·)) =
        bitDistance first (~~~ first) + hammingDistance rest (rest.map (~~~ ·)) := by
      simp [hammingDistance]
    rw [more, ih, inverted, List.length_cons, Nat.mul_succ, Nat.add_comm]

/-- Every bit of the forty bytes is inverted: 320 errors are stored as 64. -/
theorem inverted_bitErrors :
    hammingDistance (fortyExpected.toList.take 40) (fortyBytes.map (~~~ ·)) = 320 ∧
      storedBitErrors fortySettings 0 ⟨fortyBytes.map (~~~ ·), -90, 7⟩
        (idleReceiver.beside ⟨fortyBytes.map (~~~ ·), -90, 7⟩ fortyExpected) = some "64" := by
  have length : (fortyBytes.map (~~~ ·)).length = fortySettings.msgLength.toNat := by
    rw [List.length_map, fortyBytes_length]
  have front : fortyExpected.toList.take fortyBytes.length = fortyBytes :=
    overwrite_take _ (by rw [fortyBytes_length]; decide)
  rw [fortyBytes_length] at front
  have distance : hammingDistance (fortyExpected.toList.take 40) (fortyBytes.map (~~~ ·)) = 320 := by
    change hammingDistance (fortyExpected.toList.take fortySettings.msgLength.toNat) _ = 320
    rw [front, hammingDistance_inverted, fortyBytes_length]
    rfl
  refine ⟨distance, ?_⟩
  rw [storedBitErrors_eq, bitErrors_beside idleReceiver fortyExpected length]
  show some (toString ((hammingDistance (fortyExpected.toList.take 40) _ % 256 : Nat) : Int)) = _
  rw [distance]
  rfl

end LoraEval.Experiment

import LoraEval.Firmware.Receiver

namespace LoraEval.Firmware

open LoraEval.Core

theorem count_bits (wanted got count : Byte) :
    (List.range 8).foldl (fun count i =>
      if unsignedBit wanted i != unsignedBit got i then count + 1 else count) count =
      count + BitVec.ofNat 8 (bitDistance wanted got) := by
  simp only [unsignedBit_eq, bitDistance]
  generalize List.range 8 = positions
  induction positions generalizing count with
  | nil => simp
  | cons position rest ih =>
    rw [List.foldl_cons, ih, List.countP_cons]
    split
    · rw [BitVec.ofNat_add, BitVec.add_assoc]
      exact congrArg (count + ·) (BitVec.add_comm _ _)
    · rfl

/-- One byte of the comparison adds its differing bits, none if the bytes are equal. -/
theorem compareByte_eq {expected received : Vector Byte size} (inside : z < size) (result : Bool × Byte) :
    compareByte expected received z result =
      some (result.1 && decide (expected[z] = received[z]),
        result.2 + BitVec.ofNat 8 (bitDistance expected[z] received[z])) := by
  by_cases same : expected[z] = received[z]
  · simp [compareByte, inside, same]
  · simp only [compareByte, getElem?_pos, inside, Option.bind_eq_bind, Option.bind_some, same, if_false,
      count_bits, decide_false, Bool.and_false]
    rfl

/-- The comparison of a message: the flag is equality, and the count the Hamming
distance in eight bits. -/
theorem compareMessage_eq (expected received : Vector Byte size) (room : length ≤ size) :
    compareMessage length expected received =
      some (decide (expected.toList.take length = received.toList.take length),
        BitVec.ofNat 8 (hammingDistance (expected.toList.take length) (received.toList.take length))) := by
  induction length with
  | zero => rfl
  | succ length ih =>
    have front (buffer : Vector Byte size) : buffer.toList.take (length + 1) =
        buffer.toList.take length ++ [buffer[length]] := by
      rw [List.take_add_one]
      simp [show length < size by omega]
    have split : expected.toList.take length ++ [expected[length]] =
          received.toList.take length ++ [received[length]] ↔
        expected.toList.take length = received.toList.take length ∧ expected[length] = received[length] := by
      constructor
      · intro same
        simpa using List.append_inj' same rfl
      · rintro ⟨same, last⟩
        rw [same, last]
    have before := ih (by omega)
    rw [compareMessage] at before ⊢
    rw [List.range_succ, forEach_append, before, front expected, front received,
      hammingDistance_concat (by simp)]
    simp only [Option.bind_eq_bind, Option.bind_some, forEach_cons, forEach_nil,
      compareByte_eq (show length < size by omega)]
    simp only [split, Bool.decide_and, BitVec.ofNat_add]

/-- The flag and the bit error count of the message in the buffers. -/
def ReceiverState.sameContent (settings : Settings) (state : ReceiverState) : Bool :=
  decide (state.compareData.toList.take settings.msgLength.toNat =
    state.transmissionData.toList.take settings.msgLength.toNat)

def ReceiverState.bitErrors (settings : Settings) (state : ReceiverState) : Nat :=
  hammingDistance (state.compareData.toList.take settings.msgLength.toNat)
    (state.transmissionData.toList.take settings.msgLength.toNat)

theorem msgLength_fits (settings : Settings) : settings.msgLength.toNat ≤ maxTransmLen := by
  have := settings.msgLength.isLt
  simp only [maxTransmLen]
  omega

/-- Reporting never fails: the statistics, then a record of the receive buffer with
flag, iteration and number written into it. -/
theorem reportReception_eq (settings : Settings) (n : Nat) (reception : Reception) (state : ReceiverState) :
    ∃ buffer record, reportReception settings n reception state = some { state with
        transmissionData := buffer
        trace := state.trace ++ [.notified (Notification.statistics (BitVec.ofInt 8 (-reception.rssi))
            (BitVec.ofInt 8 reception.snr) (BitVec.ofNat 8 (state.bitErrors settings))).bytes,
          .notified (Notification.message record).bytes] } ∧
      record.bytes[9]? = some (if state.sameContent settings then correctFlag else falseFlag) ∧
      record.bytes[10]? = some state.iteration ∧ record.bytes[11]? = some (BitVec.ofNat 8 n) ∧
      ∀ position < 9, record.bytes[position]? = state.transmissionData[position]? := by
  have compared : compareMessage settings.msgLength.toNat state.compareData state.transmissionData =
      some (state.sameContent settings, BitVec.ofNat 8 (state.bitErrors settings)) :=
    compareMessage_eq state.compareData state.transmissionData (msgLength_fits settings)
  obtain ⟨flagged, stored₉, written₉, kept₉⟩ := store_spec state.transmissionData
    (if state.sameContent settings then correctFlag else falseFlag) (show 9 < maxTransmLen by decide)
  obtain ⟨counted, stored₁₀, written₁₀, kept₁₀⟩ :=
    store_spec flagged state.iteration (show 10 < maxTransmLen by decide)
  obtain ⟨numbered, stored₁₁, written₁₁, kept₁₁⟩ :=
    store_spec counted (BitVec.ofNat 8 n) (show 11 < maxTransmLen by decide)
  obtain ⟨ended, stored₁₂, written₁₂, kept₁₂⟩ :=
    store_spec numbered delimiter (show 12 < maxTransmLen by decide)
  have mark : ended[9]? = some (if state.sameContent settings then correctFlag else falseFlag) := by
    rw [kept₁₂ 9 (by decide), kept₁₁ 9 (by decide), kept₁₀ 9 (by decide), written₉]
  have flag : ended.toList[9]? = some correctFlag ∨ ended.toList[9]? = some falseFlag := by
    rw [Vector.getElem?_toList, mark]
    cases state.sameContent settings <;> simp
  obtain ⟨record, notified, content⟩ := btLresNotify_message ended.toList
    (by simp [maxDataLen, maxTransmLen]) flag (by rw [Vector.getElem?_toList]; exact written₁₂)
  have read (position : Nat) (inside : position < maxDataLen) :
      record.bytes[position]? = ended[position]? := by
    rw [content, List.getElem?_take_of_lt inside, Vector.getElem?_toList]
  refine ⟨ended, record, ?_, ?_, ?_, ?_, ?_⟩
  · simp [reportReception, compared, btLresNotify_statistics, stored₉, stored₁₀, stored₁₁, stored₁₂,
      notified, ReceiverState.emit]
  · rw [read 9 (by decide), mark]
  · rw [read 10 (by decide), kept₁₂ 10 (by decide), kept₁₁ 10 (by decide), written₁₀]
  · rw [read 11 (by decide), kept₁₂ 11 (by decide), written₁₁]
  · intro position front
    have early : position < maxDataLen := by
      simp only [maxDataLen]
      omega
    rw [read position early, kept₁₂ position (by omega), kept₁₁ position (by omega),
      kept₁₀ position (by omega), kept₉ position (by omega)]

end LoraEval.Firmware

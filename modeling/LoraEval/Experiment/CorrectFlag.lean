import LoraEval.Firmware.Receptions

namespace LoraEval.Experiment

open LoraEval.Core LoraEval.Firmware

section

variable (settings : Settings) (ldiv0 : Int → Int) (delay : Nat) (handling : Handling)

/-- The message of the computed number for the combination of the window. -/
def expectedMessage : List Byte :=
  match settings.combinations[handling.iteration]? with
  | some combination => message combination settings.msgLength.toNat
      (msgNumber settings ldiv0 (decide (handling.iteration = 0)) delay (1000 + handling.time))
  | none => []

/-- The bytes that are compared: the packet as far as it reaches, then the bytes that
earlier packets left in the buffer. -/
def comparedBytes : List Byte :=
  handling.reception.packet.take settings.msgLength.toNat ++
    (handling.before.transmissionData.toList.take settings.msgLength.toNat).drop
      handling.reception.packet.length

variable {settings ldiv0 delay handling}

theorem comparedBytes_front (shape : handling.reception.packet = front ++ extra)
    (full : front.length = settings.msgLength.toNat) : comparedBytes settings handling = front := by
  have reached : (handling.before.transmissionData.toList.take settings.msgLength.toNat).drop
      handling.reception.packet.length = [] :=
    List.drop_of_length_le (by simp [shape]; omega)
  rw [comparedBytes, reached, List.append_nil, shape, ← full, List.take_left]

theorem flag_eq (long : 11 ≤ settings.msgLength.toNat)
    (observed : handlings settings ldiv0 delay config inputs = some packets)
    (member : handling ∈ packets) : ∃ record, handling.record = some record ∧
      (record.bytes[9]? = some correctFlag ↔
        comparedBytes settings handling = expectedMessage settings ldiv0 delay handling) := by
  obtain ⟨data, record, combination, reported, found, content⟩ := handlings_reported long observed member
  have expected : expectedMessage settings ldiv0 delay handling =
      data.toList.take settings.msgLength.toNat := by
    rw [expectedMessage, found, content, reported.number]
  have buffer := overwrite_take_eq handling.before.transmissionData handling.reception.packet
    (msgLength_fits settings)
  refine ⟨record, reported.found, ?_⟩
  have different : falseFlag ≠ correctFlag := by decide
  rw [reported.flag, expected, comparedBytes, ← buffer, ReceiverState.sameContent]
  by_cases same : data.toList.take settings.msgLength.toNat =
      (overwrite handling.before.transmissionData handling.reception.packet).toList.take
        settings.msgLength.toNat
  · simp [ReceiverState.beside, same]
  · simp [ReceiverState.beside, same, Ne.symm same, different]

end

/-- In every run, whatever was received before, a packet is flagged right exactly if it has
the configured length or the bytes compared for it are not the expected message. -/
theorem flag_right_iff (long : 11 ≤ settings.msgLength.toNat)
    (observed : handlings settings ldiv0 delay config inputs = some packets)
    (member : handling ∈ packets) : ∃ record, handling.record = some record ∧
      ((record.bytes[9]? = some correctFlag ↔
          handling.reception.packet.length = settings.msgLength.toNat ∧
            handling.reception.packet = expectedMessage settings ldiv0 delay handling) ↔
        handling.reception.packet.length = settings.msgLength.toNat ∨
          comparedBytes settings handling ≠ expectedMessage settings ldiv0 delay handling) := by
  obtain ⟨record, found, flag⟩ := flag_eq long observed member
  refine ⟨record, found, ?_⟩
  rw [flag]
  by_cases full : handling.reception.packet.length = settings.msgLength.toNat
  · simp [full, comparedBytes_front (List.append_nil _).symm full]
  · simp [full]

theorem flag_right_sample :
    ∃ packets handling, handlings ⟨50, 4, 30, 1, 1, 1, 1, 1⟩ (fun _ => 0) 5
        (changeConfig (fun _ => 0) #v[0, 0, 0, 0, 0] false)
        [[⟨10000, some ⟨List.replicate 30 48, -100, 5⟩⟩]] = some packets ∧
      handling ∈ packets ∧ handling.reception.packet = List.replicate 30 48 ∧
      ∃ record, handling.record = some record ∧ (record.bytes[9]? = some correctFlag ↔
        handling.reception.packet.length = 30 ∧ handling.reception.packet =
          expectedMessage ⟨50, 4, 30, 1, 1, 1, 1, 1⟩ (fun _ => 0) 5 handling) := by
  obtain ⟨packets, handling, observed, member, -, -, arrived⟩ :=
    handlings_onePacket 4 10000 ⟨List.replicate 30 48, -100, 5⟩
  obtain ⟨record, found, exact⟩ := flag_right_iff (by decide) observed member
  refine ⟨packets, handling, observed, member, by rw [arrived], record, found, exact.mpr (.inl ?_)⟩
  rw [arrived]
  rfl

/-- A packet that goes on after the expected message is flagged as correct. -/
theorem longer_packet_flagged :
    ∃ packets handling, handlings ⟨50, 4, 30, 1, 1, 1, 1, 1⟩ (fun _ => 0) 5
        (changeConfig (fun _ => 0) #v[0, 0, 0, 0, 0] false)
        [[⟨10000, some ⟨message ⟨0, 0, 0, 0, 0⟩ 30 0 ++ [0], -100, 5⟩⟩]] = some packets ∧
      handling ∈ packets ∧ handling.reception.packet.length = 31 ∧
      ∃ record, handling.record = some record ∧ record.bytes[9]? = some correctFlag := by
  obtain ⟨packets, handling, observed, member, iteration, time, arrived⟩ :=
    handlings_onePacket 4 10000 ⟨message ⟨0, 0, 0, 0, 0⟩ 30 0 ++ [0], -100, 5⟩
  obtain ⟨record, found, flag⟩ := flag_eq (by decide) observed member
  have size : handling.reception.packet.length = 31 := by
    rw [arrived, List.length_append, message_length]
    rfl
  refine ⟨packets, handling, observed, member, size, record, found, flag.mpr ?_⟩
  have number : msgNumber ⟨50, 4, 30, 1, 1, 1, 1, 1⟩ (fun _ => 0) (decide (0 = 0)) 5
      (1000 + (10000 : Nat)) = 0 := by decide
  have combination : (⟨50, 4, 30, 1, 1, 1, 1, 1⟩ : Settings).combinations[0]? = some ⟨0, 0, 0, 0, 0⟩ := by
    decide
  rw [comparedBytes_front (congrArg Reception.packet arrived) (message_length _ 30 0), expectedMessage,
    iteration, time, combination, number]
  rfl

end LoraEval.Experiment

import LoraEval.Firmware.Receiver

/-! A message of the explore mode: what `send_command_cb` puts on the air, and what
`receive_lora` notifies of it. `char data[len]` lies on the stack; the model keeps the
memory from its start and the indices that are accessed. -/

namespace LoraEval.Firmware

open LoraEval.Core

/-- The memory from the start of `data`, and the indices accessed so far. -/
structure DataArray where
  memory : List Byte
  accesses : List Nat

def DataArray.write (index : Nat) (value : Byte) (data : DataArray) : DataArray :=
  ⟨data.memory.set index value, data.accesses ++ [index]⟩

def copyWritten (written : List Byte) (count : Nat) (memory : List Byte) : DataArray :=
  (List.range count).foldl (fun data i => data.write i (written[i]?.getD 0)) ⟨memory, []⟩

/-- `data` after the loop and `data[len] = '.'`. -/
def fillData (written memory : List Byte) : DataArray :=
  (copyWritten written written.length memory).write written.length delimiter

/-- `lora_send(lora_dev, data, MAX_DATA_LEN)`: the packet and all accesses to `data`. -/
def sendData (written memory : List Byte) : List Byte × List Nat :=
  let data := fillData written memory
  (data.memory.take maxDataLen, data.accesses ++ List.range maxDataLen)

/-- One round of `receive_lora`: the buffer, and the notifications unless the packet is a ping. -/
def receiveLora (buffer : Vector Byte maxDataLen) (reception : Reception) :
    Option (Vector Byte maxDataLen × List (List Byte)) := do
  let data := overwrite buffer reception.packet
  if data[0]? = some 38 then return (data, [])
  let statistics ← btLresNotify [BitVec.ofInt 8 (-reception.rssi), BitVec.ofInt 8 reception.snr, -1] 0
  let message ← btLresNotify data.toList 1
  return (data, [statistics, message])

theorem copyWritten_eq (room : count ≤ memory.length) (inside : count ≤ written.length) :
    copyWritten written count memory = ⟨written.take count ++ memory.drop count, List.range count⟩ := by
  induction count with
  | zero => simp [copyWritten]
  | succ count ih =>
    have before := ih (by omega) (by omega)
    have next : copyWritten written (count + 1) memory =
        (copyWritten written count memory).write count (written[count]?.getD 0) := by
      rw [copyWritten, List.range_succ, List.foldl_append]
      rfl
    have rest : memory.drop count = memory[count] :: memory.drop (count + 1) :=
      List.drop_eq_getElem_cons (by omega)
    have front : (written.take count).length = count := List.length_take_of_le (by omega)
    have value : written.take (count + 1) = written.take count ++ [written[count]?.getD 0] := by
      rw [List.take_succ_eq_append_getElem (by omega), List.getElem?_eq_getElem (by omega), Option.getD_some]
    rw [next, before, DataArray.write, rest, List.set_append_right _ _ (by omega), front, Nat.sub_self,
      List.set_cons_zero, value, List.range_succ, List.append_assoc, List.singleton_append]

theorem fillData_eq (room : written.length < memory.length) :
    fillData written memory =
      ⟨written ++ delimiter :: memory.drop (written.length + 1), List.range (written.length + 1)⟩ := by
  have rest : memory.drop written.length = memory[written.length] :: memory.drop (written.length + 1) :=
    List.drop_eq_getElem_cons room
  rw [fillData, copyWritten_eq (by omega) (Nat.le_refl _), DataArray.write, List.take_length, rest,
    List.set_append_right _ _ (Nat.le_refl _), Nat.sub_self, List.set_cons_zero, List.range_succ]

/-- A full packet is notified as it was received, after its statistics. -/
theorem receiveLora_eq (buffer : Vector Byte maxDataLen) (full : packet.length = maxDataLen)
    (message : packet[0]? ≠ some 38) (rssi snr : Int) :
    ∃ data, receiveLora buffer ⟨packet, rssi, snr⟩ =
      some (data, [[-1, BitVec.ofInt 8 (-rssi), BitVec.ofInt 8 snr, -1], packet]) := by
  have whole : (overwrite buffer packet).toList = packet := overwrite_full buffer full
  have first : (overwrite buffer packet)[0]? = packet[0]? := by rw [← Vector.getElem?_toList, whole]
  have notified : btLresNotify packet 1 = some packet := by
    simp [btLresNotify, full, List.take_of_length_le (Nat.le_of_eq full)]
  refine ⟨overwrite buffer packet, ?_⟩
  simp only [receiveLora, first, message, whole, notified, if_false]
  rfl

end LoraEval.Firmware

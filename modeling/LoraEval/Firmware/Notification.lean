import LoraEval.Core.Bits

namespace LoraEval.Firmware

open LoraEval.Core

abbrev maxDataLen : Nat := 20

/-- Byte 9 of a message record: the content was as expected, or not. -/
def correctFlag : Byte := 116
def falseFlag : Byte := 102

def delimiter : Byte := 46

/-- `bt_lres_notify(data, type)`: the bytes handed to `bt_gatt_notify`. Type 0
puts -1 in front of three statistics bytes, type 1 copies `MAX_DATA_LEN` bytes,
any other type copies one. Reading past the end of `data` is a failure. -/
def btLresNotify (data : List Byte) (type : Nat) : Option (List Byte) :=
  if type = 0 then if 3 ≤ data.length then some (-1 :: data.take 3) else none
  else if type = 1 then if maxDataLen ≤ data.length then some (data.take maxDataLen) else none
  else if 1 ≤ data.length then some (data.take 1) else none

/-- The status codes `lres.c` notifies. -/
def statusCodes : List Int := [-2, -3, -4, -5, -6, -7]

/-- A message record of an experiment: 20 bytes of the receive buffer with the
content flag in byte 9 and the delimiter in byte 12. -/
structure MessageRecord where
  bytes : List Byte
  size : bytes.length = maxDataLen
  flag : bytes[9]? = some correctFlag ∨ bytes[9]? = some falseFlag
  ended : bytes[12]? = some delimiter

/-- Everything the receiver notifies to the phone during an experiment. -/
inductive Notification where
  | status (code : Int) (known : code ∈ statusCodes)
  | statistics (rssi snr bitErrors : Byte)
  | message (record : MessageRecord)

def Notification.bytes : Notification → List Byte
  | .status code _ => [BitVec.ofInt 8 code]
  | .statistics rssi snr bitErrors => [-1, rssi, snr, bitErrors]
  | .message record => record.bytes

theorem btLresNotify_status (code : Int) (known : code ∈ statusCodes) :
    btLresNotify [BitVec.ofInt 8 code] 2 = some (Notification.status code known).bytes := by
  simp [btLresNotify, Notification.bytes]

theorem btLresNotify_statistics (rssi snr bitErrors : Byte) :
    btLresNotify [rssi, snr, bitErrors] 0 = some (Notification.statistics rssi snr bitErrors).bytes := by
  simp [btLresNotify, Notification.bytes]

/-- A buffer with flag and delimiter in place is notified as a message record. -/
theorem btLresNotify_message (data : List Byte) (room : maxDataLen ≤ data.length)
    (flag : data[9]? = some correctFlag ∨ data[9]? = some falseFlag) (ended : data[12]? = some delimiter) :
    ∃ record : MessageRecord, btLresNotify data 1 = some (Notification.message record).bytes ∧
      record.bytes = data.take maxDataLen := by
  have read (i : Nat) (inside : i < 20) : (data.take maxDataLen)[i]? = data[i]? :=
    List.getElem?_take_of_lt inside
  refine ⟨⟨data.take maxDataLen, ?_, ?_, ?_⟩, ?_, rfl⟩
  · exact List.length_take_of_le room
  · rwa [read 9 (by decide)]
  · rwa [read 12 (by decide)]
  · simp [btLresNotify, Notification.bytes, room]

end LoraEval.Firmware

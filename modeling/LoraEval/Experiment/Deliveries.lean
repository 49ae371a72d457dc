import LoraEval.Experiment.MessageNumbers
import LoraEval.Experiment.ResultBroadcasts
import LoraEval.Experiment.ResultFiles
import LoraEval.Firmware.RunNotifications
import LoraEval.Graphs.ResultRows

namespace LoraEval.Experiment

open LoraEval.Core LoraEval.Core.Csv LoraEval.App LoraEval.Firmware LoraEval.Graphs

/-- A message that gets through: its number, the milliseconds from the start of the window
to its arrival, and what arrives. -/
structure Delivery where
  number : Nat
  time : Nat
  reception : Reception

section

variable (settings : Settings) (delay k : Nat) (combination : Combination) (delivery : Delivery)

def Delivery.sent : List Byte := message combination settings.msgLength.toNat delivery.number

/-- The packet arrives in the slot of its message with its length and its header; the
payload may be damaged. RSSI and SNR fit the bytes they are reported in. -/
structure Delivery.Sound : Prop where
  inside : delivery.number < settings.numberOfMessages.toNat
  early : numberingStart k delay + delivery.number * period settings ≤ delivery.time
  late : delivery.time < numberingStart k delay + (delivery.number + 1) * period settings
  whole : delivery.reception.packet.length = settings.msgLength.toNat
  header : delivery.reception.packet.take 9 = (delivery.sent settings combination).take 9
  rssi : -255 ≤ delivery.reception.rssi ∧ delivery.reception.rssi ≤ 0
  snr : -128 ≤ delivery.reception.snr ∧ delivery.reception.snr ≤ 127

def Delivery.damaged : Bool := decide (delivery.reception.packet ≠ delivery.sent settings combination)

def Delivery.identifier : List Byte :=
  (List.range 9).map (messageByte combination settings.msgLength.toNat delivery.number) ++
    [if delivery.damaged settings combination then falseFlag else correctFlag]

def Delivery.bitErrors : Nat :=
  hammingDistance (delivery.sent settings combination) delivery.reception.packet

def Delivery.row : Row where
  totalNumber := k * settings.numberOfMessages.toNat + delivery.number
  identifier := asciiText (delivery.identifier settings combination)
  rssi := delivery.reception.rssi
  snr := delivery.reception.snr
  bitErrors := (delivery.bitErrors settings combination % 256 : Nat)

theorem asciiText_toList (bytes : List Byte) :
    (asciiText bytes).toList = bytes.map fun byte => Char.ofNat byte.toNat := String.toList_ofList

theorem ofNat_byte (byte : Byte) : (Char.ofNat byte.toNat).toNat = byte.toNat := by
  have small := byte.isLt
  rw [Char.ofNat, dif_pos (.inl (by omega))]
  rfl

theorem asciiText_size (bytes : List Byte) :
    ((javaText (asciiText bytes)).map JavaChar.size).sum = bytes.length := by
  rw [javaText, asciiText_toList]
  induction bytes with
  | nil => rfl
  | cons byte rest ih =>
    have small : (Char.ofNat byte.toNat).val < 0x10000 := by
      have bound := byte.isLt
      have value : (Char.ofNat byte.toNat).val.toNat = byte.toNat := ofNat_byte byte
      rw [UInt32.lt_iff_toNat_lt, value]
      exact Nat.lt_trans bound (by decide)
    simp only [List.map_cons, List.sum_cons, JavaChar.size, small, if_true, ih, List.length_cons]
    omega

def Delivery.logged : LoggedRow where
  totalNumber := BitVec.ofNat 32 (k * settings.numberOfMessages.toNat + delivery.number)
  identifier := javaText (asciiText (delivery.identifier settings combination))
  rssi := BitVec.ofInt 8 (-delivery.reception.rssi)
  snr := BitVec.ofInt 8 delivery.reception.snr
  bitErrors := BitVec.ofNat 8 (delivery.bitErrors settings combination)
  ten := by simp [asciiText_size, Delivery.identifier]

end

section

variable {settings : Settings} {delay k : Nat} {combination : Combination} {delivery : Delivery}

/-- The header of a message consists of digits and an underscore, the tens possibly
behind the digits. -/
theorem messageByte_range (valid : combination.Valid) (length n : Nat) (front : position < 9) :
    48 ≤ (messageByte combination length n position).toNat ∧
      (messageByte combination length n position).toNat ≤ 95 := by
  obtain ⟨frequency, bandwidth, datarate, codingRate, power⟩ := valid
  interval_cases position <;>
    simp only [messageByte, digitByte, hundredsByte, tensByte, onesByte, underscore, BitVec.toNat_ofNat,
      BitVec.reduceToNat] <;>
    omega

theorem identifier_range (valid : combination.Valid)
    (member : byte ∈ delivery.identifier settings combination) : 48 ≤ byte.toNat ∧ byte.toNat < 128 := by
  rcases List.mem_append.mp member with header | flag
  · obtain ⟨position, inside, rfl⟩ := List.mem_map.mp header
    obtain ⟨low, high⟩ := messageByte_range valid settings.msgLength.toNat delivery.number
      (List.mem_range.mp inside)
    omega
  · rw [List.mem_singleton.mp flag]
    split <;> decide

/-- Only the flag of a damaged packet is an `f`. -/
theorem identifier_flag (valid : combination.Valid) :
    (delivery.row settings k combination).identifier.contains 'f' =
      delivery.damaged settings combination := by
  have header : 'f' ∉ ((List.range 9).map
      (messageByte combination settings.msgLength.toNat delivery.number)).map
      fun byte => Char.ofNat byte.toNat := by
    intro member
    obtain ⟨byte, known, same⟩ := List.mem_map.mp member
    obtain ⟨position, inside, rfl⟩ := List.mem_map.mp known
    have value := congrArg Char.toNat same
    rw [ofNat_byte] at value
    obtain ⟨-, high⟩ := messageByte_range valid settings.msgLength.toNat delivery.number
      (List.mem_range.mp inside)
    have code : 'f'.toNat = 102 := rfl
    omega
  have flags : 'f' = Char.ofNat falseFlag.toNat ∧ 'f' ≠ Char.ofNat correctFlag.toNat := by decide
  rw [String.contains_char_eq, Delivery.row, asciiText_toList, Delivery.identifier, List.map_append,
    List.map_singleton]
  cases delivery.damaged settings combination
  · simpa [flags.2] using header
  · simp [← flags.1]

theorem Delivery.Sound.msgNumber (sound : delivery.Sound settings delay k combination)
    (positive : 1 ≤ settings.timeBetween.toNat) :
    Firmware.msgNumber settings ldiv0 (decide (k = 0)) delay (1000 + delivery.time) = delivery.number := by
  have few := settings.numberOfMessages.isLt
  have inside := sound.inside
  obtain ⟨after, later⟩ : ∃ after, delivery.time = numberingStart k delay + after :=
    ⟨delivery.time - numberingStart k delay, by have := sound.early; omega⟩
  have early := sound.early
  have late := sound.late
  rw [later] at early late ⊢
  have quotient : after / period settings = delivery.number := Nat.div_eq_of_lt_le (by omega) (by omega)
  rw [msgNumber_late positive, quotient, Nat.mod_eq_of_lt (by omega)]

theorem Delivery.Sound.packet_getElem? (sound : delivery.Sound settings delay k combination)
    (long : 11 ≤ settings.msgLength.toNat) (front : position < 9) : delivery.reception.packet[position]? =
      some (messageByte combination settings.msgLength.toNat delivery.number position) := by
  have header := congrArg (·[position]?) sound.header
  simp only [List.getElem?_take_of_lt front] at header
  rw [header, Delivery.sent, message_getElem? (by omega)]

/-- The fields the statistics and the record of a delivered packet carry. -/
def Delivery.statistics (settings : Settings) (combination : Combination) (delivery : Delivery) :
    Fields String :=
  .statistics ("-" ++ toString ((BitVec.ofInt 8 (-delivery.reception.rssi)).toNat : Int))
    (Java.byteToString (BitVec.ofInt 8 delivery.reception.snr))
    (toString ((BitVec.ofNat 8 (delivery.bitErrors settings combination)).toNat : Int))

def Delivery.message (settings : Settings) (k : Nat) (combination : Combination) (delivery : Delivery) :
    Fields String :=
  .message (toString (delivery.row settings k combination).totalNumber)
    (delivery.row settings k combination).identifier

/-- What the phone makes of the two notifications of a delivered packet. -/
theorem Delivery.Sound.events (sound : delivery.Sound settings delay k combination)
    (long : 11 ≤ settings.msgLength.toNat) (positive : 1 ≤ settings.timeBetween.toNat)
    (hundred : settings.numberOfMessages.toNat ≤ 100) (few : k < 128)
    (found : settings.combinations[k]? = some combination) (ascii : DecodesAscii decode)
    (observed : handlings settings ldiv0 delay config inputs = some packets) (member : handling ∈ packets)
    (arrival : handling.arrival = (k, delivery.time, delivery.reception)) :
    handling.notifications.filterMap
        (resultEvent decode (BitVec.ofInt 32 settings.numberOfMessages.toNat)) =
      [some (delivery.statistics settings combination), some (delivery.message settings k combination)] := by
  simp only [Handling.arrival, Prod.mk.injEq] at arrival
  obtain ⟨rfl, time, reception⟩ := arrival
  obtain ⟨data, record, reported, compared, notified⟩ := (handlings_taken observed member).1.notified
  obtain ⟨same, found', content⟩ := handlings_compared long observed member compared
  obtain rfl : combination = same := Option.some.inj (found.symm.trans found')
  have number : record.number = delivery.number := by
    rw [reported.number, time, sound.msgNumber positive]
  rw [number] at content
  have inside := sound.inside
  have valid := combination_valid settings (List.mem_of_getElem? found)
  have expected : data.toList.take settings.msgLength.toNat = delivery.sent settings combination := content
  rw [reception] at notified
  have errors := bitErrors_beside handling.before data sound.whole
  rw [expected] at errors
  have received : (overwrite handling.before.transmissionData delivery.reception.packet).toList.take
      settings.msgLength.toNat = delivery.reception.packet := by
    rw [← sound.whole]
    exact overwrite_take _ (by rw [sound.whole]; exact msgLength_fits settings)
  have flag : record.bytes[9]? =
      some (if delivery.damaged settings combination then falseFlag else correctFlag) := by
    rw [reported.flag, reception, ReceiverState.sameContent]
    simp only [ReceiverState.beside, expected, received, Delivery.damaged, eq_comm (a := delivery.sent _ _)]
    by_cases intact : delivery.reception.packet = delivery.sent settings combination
    · simp [intact]
    · simp [intact]
  obtain ⟨message, bytes⟩ := reported.reports.message
  have front : record.bytes.take 10 = delivery.identifier settings combination := by
    apply List.ext_getElem?
    intro position
    rcases Nat.lt_trichotomy position 9 with header | rfl | beyond
    · rw [List.getElem?_take_of_lt (by omega), reported.front position header, reception,
        overwrite_front _ (by rw [sound.whole]; omega) (Nat.lt_trans header (by decide)),
        sound.packet_getElem? long header, Delivery.identifier,
          List.getElem?_append_left (by simpa using header)]
      simp [header]
    · rw [List.getElem?_take_of_lt (by decide), flag]
      rfl
    · rw [List.getElem?_eq_none (by simp; omega),
        List.getElem?_eq_none (by simp [Delivery.identifier]; omega)]
  have logged := resultEvent_record ascii message
    (by rw [← bytes, front]; exact fun byte known => (identifier_range valid known).2)
    (bytes ▸ reported.reports.iterationByte) (bytes ▸ reported.reports.numberByte)
    (show (1 : Int) ≤ settings.numberOfMessages.toNat by omega) (by omega)
  rw [← bytes, front, number, byte_toInt few, byte_toInt (by omega)] at logged
  rw [notified, List.filterMap_cons, resultEvent_statistics, List.filterMap_cons, logged, errors,
    Int.add_comm]
  rfl

end

end LoraEval.Experiment

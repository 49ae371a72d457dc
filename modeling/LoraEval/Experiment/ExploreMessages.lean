import LoraEval.App.ExploreScreens
import LoraEval.Firmware.ExploreMessage

/-! A text of the explore mode on its way from the sending screen to the receiving
one: the sending board puts it into an array that is one byte too short for the
delimiter and sends what lies behind the array as filler. -/

namespace LoraEval.Experiment

open LoraEval.Core LoraEval.Firmware LoraEval.App

/-- Every access of `send_command_cb` to `data` is inside `char data[len]`. -/
def InsideData (written memory : List Byte) : Prop :=
  ∀ index ∈ (sendData written memory).2, index < written.length

def TextTransmitted (written memory : List Byte) : Prop :=
  ∃ filler, (sendData written memory).1 = written ++ delimiter :: filler

/-- The receiving screen shows the text when the packet arrives unaltered. -/
def TextShown (written memory : List Byte) (buffer : Vector Byte maxDataLen) (rssi snr : Int) : Prop :=
  ∃ data notifications,
    receiveLora buffer ⟨(sendData written memory).1, rssi, snr⟩ = some (data, notifications) ∧
      shownMessages notifications = [written]

def ArrivesAsTyped (written memory : List Byte) (buffer : Vector Byte maxDataLen) (rssi snr : Int) : Prop :=
  InsideData written memory ∧ TextTransmitted written memory ∧ TextShown written memory buffer rssi snr

def filler (written memory : List Byte) : List Byte := (memory.take maxDataLen).drop (written.length + 1)

theorem insideData_never (room : written.length < memory.length) : ¬ InsideData written memory := by
  intro inside
  have last := inside written.length (by simp [sendData, fillData_eq room])
  omega

/-- A text that leaves room for the delimiter is transmitted with it. -/
theorem sendData_short (room : written.length < memory.length) (short : written.length < maxDataLen) :
    (sendData written memory).1 = written ++ delimiter :: filler written memory := by
  obtain ⟨rest, size⟩ := Nat.exists_eq_add_of_lt short
  have behind : maxDataLen - written.length = rest + 1 := by omega
  rw [sendData, fillData_eq room, List.take_append, List.take_of_length_le (Nat.le_of_lt short), behind,
    List.take_succ_cons, filler, List.drop_take, show maxDataLen - (written.length + 1) = rest by omega]

theorem sendData_long (room : written.length < memory.length) (long : maxDataLen ≤ written.length) :
    (sendData written memory).1 = written.take maxDataLen := by
  rw [sendData, fillData_eq room, List.take_append_of_le_length long]

theorem textTransmitted_iff (room : written.length < memory.length) :
    TextTransmitted written memory ↔ written.length < maxDataLen := by
  constructor
  · rintro ⟨filler, sent⟩
    have size := congrArg List.length sent
    have most : (sendData written memory).1.length ≤ maxDataLen := List.length_take_le _ _
    rw [List.length_append, List.length_cons] at size
    omega
  · intro short
    exact ⟨filler written memory, sendData_short room short⟩

theorem sendData_length (room : written.length < memory.length) (enough : maxDataLen ≤ memory.length) :
    (sendData written memory).1.length = maxDataLen := by
  rw [sendData, fillData_eq room, List.length_take, List.length_append, List.length_cons, List.length_drop]
  omega

theorem sendData_first (plain : text.head? ≠ some (.code '&'))
    (room : (getBytes text).length < memory.length) :
    ∃ first rest, (sendData (getBytes text) memory).1 = first :: rest ∧ first.toNat < 248 ∧ first ≠ 38 := by
  obtain ⟨first, rest, start, bound, other⟩ :=
    getBytes_first plain (memory.drop ((getBytes text).length + 1))
  refine ⟨first, rest.take 19, ?_, bound, other⟩
  rw [sendData, fillData_eq room, start]
  rfl

/-- The receiving screen shows the packet up to its last delimiter. -/
theorem textShown_iff (plain : text.head? ≠ some (.code '&'))
    (room : (getBytes text).length < memory.length) (enough : maxDataLen ≤ memory.length)
    (buffer : Vector Byte maxDataLen) (rssi snr : Int) :
    TextShown (getBytes text) memory buffer rssi snr ↔
      filterContent (sendData (getBytes text) memory).1 = getBytes text := by
  obtain ⟨first, rest, start, bound, other⟩ := sendData_first plain room
  have full := sendData_length room enough
  rw [start] at full
  have message : (first :: rest)[0]? ≠ some 38 := by simpa using other
  obtain ⟨data, received⟩ := receiveLora_eq buffer full message rssi snr
  have shown := shownMessages_message bound (BitVec.ofInt 8 (-rssi)) (BitVec.ofInt 8 snr) rest
  unfold TextShown
  rw [start, received]
  constructor
  · rintro ⟨_, _, same, texts⟩
    obtain ⟨-, rfl⟩ := Prod.mk.inj (Option.some.inj same)
    rw [shown] at texts
    exact List.singleton_inj.mp texts
  · intro kept
    exact ⟨data, _, rfl, by rw [shown, kept]⟩

/-- No text arrives as typed with all accesses inside the array: the delimiter is
always written behind it. The packet is well formed exactly for texts of fewer than
20 bytes, and shown as typed exactly when moreover no filler byte is a delimiter. -/
theorem explore_message_arrives (accepted : sendOrPing ready text = some written)
    (plain : text.head? ≠ some (.code '&')) (room : written.length < memory.length)
    (enough : maxDataLen ≤ memory.length) (buffer : Vector Byte maxDataLen) (rssi snr : Int) :
    ¬ ArrivesAsTyped written memory buffer rssi snr ∧
      (TextTransmitted written memory ↔ written.length < maxDataLen) ∧
      (TextShown written memory buffer rssi snr ↔
        written.length < maxDataLen ∧ delimiter ∉ filler written memory) := by
  obtain ⟨-, -, rfl⟩ := sendOrPing_eq_some.mp accepted
  refine ⟨fun arrives => insideData_never room arrives.1, textTransmitted_iff room, ?_⟩
  rw [textShown_iff plain room enough]
  by_cases short : (getBytes text).length < maxDataLen
  · rw [sendData_short room short, filterContent_ended_iff]
    simp [short]
  · have long : maxDataLen ≤ (getBytes text).length := Nat.le_of_not_lt short
    have full := sendData_length room enough
    rw [sendData_long room long] at full ⊢
    have fewer := filterContent_length_lt ((getBytes text).take maxDataLen)
      (by intro none; rw [none] at full; exact absurd full (by decide))
    refine iff_of_false ?_ (fun ended => short ended.1)
    intro kept
    rw [kept] at fewer
    omega

/-- "Hi" with zeros behind the array is transmitted and shown. -/
theorem explore_message_arrives_hi :
    ¬ ArrivesAsTyped [72, 105] (List.replicate 20 0) (Vector.replicate 20 0) (-40) 9 ∧
      TextTransmitted [72, 105] (List.replicate 20 0) ∧
      TextShown [72, 105] (List.replicate 20 0) (Vector.replicate 20 0) (-40) 9 := by
  have accepted : sendOrPing true (javaText "Hi") = some [72, 105] := by decide
  obtain ⟨never, transmitted, shown⟩ := explore_message_arrives accepted (by decide)
    (show _ < (List.replicate 20 (0 : Byte)).length by decide) (by decide) (Vector.replicate 20 0) (-40) 9
  exact ⟨never, transmitted.mpr (by decide), shown.mpr (by decide)⟩

/-- "Hi" with a full stop three bytes behind the array: the delimiter is written to
index 2 of a two byte array, and the screen shows more than the text. Ten times the
letter "ä" fill the packet, and nothing is shown. -/
theorem explore_message_spoiled :
    sendOrPing true (javaText "Hi") = some [72, 105] ∧
      2 ∈ (sendData [72, 105] ([0, 0, 0, 0, 0, delimiter] ++ List.replicate 14 0)).2 ∧
      ¬ TextShown [72, 105] ([0, 0, 0, 0, 0, delimiter] ++ List.replicate 14 0)
        (Vector.replicate 20 0) (-40) 9 ∧
      ¬ TextTransmitted (getBytes (List.replicate 10 (.code 'ä'))) (List.replicate 21 0) ∧
      ¬ ArrivesAsTyped [72, 105] ([0, 0, 0, 0, 0, delimiter] ++ List.replicate 14 0)
        (Vector.replicate 20 0) (-40) 9 := by
  refine ⟨by decide, by decide, ?_, ?_, fun arrives => insideData_never (by decide) arrives.1⟩
  · intro shown
    have text : getBytes (javaText "Hi") = [72, 105] := by decide
    rw [← text, textShown_iff (by decide) (by decide) (by decide)] at shown
    exact absurd shown (by decide)
  · intro transmitted
    exact absurd ((textTransmitted_iff (by decide)).mp transmitted) (by decide)

end LoraEval.Experiment

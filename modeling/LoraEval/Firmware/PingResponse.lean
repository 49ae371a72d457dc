import LoraEval.Firmware.ExploreMessage

/-! The answer to a ping (`wait_for_ping_return` of both boards). `lora_recv` may copy
`MAX_DATA_LEN` bytes, whatever the size of the response array; the model keeps the
memory from the start of the array and the indices that are written. -/

namespace LoraEval.Firmware

open LoraEval.Core

/-- `sx12xx_lora_recv` with a packet: the bytes beyond `size` are dropped. -/
def loraRecv (size : Nat) (packet memory : List Byte) : DataArray :=
  let rxLen := if packet.length > size then size else packet.length
  ⟨packet.take rxLen ++ memory.drop rxLen, List.range rxLen⟩

/-- The notification of a ping and the indices of `resp` that were written. -/
structure PingOutcome where
  notified : Int
  written : List Nat
deriving DecidableEq, Repr

/-- Receive into `char resp[respLen] = {0}` and compare `pingLen` bytes. Without an
answer the notification is `timeout`. -/
def awaitPing (respLen : Nat) (ping : List Byte) (pingLen : Nat) (timeout : Int) (behind : List Byte)
    (response : Option (List Byte)) : PingOutcome :=
  match response with
  | none => ⟨timeout, []⟩
  | some packet =>
    let resp := loraRecv maxDataLen packet (List.replicate respLen 0 ++ behind)
    ⟨if ping.take pingLen = resp.memory.take pingLen then -3 else -4, resp.accesses⟩

/-- `char ping[5]` of the receiver. -/
def receiverPing : List Byte := [33, 112, 105, 110, 103]

/-- The array `resp` of the receiver. -/
abbrev receiverRespLen : Nat := 5

/-- `wait_for_ping_return` of `lres.c`. -/
def receiverPingReturn (behind : List Byte) (response : Option (List Byte)) : PingOutcome :=
  awaitPing receiverRespLen receiverPing 5 (-7) behind response

/-- `ping_content` and `ping_len` of `lses.c`. -/
structure SentPing where
  pingContent : Vector Byte maxDataLen
  pingLen : Nat

/-- The end of `send_command_cb`, which keeps the content of a ping. More bytes than
`ping_content` holds are a failure. -/
def keepPing (written memory : List Byte) (sent : SentPing) : Option SentPing :=
  if written.head? ≠ some 38 then some sent
  else if written.length ≤ maxDataLen then
    some ⟨overwrite sent.pingContent ((fillData written memory).memory.take written.length), written.length⟩
  else none

/-- `wait_for_ping_return` of `lses.c`. -/
def senderPingReturn (sent : SentPing) (behind : List Byte) (response : Option (List Byte)) : PingOutcome :=
  awaitPing maxDataLen sent.pingContent.toList sent.pingLen (-5) behind response

/-- The verdict on a response is right, and the response was stored inside `resp`. -/
structure PingOutcome.Right (respLen : Nat) (content response : List Byte) (outcome : PingOutcome) :
    Prop where
  verdict : outcome.notified = if content <+: response then -3 else -4
  inside : ∀ index ∈ outcome.written, index < respLen

theorem loraRecv_front (packet behind : List Byte) (small : count ≤ size) (fits : count ≤ respLen) :
    (loraRecv size packet (List.replicate respLen 0 ++ behind)).memory.take count =
      (packet ++ List.replicate count 0).take count := by
  apply List.ext_getElem?
  intro i
  by_cases inside : i < count
  · rw [List.getElem?_take_of_lt inside, List.getElem?_take_of_lt inside, loraRecv]
    dsimp only
    by_cases held : i < packet.length
    · rw [List.getElem?_append_left held, List.getElem?_append_left (by simp; split <;> omega),
        List.getElem?_take_of_lt (by split <;> omega)]
    · have whole : ¬ packet.length > size := by omega
      rw [if_neg whole, List.take_length, List.getElem?_append_right (by omega), List.getElem?_drop,
        Nat.add_sub_cancel' (by omega), List.getElem?_append_left (by simp; omega),
        List.getElem?_append_right (by omega), List.getElem?_replicate_of_lt (by omega),
        List.getElem?_replicate_of_lt (by omega)]
  · rw [List.getElem?_take_eq_none (by omega), List.getElem?_take_eq_none (by omega)]

theorem padded_eq_iff (content response : List Byte) :
    content = (response ++ List.replicate content.length 0).take content.length ↔
      content <+: response ∨ ∃ n, 0 < n ∧ content = response ++ List.replicate n 0 := by
  by_cases long : content.length ≤ response.length
  · have longer : ¬ ∃ n, 0 < n ∧ content = response ++ List.replicate n 0 := by
      rintro ⟨n, positive, same⟩
      have size := congrArg List.length same
      rw [List.length_append, List.length_replicate] at size
      omega
    rw [List.take_append_of_le_length long, List.prefix_iff_eq_take]
    simp only [longer, or_false]
  · have cut : (response ++ List.replicate content.length (0 : Byte)).take content.length =
        response ++ List.replicate (content.length - response.length) 0 := by
      rw [List.take_append, List.take_of_length_le (by omega), List.take_replicate,
        Nat.min_eq_left (by omega)]
    rw [cut]
    constructor
    · intro same
      exact .inr ⟨_, by omega, same⟩
    · rintro (starts | ⟨n, -, same⟩)
      · exact absurd starts.length_le long
      · have size := congrArg List.length same
        rw [List.length_append, List.length_replicate] at size
        rw [size, Nat.add_sub_cancel_left]
        exact same

/-- The outcome is right exactly if the response is no longer than the array, or the
array takes all of `MAX_DATA_LEN`, and the content is not the response with zeros. -/
theorem awaitPing_right_iff (content behind response : List Byte) (short : content.length ≤ maxDataLen)
    (fits : content.length ≤ respLen) (timeout : Int) :
    (awaitPing respLen content content.length timeout behind (some response)).Right respLen content response ↔
      (response.length ≤ respLen ∨ maxDataLen ≤ respLen) ∧
        ∀ n, 0 < n → content ≠ response ++ List.replicate n 0 := by
  have longer (n : Nat) (positive : 0 < n) (same : content = response ++ List.replicate n 0) :
      ¬ content <+: response := by
    intro starts
    have size := congrArg List.length same
    have most := starts.length_le
    rw [List.length_append, List.length_replicate] at size
    omega
  have compared : content.take content.length =
      (loraRecv maxDataLen response (List.replicate respLen 0 ++ behind)).memory.take content.length ↔
        content <+: response ∨ ∃ n, 0 < n ∧ content = response ++ List.replicate n 0 := by
    rw [List.take_length, loraRecv_front response behind short fits, padded_eq_iff]
  have stored : (∀ index ∈ (loraRecv maxDataLen response (List.replicate respLen 0 ++ behind)).accesses,
      index < respLen) ↔ response.length ≤ respLen ∨ maxDataLen ≤ respLen := by
    have covered (count : Nat) : (∀ index < count, index < respLen) ↔ count ≤ respLen :=
      ⟨fun all => Nat.le_of_not_lt fun beyond => Nat.lt_irrefl respLen (all respLen beyond),
        fun room index inside => Nat.lt_of_lt_of_le inside room⟩
    simp only [loraRecv, List.mem_range]
    rw [covered]
    split <;> omega
  constructor
  · rintro ⟨verdict, inside⟩
    refine ⟨stored.mp inside, fun n positive same => ?_⟩
    rw [if_neg (longer n positive same), awaitPing] at verdict
    dsimp only at verdict
    rw [if_pos (compared.mpr (.inr ⟨n, positive, same⟩))] at verdict
    exact absurd verdict (by decide)
  · rintro ⟨room, different⟩
    refine ⟨?_, stored.mpr room⟩
    have exact : ¬ ∃ n, 0 < n ∧ content = response ++ List.replicate n 0 :=
      fun ⟨n, positive, same⟩ => different n positive same
    rw [awaitPing]
    dsimp only
    simp only [compared, exact, or_false]

theorem receiverPing_unpadded (response : List Byte) (positive : 0 < n) :
    receiverPing ≠ response ++ List.replicate n 0 := by
  intro same
  have last : (response ++ List.replicate n (0 : Byte)).getLast? = some 0 := by
    rw [List.getLast?_append, List.getLast?_replicate, if_neg (by omega), Option.some_or]
  rw [← same] at last
  exact absurd last (by decide)

theorem keepPing_eq (start : written.head? = some 38) (short : written.length ≤ maxDataLen)
    (room : written.length < memory.length) (sent : SentPing) :
    ∃ kept, keepPing written memory sent = some kept ∧ kept.pingLen = written.length ∧
      kept.pingContent.toList.take written.length = written := by
  have copied : (fillData written memory).memory.take written.length = written := by
    rw [fillData_eq room, List.take_left]
  refine ⟨⟨overwrite sent.pingContent written, written.length⟩, ?_, rfl, overwrite_take _ short⟩
  rw [keepPing, if_neg (not_not.mpr start), if_pos short, copied]

theorem senderPingReturn_eq {kept : SentPing} (size : kept.pingLen = written.length)
    (content : kept.pingContent.toList.take written.length = written) (behind : List Byte)
    (response : Option (List Byte)) :
    senderPingReturn kept behind response =
      awaitPing maxDataLen written written.length (-5) behind response := by
  rw [senderPingReturn, size]
  cases response with
  | none => rfl
  | some packet => simp only [awaitPing, content, List.take_length]

end LoraEval.Firmware

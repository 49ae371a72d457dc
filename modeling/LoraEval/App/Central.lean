import LoraEval.App.Number
import LoraEval.Firmware.Notification

/-! How the app routes a notification of a board (`Central.onCharacteristicChanged`):
the first byte decides, although in a message record it is radio data. -/

namespace LoraEval.App

open LoraEval.Core LoraEval.Firmware

inductive Device where
  | sender
  | receiver
deriving DecidableEq, Repr

/-- The broadcasts a notification can lead to. -/
inductive Broadcast where
  | general (code : Int)
  | rssiSnr (bytes : List Byte)
  | message (bytes : List Byte)
deriving DecidableEq, Repr

/-- The loop of `filterContent`: the last position of the delimiter, or 0. -/
def lastDelimiter (msg : List Byte) : Nat :=
  (List.range msg.length).foldl (fun index i => if msg[i]? = some delimiter then i else index) 0

def filterContent (msg : List Byte) : List Byte := msg.take (lastDelimiter msg)

/-- `onCharacteristicChanged`: bytes are signed, and an empty notification is an
index exception. -/
def onCharacteristicChanged (device : Device) (bytes : List Byte) :
    Except Java.Exception (Option Broadcast) :=
  match bytes with
  | [] => .error .indexOutOfBounds
  | first :: _ =>
    if first.toInt = -2 then .ok (some (.general (-2)))
    else if first.toInt = -3 ∨ first.toInt = -4 ∨ first.toInt = -5 ∨ first.toInt = -6 then
      .ok (some (.general first.toInt))
    else match device with
      | .sender => .ok none
      | .receiver =>
        if first.toInt = -1 then .ok (some (.rssiSnr bytes))
        else .ok (some (.message (filterContent bytes)))

/-- A notification reaches the handler of its kind: a status code with its value,
statistics as they are, a message record with the twelve bytes the handler reads. -/
def RoutedAsSent (notification : Notification) : Prop :=
  match notification with
  | .status code _ =>
    onCharacteristicChanged .receiver notification.bytes = .ok (some (.general code))
  | .statistics _ _ _ =>
    onCharacteristicChanged .receiver notification.bytes = .ok (some (.rssiSnr notification.bytes))
  | .message record => ∃ content,
    onCharacteristicChanged .receiver notification.bytes = .ok (some (.message content)) ∧
      12 ≤ content.length ∧ content.take 12 = record.bytes.take 12

/-- The notifications the first byte tells apart: every status code but -7, and
message records that do not start with a byte from -6 to -1. -/
def Distinguishable (notification : Notification) : Prop :=
  match notification with
  | .status code _ => code ≠ -7
  | .statistics _ _ _ => True
  | .message record => ∀ first, record.bytes.head? = some first → first.toInt < -6 ∨ 0 ≤ first.toInt

private theorem delimiter_fold (msg : List Byte) (count : Nat) :
    let index := (List.range count).foldl
      (fun index i => if msg[i]? = some delimiter then i else index) 0
    (index ≤ count ∧ ∀ i < count, msg[i]? = some delimiter → i ≤ index) ∧
      (index = 0 ∨ msg[index]? = some delimiter) := by
  induction count with
  | zero => simp
  | succ count ih =>
    rw [List.range_succ, List.foldl_append]
    simp only [List.foldl_cons, List.foldl_nil]
    split
    · rename_i found
      exact ⟨⟨by omega, fun i inside _ => by omega⟩, .inr found⟩
    · rename_i other
      obtain ⟨⟨inside, last⟩, reached⟩ := ih
      refine ⟨⟨Nat.le_succ_of_le inside, ?_⟩, reached⟩
      intro i inside found
      have before : i ≠ count := by
        rintro rfl
        exact other found
      exact last i (by omega) found

theorem lastDelimiter_bounds (msg : List Byte) : lastDelimiter msg ≤ msg.length ∧
    ∀ i, msg[i]? = some delimiter → i ≤ lastDelimiter msg := by
  obtain ⟨⟨inside, last⟩, -⟩ := delimiter_fold msg msg.length
  exact ⟨inside, fun i found => last i (List.getElem?_eq_some_iff.mp found).1 found⟩

theorem lastDelimiter_reached (msg : List Byte) :
    lastDelimiter msg = 0 ∨ msg[lastDelimiter msg]? = some delimiter :=
  (delimiter_fold msg msg.length).2

/-- A message behind which only other bytes follow is cut at its own delimiter. -/
theorem filterContent_ended_iff (text filler : List Byte) :
    filterContent (text ++ delimiter :: filler) = text ↔ delimiter ∉ filler := by
  obtain ⟨inside, last⟩ := lastDelimiter_bounds (text ++ delimiter :: filler)
  have behind (i : Nat) : (text ++ delimiter :: filler)[text.length + 1 + i]? = filler[i]? := by
    rw [List.getElem?_append_right (by omega), show text.length + 1 + i - text.length = i + 1 by omega,
      List.getElem?_cons_succ]
  constructor
  · intro kept member
    obtain ⟨i, found⟩ := List.mem_iff_getElem?.mp member
    have later := last (text.length + 1 + i) (by rw [behind, found])
    have size := congrArg List.length kept
    rw [filterContent, List.length_take] at size
    omega
  · intro clean
    have own : text.length ≤ lastDelimiter (text ++ delimiter :: filler) := last text.length (by simp)
    have same : lastDelimiter (text ++ delimiter :: filler) = text.length := by
      by_contra different
      rcases lastDelimiter_reached (text ++ delimiter :: filler) with none | found
      · omega
      · have later : text.length + 1 ≤ lastDelimiter (text ++ delimiter :: filler) := by omega
        obtain ⟨i, place⟩ := Nat.exists_eq_add_of_le later
        rw [place, behind] at found
        exact clean (List.mem_of_getElem? found)
    rw [filterContent, same, List.take_left]

theorem filterContent_length_lt (msg : List Byte) (nonempty : msg ≠ []) :
    (filterContent msg).length < msg.length := by
  have positive : 0 < msg.length := List.length_pos_of_ne_nil nonempty
  rw [filterContent, List.length_take]
  rcases lastDelimiter_reached msg with none | found
  · omega
  · have bound : lastDelimiter msg < msg.length := (List.getElem?_eq_some_iff.mp found).1
    omega

/-- Filtering a message record keeps at least its first twelve bytes. -/
theorem filterContent_record (record : MessageRecord) :
    12 ≤ (filterContent record.bytes).length ∧
      (filterContent record.bytes).take 12 = record.bytes.take 12 := by
  obtain ⟨inside, last⟩ := lastDelimiter_bounds record.bytes
  have cut : 12 ≤ lastDelimiter record.bytes := last 12 record.ended
  rw [filterContent, List.length_take, List.take_take]
  exact ⟨by omega, by rw [Nat.min_eq_left cut]⟩

theorem onCharacteristicChanged_cons (first : Byte) (rest : List Byte) :
    onCharacteristicChanged .receiver (first :: rest) =
      if -6 ≤ first.toInt ∧ first.toInt ≤ -2 then .ok (some (.general first.toInt))
      else if first.toInt = -1 then .ok (some (.rssiSnr (first :: rest)))
      else .ok (some (.message (filterContent (first :: rest)))) := by
  unfold onCharacteristicChanged
  by_cases two : first.toInt = -2
  · simp [two]
  · by_cases code : first.toInt = -3 ∨ first.toInt = -4 ∨ first.toInt = -5 ∨ first.toInt = -6
    · have inside : -6 ≤ first.toInt ∧ first.toInt ≤ -2 := by omega
      simp only [two, code, inside, if_false, if_true, and_self]
    · have outside : ¬ (-6 ≤ first.toInt ∧ first.toInt ≤ -2) := by omega
      simp only [two, code, outside, if_false]

private theorem statusCode_toInt (known : code ∈ statusCodes) : (BitVec.ofInt 8 code).toInt = code := by
  simp only [statusCodes, List.mem_cons, List.not_mem_nil, or_false] at known
  rcases known with rfl | rfl | rfl | rfl | rfl | rfl <;> decide

/-- A notification of the receiver is routed as the kind it was sent as exactly
when its first byte tells it apart. -/
theorem routedAsSent_iff (notification : Notification) :
    RoutedAsSent notification ↔ Distinguishable notification := by
  cases notification with
  | status code known =>
    have range : -7 ≤ code ∧ code ≤ -2 := by
      simp only [statusCodes, List.mem_cons, List.not_mem_nil, or_false] at known
      omega
    simp only [RoutedAsSent, Distinguishable, Notification.bytes, onCharacteristicChanged_cons,
      statusCode_toInt known]
    by_cases seven : code = -7
    · simp [seven]
    · have inside : -6 ≤ code ∧ code ≤ -2 := by omega
      simp [seven, inside]
  | statistics rssi snr bitErrors =>
    simp [RoutedAsSent, Distinguishable, Notification.bytes, onCharacteristicChanged_cons]
  | message record =>
    have filtered := filterContent_record record
    cases shape : record.bytes with
    | nil =>
      have size := record.size
      simp [shape, maxDataLen] at size
    | cons first rest =>
      rw [shape] at filtered
      simp only [RoutedAsSent, Distinguishable, Notification.bytes, shape, onCharacteristicChanged_cons,
        List.head?_cons, Option.some.injEq, forall_eq']
      constructor
      · rintro ⟨content, routed, -⟩
        by_contra inside
        split at routed
        · simp at routed
        · rw [if_pos (by omega)] at routed
          simp at routed
      · intro outside
        rw [if_neg (by omega), if_neg (by omega)]
        exact ⟨_, rfl, filtered⟩

/-- A packet whose first byte is -2 arrived: its record is taken for the
acknowledgement of a configuration. The failed ping is taken for a message. -/
theorem record_taken_for_status :
    ¬ RoutedAsSent (.status (-7) (by decide)) ∧
      ¬ RoutedAsSent (.message ⟨[-2, 48, 48, 48, 48, 95, 48, 48, 48, correctFlag, 0, 0, delimiter,
        0, 0, 0, 0, 0, 0, 0], rfl, .inl rfl, rfl⟩) := by
  constructor
  · intro routed
    have taken : onCharacteristicChanged .receiver [BitVec.ofInt 8 (-7)] = .ok (some (.general (-7))) :=
      routed
    exact absurd taken (by decide)
  · rintro ⟨content, routed, -⟩
    have general : onCharacteristicChanged .receiver [-2, 48, 48, 48, 48, 95, 48, 48, 48, correctFlag, 0,
        0, delimiter, 0, 0, 0, 0, 0, 0, 0] = .ok (some (.general (-2))) := by decide
    exact absurd (general.symm.trans routed) (by simp)

end LoraEval.App

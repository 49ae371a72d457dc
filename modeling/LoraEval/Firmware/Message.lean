import LoraEval.Firmware.Modem
import LoraEval.Firmware.Notification
import LoraEval.Core.Buffer

namespace LoraEval.Firmware

open LoraEval.Core

/-- The initialisers of `random_d` in `payloaddepot.h`. -/
def randomTable : List Int :=
  [96, -76, 32, -69, 56, 81, -39, -44, 122, -53, -109, 61, -66, 112, 57, -101, -10, -55, 45, -93,
    58, -16, 29, 79, -73, 112, -23, -116, 3, 37, -12, 29, 62, -70, -8, -104, 109, -89, 18, -56, 43,
    -51, 77, 85, 75, -16, -75, 64, 35, -62, -101, 98, 77, -23, -17, -100, 47, -109, 30, -4, 88, 15,
    -102, -5, 8, 27, 18, -31, 7, -79, -24, 5, -14, -76, -11, -16, -15, -48, 12, 45, 15, 98, 99, 70,
    112, -110, 28, 80, 88, 103, -1, 32, -10, -88, 51, 94, -104, -81, -121, 37, 56, 85, -122, -76,
    31, -17, -14, 5, -76, -32, 90, 0, 8, 35, -9, -117, 95, -113, 92, 2, 67, -100, -24, -10, 122,
    120, 29, -112, -53, -26, -65, 26, -25, -14, -68, 64, -92, -105, 9, -96, 108, 14, 49, 73, -101,
    -16, 41, 105, -54, 66, -46, 3, -27, 102, -68, -58, -106, -34, 8, -6, 1, 2, -96, -3, 46, 35, 48,
    -80, -106, 74, -69, 124, 68, 48, 32, -34, 28, -83, 9, -65, -42, 56, 31, -5, -108, -38, -81, -69,
    -112, -60, -19, -111, -96, 97, 58, -47, -36, 75, 71, 3]

/-- `uint8_t random_d[200]`. -/
def randomD : List Byte := randomTable.map (BitVec.ofInt 8)

theorem randomD_length : randomD.length = 200 := by
  rw [randomD, List.length_map]
  rfl

/-- `(char) value + 48` stored in a byte. -/
def digitByte (value : Nat) : Byte := BitVec.ofNat 8 (value + 48)

def underscore : Byte := 95

/-- Position of payload byte `p` of message `n` in the table. -/
def payloadIndex (length n p : Nat) : Nat := (n * (length - 9) + (p - 9)) % 200

def payloadByte (length n p : Nat) : Byte := randomD[payloadIndex length n p]?.getD 0

theorem payload_read (length n p : Nat) :
    randomD[payloadIndex length n p]? = some (payloadByte length n p) := by
  have inside : payloadIndex length n p < randomD.length := by
    rw [randomD_length]
    exact Nat.mod_lt _ (by decide)
  simp [payloadByte, inside]

/-- The three number bytes; the message number is cast to `char` first. -/
def hundredsByte (n : Nat) : Byte := digitByte (n % 256 / 100)
def tensByte (n : Nat) : Byte := digitByte (n % 256 / 10)
def onesByte (n : Nat) : Byte := digitByte (n % 256 % 10)

/-- Byte `position` of message `n` of a combination, for a given message length. -/
def messageByte (combination : Combination) (length n position : Nat) : Byte :=
  match position with
  | 0 => digitByte combination.frequency
  | 1 => digitByte combination.bandwidth
  | 2 => digitByte combination.datarate
  | 3 => digitByte combination.codingRate
  | 4 => digitByte combination.power
  | 5 => underscore
  | 6 => hundredsByte n
  | 7 => tensByte n
  | 8 => onesByte n
  | p => if p = length - 1 then delimiter else payloadByte length n p

def message (combination : Combination) (length n : Nat) : List Byte :=
  (List.range length).map (messageByte combination length n)

theorem message_length (combination : Combination) (length n : Nat) :
    (message combination length n).length = length := by
  simp [message]

theorem message_getElem? (inside : position < length) :
    (message combination length n)[position]? = some (messageByte combination length n position) := by
  simp [message, inside]

/-- A list of the right length with the message's bytes is the message. -/
theorem eq_message (size : bytes.length = length)
    (content : ∀ position < length, bytes[position]? = some (messageByte combination length n position)) :
    bytes = message combination length n := by
  apply List.ext_getElem?
  intro position
  by_cases inside : position < length
  · rw [content position inside, message_getElem? inside]
  · rw [List.getElem?_eq_none (by omega), List.getElem?_eq_none (by rw [message_length]; omega)]

private theorem digitByte_injective (small : first < 208) (small' : second < 208)
    (same : digitByte first = digitByte second) : first = second := by
  have values := congrArg BitVec.toNat same
  simp only [digitByte, BitVec.toNat_ofNat] at values
  omega

/-- Every position of a combination is a position of its value list. -/
structure Combination.Valid (combination : Combination) : Prop where
  frequency : combination.frequency < 8
  bandwidth : combination.bandwidth < 3
  datarate : combination.datarate < 6
  codingRate : combination.codingRate < 4
  power : combination.power < 8

theorem path_valid (settings : Settings) (member : path ∈ paths settings.levels) :
    path.length = 5 ∧ (Combination.ofPath path).Valid := by
  have related := mem_paths.mp member
  refine ⟨related.length_eq, ?_⟩
  match path, related with
  | [i, j, k, l, m], .cons ⟨first, _⟩ (.cons ⟨second, _⟩ (.cons ⟨third, _⟩ (.cons ⟨fourth, _⟩
      (.cons ⟨fifth, _⟩ .nil)))) =>
    exact ⟨List.mem_range.mp first, List.mem_range.mp second, List.mem_range.mp third,
      List.mem_range.mp fourth, List.mem_range.mp fifth⟩

theorem combination_valid (settings : Settings) (member : combination ∈ settings.combinations) :
    combination.Valid := by
  obtain ⟨path, chosen, rfl⟩ := List.mem_map.mp member
  exact (path_valid settings chosen).2

theorem levels_bound (settings : Settings) (found : settings.levels[offset]? = some level)
    (member : index ∈ level.indices) : offset < 5 ∧ index < 8 := by
  match offset with
  | 0 | 1 | 2 | 3 | 4 =>
    obtain rfl : _ = level := Option.some.inj found
    have bound := List.mem_range.mp member
    omega
  | offset + 5 => simp [Settings.levels] at found

/-- The first nine bytes identify the combination and the message number. -/
theorem message_header_injective {first second : Combination} (one : first.Valid) (two : second.Valid)
    (few : n < 100) (few' : n' < 100) (long : 9 ≤ length)
    (same : (message first length n).take 9 = (message second length n').take 9) :
    first = second ∧ n = n' := by
  have bytes (position : Nat) (inside : position < 9) :
      messageByte first length n position = messageByte second length n' position := by
    have read := congrArg (fun bytes : List Byte => bytes[position]?) same
    simp only [List.getElem?_take_of_lt inside] at read
    rw [message_getElem? (by omega), message_getElem? (by omega)] at read
    exact Option.some.inj read
  have frequency : first.frequency = second.frequency :=
    digitByte_injective (by have := one.frequency; omega) (by have := two.frequency; omega)
      (bytes 0 (by decide))
  have bandwidth : first.bandwidth = second.bandwidth :=
    digitByte_injective (by have := one.bandwidth; omega) (by have := two.bandwidth; omega)
      (bytes 1 (by decide))
  have datarate : first.datarate = second.datarate :=
    digitByte_injective (by have := one.datarate; omega) (by have := two.datarate; omega)
      (bytes 2 (by decide))
  have rate : first.codingRate = second.codingRate :=
    digitByte_injective (by have := one.codingRate; omega) (by have := two.codingRate; omega)
      (bytes 3 (by decide))
  have power : first.power = second.power :=
    digitByte_injective (by have := one.power; omega) (by have := two.power; omega)
      (bytes 4 (by decide))
  have tens : n % 256 / 10 = n' % 256 / 10 :=
    digitByte_injective (by omega) (by omega) (bytes 7 (by decide))
  have ones : n % 256 % 10 = n' % 256 % 10 :=
    digitByte_injective (by omega) (by omega) (bytes 8 (by decide))
  refine ⟨?_, by omega⟩
  cases first
  cases second
  simp_all

/-- A configuration and a message buffer set up for the loop indices entered so
far: the parameters are configured and the header bytes written. -/
structure Entered (path : List Nat) (config : LoraModemConfig) (buffer : Vector Byte size) : Prop where
  separator : buffer[5]? = some underscore
  params : Along config.HasParam path
  header : Along (fun level index => buffer[level]? = some (digitByte index)) path

/-- Entering one more level keeps what the outer levels have set up. -/
theorem Entered.extend {buffer : Vector Byte size} (entered : Entered path config buffer)
    (depth : path.length = level) (known : level < 5) (inside : index < 8) (room : 5 < size) :
    ∃ next bytes, config.setParam level index = some next ∧
      store buffer level (digitByte index) = some bytes ∧ Entered (path ++ [index]) next bytes ∧
      next.tx = config.tx := by
  subst level
  obtain ⟨next, assigned, holds, direction, others⟩ := config.setParam_spec known inside
  obtain ⟨bytes, stored, written, kept⟩ :=
    store_spec buffer (digitByte index) (show path.length < size by omega)
  refine ⟨next, bytes, assigned, stored, ⟨?_, entered.params.extend holds others, ?_⟩, direction⟩
  · rw [kept 5 (by omega)]
    exact entered.separator
  · refine entered.header.extend ?_ (fun other value different held => ?_)
    · exact written
    · rw [kept other different]
      exact held

theorem Entered.shorten {buffer : Vector Byte size}
    (entered : Entered (path ++ [index]) config buffer) : Entered path config buffer :=
  ⟨entered.separator, entered.params.shorten, entered.header.shorten⟩

/-- Bytes 0 to 5 of the buffer are those of every message of the combination. -/
theorem Entered.front {buffer : Vector Byte size} (entered : Entered path config buffer)
    (full : path.length = 5) (length n : Nat) (front : position < 6) :
    buffer[position]? = some (messageByte (Combination.ofPath path) length n position) := by
  match path with
  | [i, j, k, l, m] =>
    match position with
    | 0 => exact entered.header 0 i rfl
    | 1 => exact entered.header 1 j rfl
    | 2 => exact entered.header 2 k rfl
    | 3 => exact entered.header 3 l rfl
    | 4 => exact entered.header 4 m rfl
    | 5 => exact entered.separator

theorem Entered.keep {buffer next : Vector Byte size} (entered : Entered path config buffer)
    (short : path.length ≤ 5) (kept : ∀ position < 6, next[position]? = buffer[position]?) :
    Entered path config next := by
  refine ⟨?_, entered.params, ?_⟩
  · rw [kept 5 (by decide)]
    exact entered.separator
  · intro level index found
    have bound := (List.getElem?_eq_some_iff.mp found).1
    rw [kept level (by omega)]
    exact entered.header level index found

/-- Writing number, payload and delimiter over a set-up buffer completes message
`n`, whatever bytes 6 and later held before. -/
theorem Entered.complete {buffer : Vector Byte size} (entered : Entered path config buffer)
    (full : path.length = 5) (long : 11 ≤ length) (room : length ≤ size) (n : Nat) :
    ∃ hundreds tens ones payload final, store buffer 6 (hundredsByte n) = some hundreds ∧
      store hundreds 7 (tensByte n) = some tens ∧ store tens 8 (onesByte n) = some ones ∧
      fill (List.range' 9 (length - 1 - 9)) (fun p => randomD[payloadIndex length n p]?) ones =
        some payload ∧
      store payload (length - 1) delimiter = some final ∧ Entered path config final ∧
      ∀ position < length,
        final[position]? = some (messageByte (Combination.ofPath path) length n position) := by
  obtain ⟨hundreds, stored₆, written₆, kept₆⟩ :=
    store_spec buffer (hundredsByte n) (show 6 < size by omega)
  obtain ⟨tens, stored₇, written₇, kept₇⟩ := store_spec hundreds (tensByte n) (show 7 < size by omega)
  obtain ⟨ones, stored₈, written₈, kept₈⟩ := store_spec tens (onesByte n) (show 8 < size by omega)
  have payloadBound : ∀ p ∈ List.range' 9 (length - 1 - 9), p < size := by
    intro p member
    have := List.mem_range'_1.mp member
    omega
  obtain ⟨payload, filled, contents, others⟩ :=
    fill_spec payloadBound (fun p _ => payload_read length n p) ones
  obtain ⟨final, stored, written, kept⟩ :=
    store_spec payload delimiter (show length - 1 < size by omega)
  -- Everything below position 9 but the three number bytes is untouched.
  have early (position : Nat) (front : position < 9) : final[position]? = ones[position]? := by
    rw [kept position (by omega), others position (by simp only [List.mem_range'_1]; omega)]
  have front (position : Nat) (first : position < 6) : final[position]? = buffer[position]? := by
    rw [early position (by omega), kept₈ position (by omega), kept₇ position (by omega),
      kept₆ position (by omega)]
  refine ⟨hundreds, tens, ones, payload, final, stored₆, stored₇, stored₈, filled, stored,
    entered.keep (by omega) front, ?_⟩
  intro position inside
  by_cases first : position < 6
  · rw [front position first]
    exact entered.front full length n first
  · by_cases last : position = length - 1
    · subst position
      obtain ⟨p, shape⟩ : ∃ p, length - 1 = p + 9 := ⟨length - 10, by omega⟩
      rw [written, shape]
      simp [messageByte, shape]
    · by_cases number : position < 9
      · rw [early position number]
        obtain rfl | rfl | rfl : position = 6 ∨ position = 7 ∨ position = 8 := by omega
        · rw [kept₈ 6 (by decide), kept₇ 6 (by decide), written₆]
          rfl
        · rw [kept₈ 7 (by decide), written₇]
          rfl
        · rw [written₈]
          rfl
      · rw [kept position last, contents position (by simp only [List.mem_range'_1]; omega)]
        obtain ⟨p, shape⟩ : ∃ p, position = p + 9 := ⟨position - 9, by omega⟩
        subst position
        simp [messageByte, last]

end LoraEval.Firmware

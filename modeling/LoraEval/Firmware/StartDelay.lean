import LoraEval.Core.Decimal
import LoraEval.Firmware.Handshake
import Mathlib.Tactic.IntervalCases

/-! The start delay, which both boards extract from the tail of the settings into
a character array and parse with `atoi`. Neither array has a terminator, so the
model keeps the memory behind each array. -/

namespace LoraEval.Firmware

open LoraEval.Core

def digitValue (byte : Byte) : Option Nat :=
  if 48 ≤ byte.toNat ∧ byte.toNat ≤ 57 then some (byte.toNat - 48) else none

def isSpace (byte : Byte) : Bool := byte.toNat = 32 || (9 ≤ byte.toNat && byte.toNat ≤ 13)

/-- `atoi` on the memory from the start of a text: blanks, an optional sign, and
digits up to the first other character. -/
def atoi (memory : List Byte) : Option Int :=
  match memory.dropWhile isSpace with
  | [] => none
  | first :: rest =>
    if first = 45 then (scanDigits digitValue rest 0).map (fun value : Nat => -(value : Int))
    else if first = 43 then (scanDigits digitValue rest 0).map Int.ofNat
    else (scanDigits digitValue (first :: rest) 0).map Int.ofNat

/-- An extraction loop in progress: the memory from the start of `delay`, and the
indices read from the settings and written to `delay` so far. -/
structure Extraction where
  memory : List Byte
  reads : List Nat
  writes : List Nat

/-- `if (i > 8) delay[i-9] = source[i]`, where `source` is the memory from the
start of the settings array. -/
def extractByte (source : List Byte) (i : Nat) (state : Extraction) : Extraction :=
  if 8 < i then
    { memory := state.memory.set (i - 9) (source[i]?.getD 0)
      reads := state.reads ++ [i]
      writes := state.writes ++ [i - 9] }
  else state

/-- The loop both boards use, `for (i = 0; i < l; i++)`. -/
def extractDelay (l : Nat) (source memory : List Byte) : Extraction :=
  (List.range l).foldl (fun state i => extractByte source i state) ⟨memory, [], []⟩

/-- `uint16_t d = atoi(delay)`. -/
def parsedDelay (memory : List Byte) : Option Nat :=
  (atoi memory).map fun value => (value % 65536).toNat

/-- The sender's `d`: `l` is the length of the received packet, and `memory`
starts at `char delay[l-9]`. -/
def senderDelay (data : Vector Byte maxDataLen) (l : Nat) (memory : List Byte) : Option Nat :=
  parsedDelay (extractDelay l data.toList memory).memory

/-- The receiver's `d` after the correction for high power: `l` is the length of
the acknowledgement, `behind` the memory after `exp_data`, and `memory` starts at
`char delay[5]`. -/
def receiverDelay (expData : List Byte) (l : Nat) (behind memory : List Byte) (txPower : Int) :
    Option Nat :=
  (parsedDelay (extractDelay l (expData ++ behind) memory).memory).map fun d : Nat =>
    if 10 < txPower then (((d : Int) - 17) % 65536).toNat else d

theorem extractDelay_succ (l : Nat) (source memory : List Byte) :
    extractDelay (l + 1) source memory = extractByte source l (extractDelay l source memory) := by
  rw [extractDelay, List.range_succ, List.foldl_append]
  rfl

/-- The loop reads positions 9 up to `l` and writes from the start of `delay`,
whatever the sizes of the two arrays are. -/
theorem extractDelay_accesses (l : Nat) (source memory : List Byte) :
    (extractDelay l source memory).reads = List.range' 9 (l - 9) ∧
      (extractDelay l source memory).writes = List.range' 0 (l - 9) := by
  induction l with
  | zero => exact ⟨rfl, rfl⟩
  | succ l ih =>
    rw [extractDelay_succ, extractByte]
    split
    · rename_i late
      rw [ih.1, ih.2, show l + 1 - 9 = (l - 9) + 1 by omega, List.range'_1_concat, List.range'_1_concat]
      simp [show 9 + (l - 9) = l by omega]
    · rename_i early
      rw [ih.1, ih.2, show l + 1 - 9 = l - 9 by omega]
      exact ⟨rfl, rfl⟩

theorem extractDelay_memory (enough : l ≤ source.length) (room : l - 9 ≤ memory.length) :
    (extractDelay l source memory).memory = (source.take l).drop 9 ++ memory.drop (l - 9) := by
  induction l with
  | zero => simp [extractDelay]
  | succ l ih =>
    have before := ih (by omega) (by omega)
    rw [extractDelay_succ, extractByte]
    split
    · rename_i late
      have size : ((source.take l).drop 9).length = l - 9 := by
        rw [List.length_drop, List.length_take, Nat.min_eq_left (by omega)]
      have next : (source.take (l + 1)).drop 9 = (source.take l).drop 9 ++ [source[l]] := by
        rw [List.take_add_one, List.drop_append_of_le_length (by rw [List.length_take]; omega)]
        simp [show l < source.length by omega]
      have rest : memory.drop (l - 9) = memory[l - 9] :: memory.drop (l + 1 - 9) := by
        rw [show l + 1 - 9 = l - 9 + 1 by omega]
        exact List.drop_eq_getElem_cons (by omega)
      simp only [before, next, rest]
      rw [List.set_append_right _ _ (by omega), size, Nat.sub_self, List.set_cons_zero]
      simp [show l < source.length by omega]
    · rename_i early
      have nothing (count : Nat) (few : count ≤ 9) : (source.take count).drop 9 = [] :=
        List.drop_of_length_le (by rw [List.length_take]; omega)
      rw [before, show l + 1 - 9 = l - 9 by omega, nothing l (by omega), nothing (l + 1) (by omega)]

/-- `atoi` takes in all digits up to the first other character. -/
theorem atoi_digits (read : readDigits digitValue (first :: rest) 0 = some value)
    (stop : digitValue symbol = none) (behind : List Byte) :
    atoi (first :: rest ++ symbol :: behind) = some (value : Int) := by
  have digit : 48 ≤ first.toNat ∧ first.toNat ≤ 57 := by
    by_contra other
    simp [readDigits, digitValue, other] at read
  have visible : isSpace first = false := by
    simp only [isSpace, Bool.or_eq_false_iff, decide_eq_false_iff_not, Bool.and_eq_false_iff]
    omega
  have minus : first ≠ 45 := by
    rintro rfl
    simp at digit
  have plus : first ≠ 43 := by
    rintro rfl
    simp at digit
  have scanned := scanDigits_of_readDigits read stop behind
  simp only [atoi, List.cons_append, List.dropWhile_cons, visible, Bool.false_eq_true, if_false, minus,
    plus]
  rw [← List.cons_append, scanned]
  rfl

theorem parsedDelay_digits {text : List Byte} (nonempty : text ≠ [])
    (read : readDigits digitValue text 0 = some value) (stop : digitValue symbol = none)
    (behind : List Byte) : parsedDelay (text ++ symbol :: behind) = some (value % 65536) := by
  cases text with
  | nil => exact absurd rfl nonempty
  | cons first rest =>
    rw [parsedDelay, atoi_digits read stop behind, Option.map_some, Option.some.injEq]
    omega

theorem digitValue_ascii : ReadsAscii (digitValue ∘ fun symbol : Char => BitVec.ofNat 8 symbol.toNat) := by
  intro value small
  interval_cases value <;> decide

end LoraEval.Firmware

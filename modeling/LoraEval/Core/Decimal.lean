import Mathlib.Algebra.Group.Nat.Defs
import Mathlib.Data.List.Basic

/-! Decimal numerals over an arbitrary alphabet. A digit valuation says which
symbols are digits; readers for whole texts and for the leading digits of a
longer memory region are defined over it. -/

namespace LoraEval.Core

variable {χ : Type u} {digit : χ → Option Nat}

/-- Value of a digit sequence, most significant first; a non-digit is a failure. -/
def readDigits (digit : χ → Option Nat) : List χ → Nat → Option Nat
  | [], value => some value
  | symbol :: rest, value => do
    let next ← digit symbol
    readDigits digit rest (10 * value + next)

def readUnsigned (digit : χ → Option Nat) : List χ → Option Nat
  | [] => none
  | text => readDigits digit text 0

def readSigned [DecidableEq χ] (digit : χ → Option Nat) (minus plus : χ) : List χ → Option Int
  | [] => none
  | symbol :: rest =>
    if symbol = minus then (readUnsigned digit rest).map (fun value : Nat => -(value : Int))
    else if symbol = plus then (readUnsigned digit rest).map Int.ofNat
    else (readUnsigned digit (symbol :: rest)).map Int.ofNat

/-- Accumulate leading digits and stop at the first other symbol. Running off
the end of the region without meeting one is a failure. -/
def scanDigits (digit : χ → Option Nat) : List χ → Nat → Option Nat
  | [], _ => none
  | symbol :: rest, value =>
    match digit symbol with
    | some next => scanDigits digit rest (10 * value + next)
    | none => some value

theorem readDigits_append (front back : List χ) (value : Nat) :
    readDigits digit (front ++ back) value =
      (readDigits digit front value).bind (readDigits digit back) := by
  induction front generalizing value with
  | nil => simp [readDigits]
  | cons symbol rest ih =>
    cases found : digit symbol with
    | none => simp [readDigits, found]
    | some next => simp [readDigits, found, ih]

theorem readDigits_map (embed : ξ → χ) (text : List ξ) (value : Nat) :
    readDigits digit (text.map embed) value = readDigits (digit ∘ embed) text value := by
  induction text generalizing value with
  | nil => rfl
  | cons symbol rest ih => simp [readDigits, ih]

theorem scanDigits_of_readDigits (read : readDigits digit front value = some result)
    (stop : digit symbol = none) (rest : List χ) :
    scanDigits digit (front ++ symbol :: rest) value = some result := by
  induction front generalizing value with
  | nil =>
    have same : value = result := by simpa [readDigits] using read
    simp [scanDigits, stop, same]
  | cons head tail ih =>
    cases found : digit head with
    | none => simp [readDigits, found] at read
    | some next =>
      have later : readDigits digit tail (10 * value + next) = some result := by
        simpa [readDigits, found] using read
      simpa [scanDigits, found] using ih later

def ReadsAscii (digit : Char → Option Nat) : Prop :=
  ∀ value < 10, digit (Nat.digitChar value) = some value

theorem readDigits_toDigits {digit : Char → Option Nat} (ascii : ReadsAscii digit) (number : Nat) :
    readDigits digit (Nat.toDigits 10 number) 0 = some number := by
  induction number using Nat.strongRecOn with
  | ind number ih =>
    rw [Nat.toDigits_eq_if (by decide)]
    split
    · rename_i small
      simp [readDigits, ascii number small]
    · rename_i large
      rw [readDigits_append, ih (number / 10) (by omega)]
      have last := ascii (number % 10) (Nat.mod_lt _ (by decide))
      simp only [Option.bind_some, readDigits, last, Option.bind_eq_bind]
      exact congrArg some (Nat.div_add_mod number 10)

theorem readUnsigned_toDigits {digit : Char → Option Nat} (ascii : ReadsAscii digit)
    (number : Nat) : readUnsigned digit (Nat.toDigits 10 number) = some number := by
  have read := readDigits_toDigits ascii number
  cases shape : Nat.toDigits 10 number with
  | nil => exact absurd shape Nat.toDigits_ne_nil
  | cons symbol rest =>
    rw [shape] at read
    exact read

/-- The decimal numeral of an integer: digits, after a minus sign when negative. -/
def decimal (number : Int) : List Char := (toString number).toList

theorem decimal_natCast (number : Nat) : decimal (number : Int) = Nat.toDigits 10 number := by
  have written : toString (number : Int) = number.repr := rfl
  rw [decimal, written, Nat.toList_repr]

theorem decimal_negSucc (number : Nat) :
    decimal (Int.negSucc number) = '-' :: Nat.toDigits 10 (number + 1) := by
  have written : toString (Int.negSucc number) = "-" ++ (number + 1).repr := rfl
  rw [decimal, written, String.toList_append, Nat.toList_repr]
  rfl

theorem decimal_ne_nil (number : Int) : decimal number ≠ [] := by
  cases number with
  | ofNat number =>
    rw [Int.ofNat_eq_natCast, decimal_natCast]
    exact Nat.toDigits_ne_nil
  | negSucc number => simp [decimal_negSucc]

theorem decimal_symbols (member : symbol ∈ decimal number) : symbol = '-' ∨ symbol.isDigit = true := by
  cases number with
  | ofNat number =>
    rw [Int.ofNat_eq_natCast, decimal_natCast] at member
    exact .inr (Nat.isDigit_of_mem_toDigits (by decide) (by decide) member)
  | negSucc number =>
    rw [decimal_negSucc] at member
    rcases List.mem_cons.mp member with minus | digit
    · exact .inl minus
    · exact .inr (Nat.isDigit_of_mem_toDigits (by decide) (by decide) digit)

theorem readSigned_decimal {digit : Char → Option Nat} (ascii : ReadsAscii digit) (number : Int) :
    readSigned digit '-' '+' (decimal number) = some number := by
  cases number with
  | negSucc number =>
    rw [decimal_negSucc]
    simp [readSigned, readUnsigned_toDigits ascii, Int.negSucc_eq]
  | ofNat number =>
    have read := readUnsigned_toDigits ascii number
    have digits := fun symbol => Nat.isDigit_of_mem_toDigits (b := 10) (n := number) (c := symbol)
      (by decide) (by decide)
    rw [Int.ofNat_eq_natCast, decimal_natCast]
    cases shape : Nat.toDigits 10 number with
    | nil => exact absurd shape Nat.toDigits_ne_nil
    | cons symbol rest =>
      have isDigit := digits symbol (by simp [shape])
      have notMinus : symbol ≠ '-' := by
        rintro rfl
        exact absurd isDigit (by decide)
      have notPlus : symbol ≠ '+' := by
        rintro rfl
        exact absurd isDigit (by decide)
      rw [shape] at read
      simp [readSigned, notMinus, notPlus, read]

theorem decimal_length_le (bound : number.natAbs < 10 ^ places) (positive : 0 < places) :
    (decimal number).length ≤ places + 1 := by
  cases number with
  | ofNat number =>
    rw [Int.ofNat_eq_natCast, decimal_natCast]
    have digits := (Nat.length_toDigits_le_iff (n := number) (b := 10) (by decide) positive).mpr
      (by simpa using bound)
    omega
  | negSucc number =>
    rw [decimal_negSucc]
    have digits := (Nat.length_toDigits_le_iff (n := number + 1) (b := 10) (by decide) positive).mpr
      (by simpa using bound)
    simpa using digits

end LoraEval.Core

import LoraEval.Core.Bits
import LoraEval.Core.Decimal
import Mathlib.Tactic.IntervalCases

namespace LoraEval.Java

open LoraEval.Core

inductive Exception where
  | numberFormat
  | indexOutOfBounds
deriving DecidableEq, Repr

theorem bind_eq_ok {first : Except Exception α} {next : α → Except Exception β} :
    (first >>= next) = .ok result ↔ ∃ value, first = .ok value ∧ next value = .ok result := by
  cases first with
  | error failure => simp [bind, Except.bind]
  | ok value => simp [bind, Except.bind]

theorem mapM_length {parse : α → Except Exception β} {items : List α} {values : List β}
    (parsed : items.mapM parse = .ok values) : values.length = items.length := by
  induction items generalizing values with
  | nil =>
    rw [← Except.ok.inj parsed]
    rfl
  | cons item rest ih =>
    rw [List.mapM_cons] at parsed
    obtain ⟨first, -, parsed⟩ := bind_eq_ok.mp parsed
    obtain ⟨others, parsedRest, same⟩ := bind_eq_ok.mp parsed
    rw [← Except.ok.inj same, List.length_cons, List.length_cons, ih parsedRest]

/-- The code points of the decimal zeros of the basic multilingual plane; each
starts a run of ten decimal digits. -/
def decimalZeros : List Nat :=
  [0x30, 0x660, 0x6F0, 0x7C0, 0x966, 0x9E6, 0xA66, 0xAE6, 0xB66, 0xBE6, 0xC66, 0xCE6, 0xD66, 0xDE6,
   0xE50, 0xED0, 0xF20, 0x1040, 0x1090, 0x17E0, 0x1810, 0x1946, 0x19D0, 0x1A80, 0x1A90, 0x1B50,
   0x1BB0, 0x1C40, 0x1C50, 0xA620, 0xA8D0, 0xA900, 0xA9D0, 0xA9F0, 0xAA50, 0xABF0, 0xFF10]

/-- `Character.digit(c, 10)`. -/
def digit (symbol : Char) : Option Nat :=
  (decimalZeros.find? (fun base => base ≤ symbol.toNat && symbol.toNat < base + 10)).map
    (fun base => symbol.toNat - base)

theorem digit_ascii : ReadsAscii digit := by
  intro value small
  interval_cases value <;> decide

/-- `Integer.parseInt`: an optional sign, at least one digit, in the range of an `int`. -/
def parseInt (text : String) : Except Exception Int :=
  match readSigned digit '-' '+' text.toList with
  | some value => if -2 ^ 31 ≤ value ∧ value < 2 ^ 31 then .ok value else .error .numberFormat
  | none => .error .numberFormat

/-- `Byte.parseByte`: `Integer.parseInt` followed by a check of the signed range. -/
def parseByte (text : String) : Except Exception Byte := do
  let value ← parseInt text
  if -128 ≤ value ∧ value ≤ 127 then .ok (BitVec.ofInt 8 value) else .error .numberFormat

/-- `Byte.toString`: the signed value in decimal. -/
def byteToString (byte : Byte) : String := toString byte.toInt

/-- `Long.toString(number).getBytes()`; a numeral has ASCII symbols only. -/
def numeralBytes (number : Int) : List Byte :=
  (decimal number).map (fun symbol => BitVec.ofNat 8 symbol.toNat)

theorem parseInt_toString (low : -2 ^ 31 ≤ number) (high : number < 2 ^ 31) :
    parseInt (toString number) = .ok number := by
  have read : readSigned digit '-' '+' (toString number).toList = some number :=
    readSigned_decimal digit_ascii number
  simp only [parseInt, read]
  exact if_pos ⟨low, high⟩

theorem parseByte_eq_ok : parseByte text = .ok byte ↔
    ∃ value, parseInt text = .ok value ∧ -128 ≤ value ∧ value ≤ 127 ∧ byte.toInt = value := by
  rw [parseByte, bind_eq_ok]
  constructor
  · rintro ⟨value, parsed, checked⟩
    split at checked
    · rename_i range
      have same : BitVec.ofInt 8 value = byte := Except.ok.inj checked
      refine ⟨value, parsed, range.1, range.2, ?_⟩
      rw [← same, BitVec.toInt_ofInt]
      exact Int.bmod_eq_of_le (by omega) (by omega)
    · cases checked
  · rintro ⟨value, parsed, low, high, same⟩
    refine ⟨value, parsed, ?_⟩
    rw [if_pos ⟨low, high⟩, ← same, BitVec.ofInt_toInt]

/-- A stored byte code is read back as the same byte, negative codes included. -/
theorem parseByte_byteToString (byte : Byte) : parseByte (byteToString byte) = .ok byte := by
  have low := BitVec.le_toInt byte
  have high := BitVec.toInt_lt (x := byte)
  rw [parseByte_eq_ok]
  refine ⟨byte.toInt, parseInt_toString (by omega) (by omega), by omega, by omega, rfl⟩

/-- A number parsed as a byte is read unsigned exactly when it is not negative. -/
theorem toNat_of_parseByte (parsed : parseByte text = .ok byte)
    (number : parseInt text = .ok value) : (byte.toNat : Int) = value ↔ 0 ≤ value := by
  obtain ⟨same, parsed', low, high, signed⟩ := parseByte_eq_ok.mp parsed
  rw [number] at parsed'
  have identical : value = same := Except.ok.inj parsed'
  subst same
  have cond := BitVec.toInt_eq_toNat_cond byte
  have size := byte.isLt
  split at cond <;> omega

theorem parseByte_of_range (number : parseInt text = .ok value) (low : 0 ≤ value)
    (high : value ≤ 127) : ∃ byte, parseByte text = .ok byte ∧ (byte.toNat : Int) = value := by
  have signed : (BitVec.ofInt 8 value).toInt = value := by
    rw [BitVec.toInt_ofInt]
    exact Int.bmod_eq_of_le (by omega) (by omega)
  have parsed : parseByte text = .ok (BitVec.ofInt 8 value) :=
    parseByte_eq_ok.mpr ⟨value, number, by omega, high, signed⟩
  exact ⟨_, parsed, (toNat_of_parseByte parsed number).mpr low⟩

theorem numeralBytes_ne_nil (number : Int) : numeralBytes number ≠ [] := by
  simpa [numeralBytes] using decimal_ne_nil number

theorem toString_int_inj {first second : Int} : toString first = toString second ↔ first = second := by
  refine ⟨?_, congrArg toString⟩
  intro same
  have read (number : Int) : readSigned digit '-' '+' (toString number).toList = some number :=
    readSigned_decimal digit_ascii number
  have one := read first
  rw [same, read second] at one
  exact (Option.some.inj one).symm

end LoraEval.Java

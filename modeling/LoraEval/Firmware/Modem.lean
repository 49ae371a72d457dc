import LoraEval.Core.Bits
import LoraEval.Core.Loop

namespace LoraEval.Firmware

open LoraEval.Core

/-- `struct lora_modem_config`. -/
structure LoraModemConfig where
  frequency : Nat
  bandwidth : Nat
  datarate : Nat
  codingRate : Nat
  preambleLen : Nat
  txPower : Int
  tx : Bool
deriving DecidableEq, Repr

/-- The radio parameters two devices must share to hear each other. -/
structure RadioParams where
  frequency : Nat
  bandwidth : Nat
  datarate : Nat
  codingRate : Nat
  txPower : Int
deriving DecidableEq, Repr

def LoraModemConfig.params (config : LoraModemConfig) : RadioParams where
  frequency := config.frequency
  bandwidth := config.bandwidth
  datarate := config.datarate
  codingRate := config.codingRate
  txPower := config.txPower

/-- The table both `lses.c` and `lres.c` declare. -/
def frequencies : Vector Nat 8 :=
  #v[869500000, 868100000, 868300000, 868500000, 867100000, 867300000, 867500000, 867700000]

/-- An unchecked read of the table; `outside` is the memory around it. -/
def frequencyAt (outside : Nat → Nat) (index : Nat) : Nat :=
  frequencies[index]?.getD (outside index)

/-- `change_config`: every field of the configuration is set from the five bytes
and the direction. The power is stored in an `int8_t`. -/
def changeConfig (outside : Nat → Nat) (pu : Vector Byte 5) (tx : Bool) : LoraModemConfig where
  frequency := frequencyAt outside pu[0].toNat
  bandwidth := pu[1].toNat
  datarate := pu[2].toNat + 7
  preambleLen := 8
  codingRate := pu[3].toNat + 1
  txPower := (BitVec.ofInt 8 (18 - pu[4].toNat * 2)).toInt
  tx := tx

def KnownFrequency (pu : Vector Byte 5) : Prop := pu[0].toNat < 8

/-- For a frequency position of the table the decoded parameters do not depend
on the board or the direction. -/
theorem changeConfig_params (known : KnownFrequency pu) :
    (changeConfig outside₁ pu tx₁).params = (changeConfig outside₂ pu tx₂).params := by
  have inside : pu[0].toNat < 8 := known
  have same : frequencyAt outside₁ pu[0].toNat = frequencyAt outside₂ pu[0].toNat := by
    simp [frequencyAt, inside]
  simp [changeConfig, LoraModemConfig.params, same]

/-- One parameter combination of an experiment, as positions in the five lists
of values. -/
structure Combination where
  frequency : Nat
  bandwidth : Nat
  datarate : Nat
  codingRate : Nat
  power : Nat
deriving DecidableEq, Repr

def Combination.ofPath (path : List Nat) : Combination where
  frequency := path.getD 0 0
  bandwidth := path.getD 1 0
  datarate := path.getD 2 0
  codingRate := path.getD 3 0
  power := path.getD 4 0

def Combination.params (combination : Combination) : RadioParams where
  frequency := frequencies[combination.frequency]?.getD 0
  bandwidth := combination.bandwidth
  datarate := combination.datarate + 7
  codingRate := combination.codingRate + 1
  txPower := 18 - combination.power * 2

/-- What the loop of one parameter assigns to the configuration for position
`index`. Levels count from the outermost loop, over the frequencies. -/
def LoraModemConfig.setParam (config : LoraModemConfig) (level index : Nat) : Option LoraModemConfig :=
  match level with
  | 0 => do
    let frequency ← frequencies[index]?
    return { config with frequency }
  | 1 => some { config with bandwidth := index }
  | 2 => some { config with datarate := index + 7 }
  | 3 => some { config with codingRate := index + 1 }
  | 4 => some { config with txPower := 18 - index * 2 }
  | _ => none

/-- The configuration holds the value at position `index` of one parameter. -/
def LoraModemConfig.HasParam (config : LoraModemConfig) (level index : Nat) : Prop :=
  match level with
  | 0 => frequencies[index]? = some config.frequency
  | 1 => config.bandwidth = index
  | 2 => config.datarate = index + 7
  | 3 => config.codingRate = index + 1
  | 4 => config.txPower = 18 - index * 2
  | _ => False

theorem LoraModemConfig.setParam_spec (config : LoraModemConfig) (known : level < 5)
    (inside : index < 8) :
    ∃ next, config.setParam level index = some next ∧ next.HasParam level index ∧
      next.tx = config.tx ∧
      ∀ other value, other ≠ level → config.HasParam other value → next.HasParam other value := by
  match level with
  | 0 =>
    refine ⟨{ config with frequency := frequencies[index] }, by simp [setParam, inside],
      by simp [HasParam, inside], rfl, ?_⟩
    intro other value different held
    match other with
    | 1 | 2 | 3 | 4 => exact held
  | 1 | 2 | 3 | 4 =>
    refine ⟨_, rfl, rfl, rfl, ?_⟩
    intro other value different held
    match other with
    | 0 | 1 | 2 | 3 | 4 => first | exact held | exact absurd rfl different

/-- A configuration that holds all five parameters of a path holds its values. -/
theorem LoraModemConfig.params_eq {config : LoraModemConfig} (full : path.length = 5)
    (holds : Along config.HasParam path) :
    config.params = (Combination.ofPath path).params := by
  match path with
  | [i, j, k, l, m] =>
    have frequency : frequencies[i]? = some config.frequency := holds 0 i rfl
    have bandwidth : config.bandwidth = j := holds 1 j rfl
    have datarate : config.datarate = k + 7 := holds 2 k rfl
    have rate : config.codingRate = l + 1 := holds 3 l rfl
    have power : config.txPower = 18 - m * 2 := holds 4 m rfl
    simp [LoraModemConfig.params, Combination.params, Combination.ofPath, frequency, bandwidth,
      datarate, rate, power]

theorem frequencies_injective (first : i < 8) (second : j < 8)
    (same : frequencies[i]?.getD 0 = frequencies[j]?.getD 0) : i = j := by
  have table : ∀ i j : Fin 8, frequencies[i.val]?.getD 0 = frequencies[j.val]?.getD 0 → i = j := by
    decide
  exact congrArg Fin.val (table ⟨i, first⟩ ⟨j, second⟩ same)

theorem Combination.params_injective {first second : Combination} (one : first.frequency < 8)
    (two : second.frequency < 8) (same : first.params = second.params) : first = second := by
  have frequency := frequencies_injective one two (congrArg RadioParams.frequency same)
  have bandwidth := congrArg RadioParams.bandwidth same
  have datarate := congrArg RadioParams.datarate same
  have rate := congrArg RadioParams.codingRate same
  have power := congrArg RadioParams.txPower same
  simp only [Combination.params] at bandwidth datarate rate power
  cases first
  cases second
  simp only [Combination.mk.injEq] at *
  omega

/-- The experiment settings as the firmware reads them from its buffer. -/
structure Settings where
  numberOfMessages : Byte
  timeBetween : Byte
  msgLength : Byte
  frequencies : Byte
  bandwidths : Byte
  spreadingFactors : Byte
  codingRates : Byte
  powers : Byte
deriving DecidableEq, Repr

/-- Bytes 0 to 2 and 4 to 8 of a settings buffer. -/
def Settings.ofBytes (data : List Byte) : Option Settings := do
  return {
    numberOfMessages := ← data[0]?
    timeBetween := ← data[1]?
    msgLength := ← data[2]?
    frequencies := ← data[4]?
    bandwidths := ← data[5]?
    spreadingFactors := ← data[6]?
    codingRates := ← data[7]?
    powers := ← data[8]? }

theorem Settings.ofBytes_take (data : List Byte) (long : 9 ≤ count) :
    Settings.ofBytes (data.take count) = Settings.ofBytes data := by
  have read (i : Nat) (inside : i < 9) : (data.take count)[i]? = data[i]? :=
    List.getElem?_take_of_lt (by omega)
  rw [Settings.ofBytes, read 0 (by decide), read 1 (by decide), read 2 (by decide), read 4 (by decide),
    read 5 (by decide), read 6 (by decide), read 7 (by decide), read 8 (by decide)]
  rfl

def Settings.levels (settings : Settings) : List (Level Nat) :=
  [⟨unsignedBit settings.frequencies, List.range 8⟩, ⟨unsignedBit settings.bandwidths, List.range 3⟩,
    ⟨unsignedBit settings.spreadingFactors, List.range 6⟩,
    ⟨unsignedBit settings.codingRates, List.range 4⟩, ⟨unsignedBit settings.powers, List.range 8⟩]

def Settings.combinations (settings : Settings) : List Combination :=
  (paths settings.levels).map Combination.ofPath

end LoraEval.Firmware

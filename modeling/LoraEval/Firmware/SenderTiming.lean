import LoraEval.Firmware.SenderInvariant
import Mathlib.Tactic.IntervalCases

/-! The time on air as the sender computes it. For the parameters of the app it is
a power of two times the time of one table, whose entries are known up to the
rounding of `float`. -/

namespace LoraEval.Firmware

open LoraEval.Core

/-- The radio parameters the app can choose, with a message length it can send. -/
structure Transmittable (length : Nat) (params : RadioParams) : Prop where
  long : 11 ≤ length
  short : length ≤ 127
  slow : params.datarate ≤ 12
  fast : 7 ≤ params.datarate
  narrow : params.bandwidth ≤ 1
  coded : 1 ≤ params.codingRate
  rate : params.codingRate ≤ 4

/-- The spreading factor that counts for the number of blocks: two less with the
low data rate optimisation. -/
def blockRate (params : RadioParams) : Nat :=
  if (params.datarate = 11 ∧ params.bandwidth = 0) ∨ params.datarate = 12 then params.datarate - 2
  else params.datarate

def blockCount (length : Nat) (params : RadioParams) : Nat :=
  (8 * length + 44 - 4 * params.datarate + (4 * blockRate params - 1)) / (4 * blockRate params)

def payloadSymbols (length : Nat) (params : RadioParams) : Nat :=
  blockCount length params * (params.codingRate + 4) + 8

def symbolUnit : ℚ := single (128 / 125)

/-- The time on air of `payload` symbols at spreading factor 7 and 125 kHz. -/
def airtimeUnit (payload : Nat) : ℚ := single (single (payload * symbolUnit) + single (49 / 4 * symbolUnit))

/-- Rounding does not move a quotient of small numbers past an integer. -/
theorem ceil_single_div {m n : Nat} (large : 0 < n) (divisor : n ≤ 48) (small : m ≤ 2000) :
    ⌈single (m / n)⌉ = ((m + (n - 1)) / n : Nat) := by
  have euclid := Nat.div_add_mod (m + (n - 1)) n
  have rest := Nat.mod_lt (m + (n - 1)) large
  generalize (m + (n - 1)) / n = count at euclid ⊢
  have positive : (0 : ℚ) < n := by exact_mod_cast large
  by_cases exact : m = n * count
  · have whole : (m : ℚ) / n = count := by
      rw [exact, Nat.cast_mul, mul_div_cancel_left₀ _ positive.ne']
    have bounded : count ≤ n * count := Nat.le_mul_of_pos_left count large
    rw [whole, single_natCast (by omega), Int.ceil_natCast]
  · -- the quotient is at least 1 / n away from the integers around it
    have above : (m : ℚ) / n ≤ count - 1 / n := by
      have strict : (m : ℚ) + 1 ≤ n * count := by exact_mod_cast (show m + 1 ≤ n * count by omega)
      rw [div_le_iff₀ positive, sub_mul, div_mul_cancel₀ _ positive.ne']
      linarith
    have below : (count : ℚ) - 1 + 1 / n ≤ m / n := by
      have strict : (n : ℚ) * count + 1 ≤ m + n := by exact_mod_cast (show n * count + 1 ≤ m + n by omega)
      rw [le_div_iff₀ positive, add_mul, div_mul_cancel₀ _ positive.ne']
      linarith
    have gap : (1 : ℚ) / 48 ≤ 1 / n := by
      apply one_div_le_one_div_of_le positive
      exact_mod_cast divisor
    have size : |(m : ℚ) / n| ≤ 2000 := by
      rw [abs_of_nonneg (by positivity), div_le_iff₀ positive]
      have one : (1 : ℚ) ≤ n := by exact_mod_cast large
      have bound : (m : ℚ) ≤ 2000 := by exact_mod_cast small
      linarith
    have error := abs_le.mp (single_error (m / n))
    rw [Int.ceil_eq_iff]
    push_cast
    constructor <;> linarith [error.1, error.2]

theorem Transmittable.blockRate_bounds (fits : Transmittable length params) :
    7 ≤ blockRate params ∧ blockRate params ≤ 11 := by
  have := fits.fast
  have := fits.slow
  unfold blockRate
  split <;> omega

theorem Transmittable.symbols_eq (fits : Transmittable length params) :
    single (single (single (single (8 * length) - single (4 * params.datarate)) + 28) + 16) =
      (8 * length + 44 - 4 * params.datarate : Nat) := by
  have := fits.long
  have := fits.short
  have := fits.slow
  have := fits.fast
  have eight : single (8 * length) = (8 * length : Nat) := single_eq_natCast (by push_cast; ring) (by omega)
  have four : single (4 * params.datarate) = (4 * params.datarate : Nat) := by
    apply single_eq_natCast
    · push_cast
      ring
    · omega
  have difference : single ((8 * length : Nat) - (4 * params.datarate : Nat)) =
      (8 * length - 4 * params.datarate : Nat) :=
    single_eq_natCast (by rw [Nat.cast_sub (by omega)]) (by omega)
  have header : single ((8 * length - 4 * params.datarate : Nat) + 28) =
      (8 * length - 4 * params.datarate + 28 : Nat) := single_eq_natCast (by push_cast; ring) (by omega)
  rw [eight, four, difference, header]
  apply single_eq_natCast
  · have regroup : 8 * length + 44 - 4 * params.datarate = 8 * length - 4 * params.datarate + 28 + 16 := by
      omega
    rw [regroup]
    push_cast
    ring
  · omega

theorem Transmittable.divisor_eq (fits : Transmittable length params) :
    single (4 * if (params.datarate = 11 ∧ params.bandwidth = 0) ∨ params.datarate = 12
      then single (params.datarate - 2) else params.datarate) = (4 * blockRate params : Nat) := by
  have := fits.slow
  have := fits.fast
  have rate : (if (params.datarate = 11 ∧ params.bandwidth = 0) ∨ params.datarate = 12
      then single (params.datarate - 2) else (params.datarate : ℚ)) = (blockRate params : Nat) := by
    unfold blockRate
    split
    · apply single_eq_natCast
      · rw [Nat.cast_sub (by omega), Nat.cast_ofNat]
      · omega
    · rfl
  have bounds := fits.blockRate_bounds
  rw [rate]
  apply single_eq_natCast
  · push_cast
    ring
  · omega

theorem Transmittable.blockCount_bounds (fits : Transmittable length params) :
    0 < blockCount length params ∧ blockCount length params ≤ 37 := by
  have := fits.long
  have := fits.short
  have := fits.slow
  have bounds := fits.blockRate_bounds
  unfold blockCount
  constructor
  · exact Nat.div_pos (by omega) (by omega)
  · rw [← Nat.lt_succ_iff, Nat.div_lt_iff_lt_mul (by omega)]
    have := fits.fast
    omega

theorem Transmittable.payload_eq (fits : Transmittable length params) :
    let blocks := single ((8 * length + 44 - 4 * params.datarate : Nat) / (4 * blockRate params : Nat))
    single (single ((if blocks > 0 then ⌈blocks⌉ else 0) * (params.codingRate + 4)) + 8) =
      payloadSymbols length params := by
  have := fits.short
  have := fits.rate
  have bounds := fits.blockRate_bounds
  have count := fits.blockCount_bounds
  have rounded : ⌈single ((8 * length + 44 - 4 * params.datarate : Nat) / (4 * blockRate params : Nat))⌉ =
      (blockCount length params : Nat) := ceil_single_div (by omega) (by omega) (by omega)
  have positive :
      single ((8 * length + 44 - 4 * params.datarate : Nat) / (4 * blockRate params : Nat)) > 0 := by
    apply Int.ceil_pos.mp
    rw [rounded]
    exact_mod_cast count.1
  have limit : blockCount length params * (params.codingRate + 4) ≤ 37 * 8 :=
    Nat.mul_le_mul count.2 (by omega)
  have product : single ((blockCount length params : Nat) * (params.codingRate + 4)) =
      (blockCount length params * (params.codingRate + 4) : Nat) :=
    single_eq_natCast (by push_cast; ring) (by omega)
  dsimp only
  rw [if_pos positive, rounded, Int.cast_natCast, product, payloadSymbols]
  exact single_eq_natCast (by push_cast; ring) (by omega)

theorem Transmittable.symbolDuration_eq (fits : Transmittable length params) :
    single (2 ^ params.datarate / single ((params.bandwidth + 1) * 125)) =
      2 ^ ((params.datarate : ℤ) - 7 - params.bandwidth) * symbolUnit := by
  have := fits.narrow
  have width : single ((params.bandwidth + 1) * 125) = ((params.bandwidth + 1) * 125 : Nat) :=
    single_eq_natCast (by push_cast; ring) (by omega)
  have quotient : (2 : ℚ) ^ params.datarate / ((params.bandwidth + 1) * 125 : Nat) =
      2 ^ ((params.datarate : ℤ) - 7 - params.bandwidth) * (128 / 125) := by
    rw [zpow_sub₀ (by norm_num), zpow_sub₀ (by norm_num), zpow_natCast, zpow_natCast]
    rcases Nat.le_one_iff_eq_zero_or_eq_one.mp fits.narrow with wide | wide <;> rw [wide] <;> norm_num <;>
      ring
  rw [width, quotient, single_scale, symbolUnit]

theorem timeOnAir_eq (fits : Transmittable length params) :
    timeOnAir length params = 2 ^ ((params.datarate : ℤ) - 7 - params.bandwidth) *
      airtimeUnit (payloadSymbols length params) := by
  unfold timeOnAir
  dsimp only
  rw [fits.symbols_eq, fits.divisor_eq, fits.payload_eq, fits.symbolDuration_eq, airtimeUnit,
    mul_left_comm, single_scale, mul_left_comm, single_scale, ← mul_add, single_scale]

theorem symbolUnit_eq : symbolUnit = 8589935 / 8388608 := by decide +kernel

/-- Three roundings and that of the symbol duration move the time on air by less
than four units in the last place. -/
theorem airtimeUnit_error (payload : Nat) :
    |airtimeUnit payload - (4 * payload + 49) * 32 / 125| ≤ (4 * payload + 49) * 32 / 125 / 2 ^ 22 := by
  have content := single_error (payload * symbolUnit)
  have preamble := single_error (49 / 4 * symbolUnit)
  have whole := single_error (single (payload * symbolUnit) + single (49 / 4 * symbolUnit))
  rw [symbolUnit_eq] at content preamble whole
  rw [airtimeUnit, symbolUnit_eq]
  have positive : (0 : ℚ) ≤ payload := by positivity
  rw [abs_of_nonneg (by positivity : (0 : ℚ) ≤ payload * (8589935 / 8388608))] at content
  rw [abs_of_nonneg (by norm_num : (0 : ℚ) ≤ 49 / 4 * (8589935 / 8388608))] at preamble
  generalize single (payload * (8589935 / 8388608)) = sent at *
  generalize single (49 / 4 * (8589935 / 8388608)) = started at *
  rw [abs_le] at content preamble
  rw [abs_of_nonneg (by linarith : (0 : ℚ) ≤ sent + started), abs_le] at whole
  rw [abs_le]
  constructor <;> linarith

def airtimeOf (payload exponent : Nat) : Nat := (4 * payload + 49) * 2 ^ exponent

def exactAirtime (length : Nat) (params : RadioParams) : Nat :=
  airtimeOf (payloadSymbols length params) (params.datarate - 2 - params.bandwidth)

theorem timeOnAir_error (fits : Transmittable length params) :
    |timeOnAir length params - exactAirtime length params / 125| ≤
      exactAirtime length params / 125 / 2 ^ 22 := by
  have := fits.fast
  have := fits.narrow
  have power : (0 : ℚ) < 2 ^ ((params.datarate : ℤ) - 7 - params.bandwidth) := zpow_pos (by norm_num) _
  have shifted : (2 : ℚ) ^ (params.datarate - 2 - params.bandwidth) =
      2 ^ ((params.datarate : ℤ) - 7 - params.bandwidth) * 32 := by
    rw [← zpow_natCast, show (32 : ℚ) = 2 ^ (5 : ℤ) by norm_num, ← zpow_add₀ (by norm_num)]
    congr 1
    omega
  have unit := mul_le_mul_of_nonneg_left (airtimeUnit_error (payloadSymbols length params)) power.le
  rw [← abs_of_pos power, ← abs_mul, abs_of_pos power, mul_sub, ← timeOnAir_eq fits] at unit
  have scaled : (exactAirtime length params : ℚ) =
      2 ^ ((params.datarate : ℤ) - 7 - params.bandwidth) *
        ((4 * payloadSymbols length params + 49) * 32) := by
    rw [exactAirtime, airtimeOf]
    push_cast
    rw [shifted]
    ring
  rw [scaled, mul_div_assoc, mul_div_assoc (2 ^ _)]
  exact unit

theorem kMsec_eq {n : Nat} {time : ℚ} (low : n ≤ time) (high : time < n + 1) : kMsec time = n := by
  have floor : ⌊max time 0⌋ = (n : ℤ) := by
    have positive : (0 : ℚ) ≤ n := by positivity
    rw [max_eq_left (positive.trans low), Int.floor_eq_iff]
    exact ⟨low, high⟩
  change ⌊max time 0⌋.toNat = n
  rw [floor, Int.toNat_natCast]

theorem kMsec_intCast (time : ℤ) : kMsec time = time.toNat := by
  rcases Int.le_total 0 time with positive | negative
  · obtain ⟨n, rfl⟩ := Int.eq_ofNat_of_zero_le positive
    exact kMsec_eq (by simp) (by simp)
  · have zero : max (time : ℚ) 0 = 0 := max_eq_right (by exact_mod_cast negative)
    rw [kMsec, zero, Int.toNat_of_nonpos negative]
    rfl

/-- A time on air that is not close to a whole millisecond. -/
structure Between (whole : Nat) (time : ℚ) : Prop where
  low : whole + 1 / 200 ≤ time
  high : time ≤ whole + 199 / 200

theorem Between.floor (between : Between whole time) : time.floor = whole := by
  change ⌊time⌋ = (whole : ℤ)
  rw [Int.floor_eq_iff]
  exact ⟨by have := between.low; push_cast; linarith, by have := between.high; push_cast; linarith⟩

/-- The sleep before a combination then misses a millisecond, or there is none. -/
theorem Between.sleep (between : Between whole time) : kMsec (single (5000 - time)) = 4999 - whole := by
  have low := between.low
  have high := between.high
  have error := abs_le.mp (single_error (5000 - time))
  have positive : (0 : ℚ) ≤ whole := by positivity
  by_cases early : whole < 5000
  · have room : (whole : ℚ) + 1 ≤ 5000 := by exact_mod_cast early
    rw [abs_of_nonneg (by linarith)] at error
    apply kMsec_eq <;> rw [Nat.cast_sub (by omega)] <;> push_cast <;> linarith [error.1, error.2]
  · have late : (5000 : ℚ) ≤ whole := by exact_mod_cast Nat.le_of_not_lt early
    rw [abs_of_nonpos (by linarith)] at error
    have negative : single (5000 - time) ≤ 0 := by linarith [error.2]
    rw [kMsec, max_eq_right negative, Nat.sub_eq_zero_of_le (by omega)]
    rfl

/-- What the exact times on air of the app's parameters are not: they do not end
close to a second or at the five seconds between combinations, and only seventeen
blocks at coding rate 4/8 take whole milliseconds. -/
theorem airtime_scan (blocks : Fin 38) (rate : Fin 4) (exponent : Fin 7) :
    airtimeOf (blocks * (rate + 5) + 8) (exponent + 4) < 1500000 ∧
      airtimeOf (blocks * (rate + 5) + 8) (exponent + 4) / 125 ≠ 5000 ∧
      airtimeOf (blocks * (rate + 5) + 8) (exponent + 4) / 125 % 1000 ≠ 999 ∧
      (airtimeOf (blocks * (rate + 5) + 8) (exponent + 4) % 125 = 0 → blocks = 17 ∧ rate = 3) := by
  revert blocks rate exponent
  decide +kernel

/-- The parameters whose time on air, as computed, is restored by the sleep. -/
def WholeAirtime (length : Nat) (params : RadioParams) : Prop :=
  params.codingRate = 4 ∧ blockCount length params = 17 ∧ params.datarate ≤ 10 + params.bandwidth

instance : Decidable (WholeAirtime length params) := inferInstanceAs (Decidable (_ ∧ _ ∧ _))

theorem wholeAirtime_table : ∀ exponent : Nat, exponent < 7 →
    let time := 2 ^ ((exponent : ℤ) - 1) * airtimeUnit 144
    time.floor = (5 * 2 ^ (exponent + 4) : Nat) ∧
      kMsec (single (5000 - time)) = if exponent < 5 then 5000 - 5 * 2 ^ (exponent + 4)
        else if exponent = 5 then 2439 else 0 := by decide +kernel

theorem Transmittable.exactAirtime_scan (fits : Transmittable length params) :
    exactAirtime length params < 1500000 ∧ exactAirtime length params / 125 ≠ 5000 ∧
      exactAirtime length params / 125 % 1000 ≠ 999 ∧ (exactAirtime length params % 125 = 0 →
        blockCount length params = 17 ∧ params.codingRate = 4) := by
  have := fits.fast
  have := fits.slow
  have := fits.narrow
  have := fits.coded
  have := fits.rate
  have count := fits.blockCount_bounds
  have scan := airtime_scan ⟨blockCount length params, by omega⟩ ⟨params.codingRate - 1, by omega⟩
    ⟨params.datarate - 6 - params.bandwidth, by omega⟩
  simp only [Fin.ext_iff] at scan
  rw [show params.codingRate - 1 + 5 = params.codingRate + 4 by omega,
    show params.datarate - 6 - params.bandwidth + 4 = params.datarate - 2 - params.bandwidth by omega] at scan
  refine ⟨scan.1, scan.2.1, scan.2.2.1, fun whole => ?_⟩
  have found := scan.2.2.2 whole
  omega

/-- Any other time on air is computed as it is up to a fraction of a millisecond. -/
theorem Transmittable.between (fits : Transmittable length params)
    (fraction : exactAirtime length params % 125 ≠ 0) :
    Between (exactAirtime length params / 125) (timeOnAir length params) := by
  have bound : (exactAirtime length params : ℚ) ≤ 1500000 := by
    exact_mod_cast fits.exactAirtime_scan.1.le
  have error := abs_le.mp (timeOnAir_error fits)
  have euclid := Nat.div_add_mod (exactAirtime length params) 125
  have rest := Nat.mod_lt (exactAirtime length params) (show 0 < 125 by decide)
  generalize exactAirtime length params = airtime at *
  generalize airtime / 125 = whole at *
  have lower : 125 * (whole : ℚ) + 1 ≤ airtime := by exact_mod_cast (show 125 * whole + 1 ≤ airtime by omega)
  have upper : (airtime : ℚ) ≤ 125 * whole + 124 := by
    exact_mod_cast (show airtime ≤ 125 * whole + 124 by omega)
  constructor <;> linarith [error.1, error.2]

/-- The whole milliseconds of the time on air, `(int) time_on_air`. -/
def airtimeMillis (length : Nat) (params : RadioParams) : Nat := (timeOnAir length params).floor.toNat

theorem Transmittable.seventeen_blocks (fits : Transmittable length params)
    (blocks : blockCount length params = 17) (rate : params.codingRate = 4) :
    airtimeMillis length params = 5 * 2 ^ (params.datarate - 2 - params.bandwidth) ∧
      kMsec (single (5000 - timeOnAir length params)) =
        if params.datarate ≤ 10 + params.bandwidth then 5000 - airtimeMillis length params
        else if params.datarate = 11 + params.bandwidth then 2439 else 0 := by
  have := fits.fast
  have := fits.slow
  have := fits.narrow
  have entry := wholeAirtime_table (params.datarate - 6 - params.bandwidth) (by omega)
  have payload : payloadSymbols length params = 144 := by rw [payloadSymbols, blocks, rate]
  have exponent : ((params.datarate - 6 - params.bandwidth : Nat) : ℤ) - 1 =
      (params.datarate : ℤ) - 7 - params.bandwidth := by omega
  rw [exponent, ← payload, ← timeOnAir_eq fits,
    show params.datarate - 6 - params.bandwidth + 4 =
      params.datarate - 2 - params.bandwidth by omega] at entry
  have millis : airtimeMillis length params = 5 * 2 ^ (params.datarate - 2 - params.bandwidth) := by
    rw [airtimeMillis, entry.1, Int.toNat_natCast]
  refine ⟨millis, ?_⟩
  rw [entry.2, ← millis]
  split_ifs <;> first | rfl | omega

/-- The sleep before a combination and one time on air make up at least 4999 ms,
and 5000 ms exactly for a whole time on air. -/
theorem Transmittable.sleep_airtime (fits : Transmittable length params) :
    4999 ≤ kMsec (single (5000 - timeOnAir length params)) + airtimeMillis length params ∧
      airtimeMillis length params % 1000 ≠ 999 ∧
      (kMsec (single (5000 - timeOnAir length params)) + airtimeMillis length params = 5000 ↔
        WholeAirtime length params) := by
  have scan := fits.exactAirtime_scan
  have := fits.slow
  have := fits.fast
  have := fits.narrow
  by_cases whole : exactAirtime length params % 125 = 0
  · obtain ⟨blocks, rate⟩ := scan.2.2.2 whole
    obtain ⟨millis, sleep⟩ := fits.seventeen_blocks blocks rate
    have multiple : airtimeMillis length params % 1000 ≠ 999 := by omega
    by_cases fast : params.datarate ≤ 10 + params.bandwidth
    · have small : airtimeMillis length params ≤ 5 * 2 ^ 8 := by
        rw [millis]
        exact Nat.mul_le_mul_left 5 (Nat.pow_le_pow_right (by decide) (by omega))
      rw [if_pos fast] at sleep
      exact ⟨by omega, multiple, fun _ => ⟨rate, blocks, fast⟩, fun _ => by omega⟩
    · have slow : ¬ WholeAirtime length params := fun found => fast found.2.2
      rw [if_neg fast] at sleep
      have sum : 4999 ≤ kMsec (single (5000 - timeOnAir length params)) + airtimeMillis length params ∧
          kMsec (single (5000 - timeOnAir length params)) + airtimeMillis length params ≠ 5000 := by
        rw [sleep, millis]
        by_cases next : params.datarate = 11 + params.bandwidth
        · rw [if_pos next, show params.datarate - 2 - params.bandwidth = 9 by omega]
          decide
        · rw [if_neg next, show params.datarate - 2 - params.bandwidth = 10 by omega]
          decide
      exact ⟨sum.1, multiple, fun restored => absurd restored sum.2, fun found => absurd found slow⟩
  · have between := fits.between whole
    have millis : airtimeMillis length params = exactAirtime length params / 125 := by
      rw [airtimeMillis, between.floor, Int.toNat_natCast]
    have other : ¬ WholeAirtime length params := by
      rintro ⟨rate, blocks, -⟩
      apply whole
      rw [exactAirtime, payloadSymbols, blocks, rate, airtimeOf]
      generalize 2 ^ (params.datarate - 2 - params.bandwidth) = power
      omega
    rw [between.sleep, millis]
    refine ⟨by omega, scan.2.2.1, ?_⟩
    constructor
    · intro sum
      omega
    · intro found
      exact absurd found other

/-- How long an event takes when a pass of the transmit loop spends the time on air
and 2 ms beside its sleep, and everything else takes no time. -/
def SenderEvent.duration : SenderEvent → Nat
  | .configured _ => 0
  | .sent params _ bytes => airtimeMillis bytes.length params + 2
  | .slept milliseconds => milliseconds

def traceDuration (events : List SenderEvent) : Nat := (events.map SenderEvent.duration).sum

theorem traceDuration_append (front back : List SenderEvent) :
    traceDuration (front ++ back) = traceDuration front + traceDuration back := by
  simp [traceDuration]

/-- The reception window between two iterations, in milliseconds. -/
def window (settings : Settings) : Nat :=
  settings.numberOfMessages.toNat * settings.timeBetween.toNat * 1000 + 5000

/-- The parameters for which an iteration of the sender lasts as long as the window
of the receiver. -/
def KeepsTime (settings : Settings) (params : RadioParams) : Prop :=
  WholeAirtime settings.msgLength.toNat params ∧ 1 ≤ settings.timeBetween.toNat ∧
    (settings.numberOfMessages.toNat = 1 ∨ 2 ≤ settings.timeBetween.toNat ∨
      params.datarate ≤ 9 + params.bandwidth)

instance : Decidable (KeepsTime settings params) := inferInstanceAs (Decidable (_ ∧ _ ∧ _))

theorem Transmittable.floor_eq (fits : Transmittable length params) :
    (timeOnAir length params).floor = airtimeMillis length params := by
  have error := abs_le.mp (timeOnAir_error fits)
  have exact : (0 : ℚ) ≤ exactAirtime length params := by positivity
  have positive : 0 ≤ timeOnAir length params := by linarith [error.1]
  have floor : 0 ≤ ⌊timeOnAir length params⌋ := Int.floor_nonneg.mpr positive
  exact (Int.toNat_of_nonneg floor).symm

/-- The sleep after a pass; the last one does not subtract the time on air. -/
theorem messageSleep_eq (fits : Transmittable settings.msgLength.toNat params) (n : Nat) :
    messageSleep settings params n = settings.timeBetween.toNat * 1000 -
      (if n + 1 < settings.numberOfMessages.toNat then airtimeMillis settings.msgLength.toNat params
        else 0) - 2 := by
  unfold messageSleep
  dsimp only
  rw [kMsec_intCast, fits.floor_eq]
  by_cases last : n + 1 < settings.numberOfMessages.toNat
  · rw [if_pos last, if_pos (by omega)]
    omega
  · rw [if_neg last, if_neg (by omega)]
    omega

/-- Beside the whole passes the first sleep has to make up for the time on air that
the last pass does not subtract. -/
theorem pass_sum {sleep airtime seconds passes : Nat} (most : 4999 ≤ sleep + airtime)
    (apart : airtime % 1000 ≠ 999) :
    sleep + (passes * (airtime + 2 + (seconds * 1000 - airtime - 2)) + (airtime + 2 + (seconds * 1000 - 2))) =
        (passes + 1) * seconds * 1000 + 5000 ↔
      sleep + airtime = 5000 ∧ 1 ≤ seconds ∧ (passes = 0 ∨ airtime + 2 ≤ seconds * 1000) := by
  have spread : (passes + 1) * seconds * 1000 = passes * (seconds * 1000) + seconds * 1000 := by ring
  rw [spread]
  by_cases enough : airtime + 2 ≤ seconds * 1000
  · rw [show airtime + 2 + (seconds * 1000 - airtime - 2) = seconds * 1000 by omega]
    omega
  · -- every pass but the last is too long by `excess`
    obtain ⟨excess, beyond⟩ : ∃ excess, airtime + 2 = seconds * 1000 + (excess + 1) :=
      ⟨airtime + 1 - seconds * 1000, by omega⟩
    rw [show airtime + 2 + (seconds * 1000 - airtime - 2) = seconds * 1000 + (excess + 1) by omega,
      Nat.mul_add passes]
    rcases Nat.eq_zero_or_pos passes with none | some
    · subst none
      omega
    · have grown : passes + excess ≤ passes * (excess + 1) := by
        nlinarith
      omega

theorem combinationTrace_duration (fits : Transmittable settings.msgLength.toNat combination.params)
    (some : settings.numberOfMessages.toNat = passes + 1) :
    traceDuration (combinationTrace settings combination) =
      iterationSleep settings combination.params +
        (passes * (airtimeMillis settings.msgLength.toNat combination.params + 2 +
            (settings.timeBetween.toNat * 1000 -
              airtimeMillis settings.msgLength.toNat combination.params - 2)) +
          (airtimeMillis settings.msgLength.toNat combination.params + 2 +
            (settings.timeBetween.toNat * 1000 - 2))) := by
  have pass (n : Nat) : traceDuration (messageTrace settings combination n) =
      airtimeMillis settings.msgLength.toNat combination.params + 2 +
        messageSleep settings combination.params n := by
    simp [traceDuration, messageTrace, SenderEvent.duration, message_length]
  have early : ∀ count ≤ passes,
      traceDuration ((List.range count).flatMap (messageTrace settings combination)) =
      count * (airtimeMillis settings.msgLength.toNat combination.params + 2 +
        (settings.timeBetween.toNat * 1000 -
          airtimeMillis settings.msgLength.toNat combination.params - 2)) := by
    intro count within
    induction count with
    | zero => simp [traceDuration]
    | succ count ih =>
      rw [List.range_succ, List.flatMap_append, traceDuration_append, ih (by omega), List.flatMap_singleton,
        pass, messageSleep_eq fits, if_pos (by omega), Nat.succ_mul]
  rw [combinationTrace, traceDuration_append, some, List.range_succ, List.flatMap_append,
    traceDuration_append,
    early passes (Nat.le_refl _), List.flatMap_singleton, pass, messageSleep_eq fits, if_neg (by omega)]
  simp [traceDuration, SenderEvent.duration]

/-- An iteration of the sender lasts as long as the window of the receiver exactly
for the parameters that keep time. -/
theorem duration_eq_window_iff (fits : Transmittable settings.msgLength.toNat combination.params)
    (sends : 1 ≤ settings.numberOfMessages.toNat) :
    traceDuration (combinationTrace settings combination) = window settings ↔
      KeepsTime settings combination.params := by
  obtain ⟨passes, some⟩ : ∃ passes, settings.numberOfMessages.toNat = passes + 1 :=
    ⟨settings.numberOfMessages.toNat - 1, by omega⟩
  obtain ⟨most, apart, restored⟩ := fits.sleep_airtime
  rw [combinationTrace_duration fits some, window, some, iterationSleep, pass_sum most apart, restored,
    KeepsTime, some]
  apply and_congr_right
  intro whole
  have millis := (fits.seventeen_blocks whole.2.1 whole.1).1
  have fast := whole.2.2
  by_cases faster : combination.params.datarate ≤ 9 + combination.params.bandwidth
  · have small : airtimeMillis settings.msgLength.toNat combination.params ≤ 5 * 2 ^ 7 := by
      rw [millis]
      exact Nat.mul_le_mul_left 5 (Nat.pow_le_pow_right (by decide) (by omega))
    omega
  · rw [show combination.params.datarate - 2 - combination.params.bandwidth = 8 by omega] at millis
    omega

/-- The combinations of a trace with the time spent on each, and in front the time
before the first of them. -/
def timeline : List SenderEvent → Nat × List (RadioParams × Nat)
  | [] => (0, [])
  | .configured params :: rest => (0, (params, (timeline rest).1) :: (timeline rest).2)
  | event :: rest => (event.duration + (timeline rest).1, (timeline rest).2)

theorem timeline_silent (silent : ∀ event ∈ events, event.configured? = none) (rest : List SenderEvent) :
    timeline (events ++ rest) = (traceDuration events + (timeline rest).1, (timeline rest).2) := by
  induction events with
  | nil => simp [traceDuration]
  | cons event later ih =>
    have others := ih fun other member => silent other (by simp [member])
    have first := silent event (by simp)
    cases event with
    | configured params => simp [SenderEvent.configured?] at first
    | sent | slept => simp [timeline, others, traceDuration, Nat.add_assoc]

theorem timeline_combinations (settings : Settings) (combinations : List Combination) :
    timeline (combinations.flatMap (combinationTrace settings)) =
      (0, combinations.map fun combination =>
        (combination.params, traceDuration (combinationTrace settings combination))) := by
  induction combinations with
  | nil => rfl
  | cons combination others ih =>
    have silent : ∀ event ∈ (combinationTrace settings combination).tail, event.configured? = none := by
      intro event member
      simp only [combinationTrace, List.cons_append, List.nil_append, List.tail_cons, List.mem_cons,
        List.mem_flatMap, messageTrace, List.not_mem_nil, or_false] at member
      rcases member with rfl | ⟨n, -, rfl | rfl⟩ <;> rfl
    have trace : combinationTrace settings combination =
        .configured combination.params :: (combinationTrace settings combination).tail := rfl
    rw [List.flatMap_cons, trace, List.cons_append, timeline, timeline_silent silent, ih, List.map_cons,
      trace]
    simp [traceDuration, SenderEvent.duration]

end LoraEval.Firmware

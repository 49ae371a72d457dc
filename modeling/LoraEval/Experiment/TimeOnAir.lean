import LoraEval.Firmware.Sender

namespace LoraEval.Graphs

/-- `sf_s` and `bw_s`: spreading factor and bandwidth in kHz of the six bars. -/
def sfS : List Nat := [8, 10, 12, 8, 10, 12]
def bwS : List Nat := [125, 125, 125, 250, 250, 250]

/-- The time on air of one bar of the ETX chart, in exact arithmetic. -/
def timeOnAir (packetLength sf bw : Nat) : ℚ :=
  let symbols : ℚ := 8 * packetLength - 4 * sf + 28 + 16
  let ldrOpt := (sf = 11 ∧ bw = 125) ∨ sf = 12
  let blocks := symbols / (if ldrOpt then 4 * sf - 2 else 4 * sf : ℚ)
  let payload : ℚ := (if blocks > 0 then ⌈blocks⌉ else 0) * (2 + 4) + 8
  let symbolDuration : ℚ := 2 ^ sf / bw
  payload * symbolDuration + 49 / 4 * symbolDuration

end LoraEval.Graphs

namespace LoraEval.Experiment

open LoraEval.Core LoraEval.Firmware

/-- The computation of `lses.c`, with a given rounding after every operation. -/
def timeOnAirRounding (round : ℚ → ℚ) (length : Nat) (params : RadioParams) : ℚ :=
  let symbols := round (round (round (round (8 * length) - round (4 * params.datarate)) + 28) + 16)
  let ldrOpt := (params.datarate = 11 ∧ params.bandwidth = 0) ∨ params.datarate = 12
  let divisor := round (4 * if ldrOpt then round (params.datarate - 2) else params.datarate)
  let blocks := round (symbols / divisor)
  let payload := round (round ((if blocks > 0 then ⌈blocks⌉ else 0) * (params.codingRate + 4)) + 8)
  let symbolDuration := round (2 ^ params.datarate / round ((params.bandwidth + 1) * 125))
  round (round (payload * symbolDuration) + round (49 / 4 * symbolDuration))

theorem timeOnAir_eq_rounding (length : Nat) (params : RadioParams) :
    timeOnAir length params = timeOnAirRounding single length params := rfl

def exactTimeOnAir (length : Nat) (params : RadioParams) : ℚ := timeOnAirRounding id length params

/-- The payload blocks of a packet: the ceiling of a quotient, or none. -/
def blocksOf (symbols divisor : Int) : Int := if 0 < symbols then -(-symbols / divisor) else 0

theorem ceil_eq_blocksOf (symbols : Int) {divisor : Int} (positive : 0 < divisor) :
    (if (symbols / divisor : ℚ) > 0 then ⌈(symbols / divisor : ℚ)⌉ else 0) = blocksOf symbols divisor := by
  have cast : (0 : ℚ) < divisor := by exact_mod_cast positive
  have sign : (symbols / divisor : ℚ) > 0 ↔ 0 < symbols := by
    rw [gt_iff_lt, div_pos_iff_of_pos_right cast, Int.cast_pos]
  obtain ⟨size, rfl⟩ := Int.eq_ofNat_of_zero_le positive.le
  have ceiling : ⌈(symbols / (size : Int) : ℚ)⌉ = -(-symbols / size) := by
    rw [Int.cast_natCast]
    exact Rat.ceil_intCast_div_natCast symbols size
  simp only [blocksOf, sign, ceiling]

/-- The time on air for a number of payload blocks at coding rate 4/6. -/
def airtimeOfBlocks (blocks : Int) (symbolDuration : ℚ) : ℚ :=
  (blocks * 6 + 8) * symbolDuration + 49 / 4 * symbolDuration

theorem airtimeOfBlocks_inj {symbolDuration : ℚ} (positive : 0 < symbolDuration) :
    airtimeOfBlocks first symbolDuration = airtimeOfBlocks second symbolDuration ↔ first = second := by
  constructor
  · intro same
    have scaled : ((first : ℚ) * 6 + 8) * symbolDuration = (second * 6 + 8) * symbolDuration := by
      simpa [airtimeOfBlocks] using same
    have cancelled := mul_right_cancel₀ positive.ne' scaled
    have cast : (first : ℚ) = second := by linarith
    exact_mod_cast cast
  · rintro rfl
    rfl

def scriptDivisor (sf : Nat) : Int := if sf = 12 then 4 * sf - 2 else 4 * sf
def boardDivisor (sf : Nat) : Int := if sf = 12 then 4 * (sf - 2) else 4 * sf

theorem script_airtime (length : Nat) (known : sf = 8 ∨ sf = 10 ∨ sf = 12) :
    Graphs.timeOnAir length sf bw =
      airtimeOfBlocks (blocksOf (8 * length - 4 * sf + 44) (scriptDivisor sf)) (2 ^ sf / bw) := by
  have positive : 0 < scriptDivisor sf := by
    rcases known with rfl | rfl | rfl <;> decide
  have symbols : (8 * length - 4 * sf + 28 + 16 : ℚ) = ((8 * length - 4 * sf + 44 : Int) : ℚ) := by
    push_cast
    ring
  have divisor : (if (sf = 11 ∧ bw = 125) ∨ sf = 12 then 4 * sf - 2 else 4 * sf : ℚ) =
      scriptDivisor sf := by
    rcases known with rfl | rfl | rfl <;> norm_num [scriptDivisor]
  simp only [Graphs.timeOnAir]
  rw [symbols, divisor]
  rw [airtimeOfBlocks, ← ceil_eq_blocksOf _ positive]
  norm_num

theorem board_airtime (length : Nat) (params : RadioParams) (rate : params.codingRate = 2)
    (known : params.datarate = 8 ∨ params.datarate = 10 ∨ params.datarate = 12) :
    exactTimeOnAir length params =
      airtimeOfBlocks (blocksOf (8 * length - 4 * params.datarate + 44) (boardDivisor params.datarate))
        (2 ^ params.datarate / ((params.bandwidth + 1) * 125 : Nat)) := by
  have positive : 0 < boardDivisor params.datarate := by
    rcases known with same | same | same <;> rw [same] <;> decide
  have symbols : (8 * length - 4 * params.datarate + 28 + 16 : ℚ) =
      ((8 * length - 4 * params.datarate + 44 : Int) : ℚ) := by
    push_cast
    ring
  have divisor : (4 * if (params.datarate = 11 ∧ params.bandwidth = 0) ∨ params.datarate = 12
      then (params.datarate : ℚ) - 2 else params.datarate) = boardDivisor params.datarate := by
    rcases known with same | same | same <;> norm_num [boardDivisor, same]
  simp only [exactTimeOnAir, timeOnAirRounding, id]
  rw [symbols, divisor, rate]
  rw [airtimeOfBlocks, ← ceil_eq_blocksOf _ positive]
  norm_num

/-- The lengths at which the divisors 46 and 40 need the same number of blocks. -/
def agreeingLengths : List Nat := [0, 1, 2, 3, 4, 5, 7, 8, 9, 10, 13, 14, 15, 18, 19, 20, 24, 25, 30]

theorem blocksOf_agree_iff (length : Nat) :
    blocksOf (8 * length - 4 * 12 + 44) 46 = blocksOf (8 * length - 4 * 12 + 44) 40 ↔
      length ∈ agreeingLengths := by
  by_cases short : length < 36
  · have table : ∀ length : Nat, length < 36 → (blocksOf (8 * length - 4 * 12 + 44) 46 =
        blocksOf (8 * length - 4 * 12 + 44) 40 ↔ length ∈ agreeingLengths) := by decide
    exact table length short
  · have absent : length ∉ agreeingLengths := by
      intro member
      have bound : ∀ length ∈ agreeingLengths, length < 36 := by decide
      exact short (bound length member)
    have positive : (0 : Int) < 8 * length - 4 * 12 + 44 := by omega
    simp only [blocksOf, positive, if_true, absent, iff_false]
    omega

/-- The bars of the chart use spreading factors for which script and board differ at
most in the correction for low data rates. -/
theorem bar_factors (bar : (sf, bw) ∈ Graphs.sfS.zip Graphs.bwS) :
    (sf = 8 ∨ sf = 10 ∨ sf = 12) ∧ 0 < bw := by
  have bars : ∀ bar ∈ Graphs.sfS.zip Graphs.bwS, (bar.1 = 8 ∨ bar.1 = 10 ∨ bar.1 = 12) ∧ 0 < bar.2 := by
    decide
  exact bars (sf, bw) bar

/-- For every bar of the ETX chart and every length, the script computes the time on
air of the board unless the spreading factor is 12 and the corrected divisors need
different numbers of blocks. -/
theorem timeOnAir_agrees_iff (bar : (sf, bw) ∈ Graphs.sfS.zip Graphs.bwS) (length : Nat)
    (params : RadioParams) (factor : params.datarate = sf) (width : (params.bandwidth + 1) * 125 = bw)
    (rate : params.codingRate = 2) :
    Graphs.timeOnAir length sf bw = exactTimeOnAir length params ↔ sf ≠ 12 ∨ length ∈ agreeingLengths := by
  obtain ⟨known, wide⟩ := bar_factors bar
  have duration : (0 : ℚ) < 2 ^ sf / bw := by positivity
  rw [script_airtime length known, board_airtime length params rate (by rw [factor]; exact known), factor,
    width, airtimeOfBlocks_inj duration]
  by_cases twelve : sf = 12
  · subst twelve
    have agree := blocksOf_agree_iff length
    simpa [scriptDivisor, boardDivisor] using agree
  · simp [twelve, scriptDivisor, boardDivisor]

theorem timeOnAir_agrees_sample :
    (12, 125) ∈ Graphs.sfS.zip Graphs.bwS ∧
      (Graphs.timeOnAir 30 12 125 = exactTimeOnAir 30 ⟨869500000, 0, 12, 2, 18⟩ ↔
        12 ≠ 12 ∨ 30 ∈ agreeingLengths) :=
  ⟨by decide, timeOnAir_agrees_iff (by decide) 30 ⟨869500000, 0, 12, 2, 18⟩ rfl rfl rfl⟩

/-- Fifty bytes at spreading factor 12: ten blocks for the board, nine for the script. -/
theorem fifty_bytes_differ :
    (12, 125) ∈ Graphs.sfS.zip Graphs.bwS ∧
      Graphs.timeOnAir 50 12 125 ≠ exactTimeOnAir 50 ⟨869500000, 0, 12, 2, 18⟩ := by
  refine ⟨by decide, ?_⟩
  rw [script_airtime 50 (by decide), board_airtime 50 ⟨869500000, 0, 12, 2, 18⟩ rfl (by decide)]
  intro same
  have blocks := (airtimeOfBlocks_inj (by norm_num)).mp same
  exact absurd blocks (by decide)

end LoraEval.Experiment

import LoraEval.Experiment.Numbering
import LoraEval.Firmware.Receptions

/-! The numbers the receiver gives to packets by the time of their arrival. The clock
of a window starts at one second, so the slot of a message ends where the clock of the
next one begins. -/

namespace LoraEval.Experiment

open LoraEval.Core LoraEval.App LoraEval.Firmware

def startDelay (iteration delay : Nat) : Nat := if iteration = 0 then 1000 * delay else 0

def period (settings : Settings) : Nat := 1000 * settings.timeBetween.toNat

/-- The time at which message `n` of an iteration should arrive. -/
def nominalTime (settings : Settings) (iteration delay n : Nat) : Nat :=
  5000 + period settings * n + startDelay iteration delay

def numberingStart (iteration delay : Nat) : Nat := 4000 + startDelay iteration delay

section

variable {settings : Settings} {ldiv0 : Int → Int} {delay : Nat}

theorem msgNumber_eq (positive : 1 ≤ settings.timeBetween.toNat) (iteration time : Nat) :
    msgNumber settings ldiv0 (decide (iteration = 0)) delay (1000 + time) =
      (((time : Int) - numberingStart iteration delay).tdiv (period settings) % 65536).toNat := by
  have scaled : (settings.timeBetween.toNat : Int) * 1000 = period settings := by
    rw [period]
    omega
  have divisor : (period settings : Int) ≠ 0 := by
    rw [period]
    omega
  have elapsed : (if iteration = 0 then (1000 : Int) + time - 1000 * delay - 5000
      else 1000 + time - 5000) = time - numberingStart iteration delay := by
    rw [numberingStart, startDelay]
    split <;> omega
  simp only [msgNumber, scaled, divisor, if_false, decide_eq_true_eq, elapsed]

theorem msgNumber_late (positive : 1 ≤ settings.timeBetween.toNat) (iteration after : Nat) :
    msgNumber settings ldiv0 (decide (iteration = 0)) delay
        (1000 + (numberingStart iteration delay + after : Nat)) = after / period settings % 65536 := by
  rw [msgNumber_eq positive]
  have elapsed : ((numberingStart iteration delay + after : Nat) : Int) - numberingStart iteration delay =
      after := by omega
  rw [elapsed, ← Int.ofNat_tdiv]
  omega

/-- Before it, the number is the negative of the missing periods in sixteen bits. -/
theorem msgNumber_early (positive : 1 ≤ settings.timeBetween.toNat) (iteration : Nat)
    (early : time + missing = numberingStart iteration delay) :
    msgNumber settings ldiv0 (decide (iteration = 0)) delay (1000 + time) =
      ((-((missing / period settings : Nat) : Int)) % 65536).toNat := by
  rw [msgNumber_eq positive]
  have elapsed : (time : Int) - numberingStart iteration delay = -(missing : Int) := by omega
  rw [elapsed, Int.neg_tdiv, ← Int.ofNat_tdiv]

/-- A packet near the nominal time of a message gets its number, unless a slot lasts
only one second and the packet does not arrive before its nominal time. -/
theorem msgNumber_near_iff (positive : 1 ≤ settings.timeBetween.toNat) (iteration : Nat)
    (inside : n < settings.numberOfMessages.toNat)
    (early : nominalTime settings iteration delay n ≤ time + 500)
    (late : time ≤ nominalTime settings iteration delay n + 500) :
    msgNumber settings ldiv0 (decide (iteration = 0)) delay (1000 + time) = n ↔
      2 ≤ settings.timeBetween.toNat ∨ time < nominalTime settings iteration delay n := by
  have few := settings.numberOfMessages.isLt
  have nominal : nominalTime settings iteration delay n =
      numberingStart iteration delay + (n * period settings + 1000) := by
    rw [nominalTime, numberingStart, Nat.mul_comm]
    omega
  obtain ⟨after, rfl⟩ : ∃ after, time = numberingStart iteration delay + after :=
    ⟨time - numberingStart iteration delay, by omega⟩
  have seconds : period settings = 1000 * settings.timeBetween.toNat := rfl
  have next : (n + 1) * period settings = n * period settings + period settings := Nat.succ_mul _ _
  rw [msgNumber_late positive, nominal]
  rw [nominal] at early late
  -- The packet arrives in the slot of its message or, at one second, in the next one.
  by_cases slot : after < (n + 1) * period settings
  · have quotient : after / period settings = n := Nat.div_eq_of_lt_le (by omega) slot
    rw [quotient, Nat.mod_eq_of_lt (by omega)]
    omega
  · have quotient : after / period settings = n + 1 :=
      Nat.div_eq_of_lt_le (by omega) (by rw [Nat.succ_mul, next]; omega)
    rw [quotient, Nat.mod_eq_of_lt (by omega)]
    omega

end

/-- In every run, whatever `lora_recv` returned before, a packet that arrives within half
a second of the nominal time of a message gets the number of that message exactly if the
messages are at least two seconds apart or it arrives before the nominal time. -/
theorem number_right_iff (positive : 1 ≤ settings.timeBetween.toNat)
    (observed : handlings settings ldiv0 delay config inputs = some packets)
    (member : handling ∈ packets) (inside : n < settings.numberOfMessages.toNat)
    (early : nominalTime settings handling.iteration delay n ≤ handling.time + 500)
    (late : handling.time ≤ nominalTime settings handling.iteration delay n + 500) :
    (∃ record, handling.record = some record ∧ record.number = n) ↔
      2 ≤ settings.timeBetween.toNat ∨ handling.time < nominalTime settings handling.iteration delay n := by
  obtain ⟨taken, -⟩ := handlings_taken observed member
  obtain ⟨data, record, reported, -⟩ := taken.reported
  have known : (∃ record, handling.record = some record ∧ record.number = n) ↔ record.number = n := by
    simp [reported.found]
  rw [known, reported.number]
  exact msgNumber_near_iff positive handling.iteration inside early late

def punctualInputs : List (List RecvResult) := [[⟨10000, some ⟨[48], -100, 5⟩⟩]]

/-- With a start delay of five seconds, message 0 should arrive ten seconds after the start. -/
theorem number_right_sample :
    nominalTime ⟨50, 4, 30, 1, 1, 1, 1, 1⟩ 0 5 0 = 10000 ∧
    ∃ packets handling, handlings ⟨50, 4, 30, 1, 1, 1, 1, 1⟩ (fun _ => 0) 5
        (changeConfig (fun _ => 0) #v[0, 0, 0, 0, 0] false) punctualInputs = some packets ∧
      handling ∈ packets ∧ handling.time = 10000 ∧
      ∃ record, handling.record = some record ∧ record.number = 0 := by
  obtain ⟨packets, handling, observed, member, iteration, time, -⟩ :=
    handlings_onePacket 4 10000 ⟨[48], -100, 5⟩
  refine ⟨by decide, packets, handling, observed, member, time, ?_⟩
  refine (number_right_iff (by decide) observed member (by decide) ?_ ?_).mpr (.inl (by decide))
  · rw [iteration, time]
    decide
  · rw [iteration, time]
    decide

/-- With one second between the messages it is taken for message 1. -/
theorem punctual_number_wrong :
    nominalTime ⟨50, 1, 30, 1, 1, 1, 1, 1⟩ 0 5 0 = 10000 ∧
    ∃ packets handling, handlings ⟨50, 1, 30, 1, 1, 1, 1, 1⟩ (fun _ => 0) 5
        (changeConfig (fun _ => 0) #v[0, 0, 0, 0, 0] false) punctualInputs = some packets ∧
      handling ∈ packets ∧ handling.time = 10000 ∧
      ∃ record, handling.record = some record ∧ record.number = 1 := by
  obtain ⟨packets, handling, observed, member, iteration, time, -⟩ :=
    handlings_onePacket 1 10000 ⟨[48], -100, 5⟩
  obtain ⟨data, record, reported, -⟩ := (handlings_taken observed member).1.reported
  refine ⟨by decide, packets, handling, observed, member, time, record, reported.found, ?_⟩
  rw [reported.number, iteration, time]
  decide

section

variable (settings : Settings) (delay : Nat) (handling : Handling)

/-- The packet arrives in the slots of the iteration, counting the period before the first
one, or so early in the start delay that the negative number comes round to them. -/
def InSlots : Prop :=
  let start := numberingStart handling.iteration delay
  let messages := settings.numberOfMessages.toNat
  (start < handling.time + period settings ∧ handling.time < start + messages * period settings) ∨
    ∃ turns ≥ 1, handling.time + (turns * 65536 + 1 - messages) * period settings ≤ start ∧
      start < handling.time + (turns * 65536 + 1) * period settings

/-- The first byte of the buffer is one the app takes for a code of another kind. -/
def TakenForCode : Prop :=
  ∀ first, (overwrite handling.before.transmissionData handling.reception.packet)[0]? = some first →
    -6 ≤ first.toInt ∧ first.toInt ≤ -1

variable {settings ldiv0 delay handling}

theorem negative_mod_lt_iff (few : messages < 65536) (quotient : Nat) :
    ((-(quotient : Int)) % 65536).toNat < messages ↔
      (quotient = 0 ∧ 0 < messages) ∨
        ∃ turns ≥ 1, turns * 65536 + 1 - messages ≤ quotient ∧ quotient < turns * 65536 + 1 := by
  constructor
  · intro small
    by_cases zero : quotient = 0
    · exact .inl ⟨zero, by omega⟩
    · exact .inr ⟨(quotient + 65535) / 65536, by omega, by omega, by omega⟩
  · rintro (⟨rfl, positive⟩ | ⟨turns, once, low, high⟩)
    · simpa using positive
    · omega

theorem msgNumber_lt_iff (positive : 1 ≤ settings.timeBetween.toNat)
    (low : 1 ≤ settings.numberOfMessages.toNat) (high : settings.numberOfMessages.toNat ≤ 100)
    (during : handling.time ≤ iterationTime settings (decide (handling.iteration = 0)) delay) :
    msgNumber settings ldiv0 (decide (handling.iteration = 0)) delay (1000 + handling.time) <
      settings.numberOfMessages.toNat ↔ InSlots settings delay handling := by
  have wide : 1000 ≤ period settings := by
    rw [period]
    omega
  have window : handling.time < numberingStart handling.iteration delay +
      (settings.numberOfMessages.toNat + 2) * period settings := by
    have product : settings.numberOfMessages.toNat * settings.timeBetween.toNat * 1000 =
        settings.numberOfMessages.toNat * period settings := by
      rw [period]
      ring
    rw [Nat.add_mul, numberingStart, startDelay]
    rw [iterationTime] at during
    simp only [decide_eq_true_eq] at during
    split <;> simp_all <;> omega
  have divisor : 0 < period settings := by omega
  rcases Nat.lt_or_ge handling.time (numberingStart handling.iteration delay) with early | late
  · obtain ⟨missing, sum⟩ := Nat.exists_eq_add_of_le early.le
    have before : handling.time < numberingStart handling.iteration delay +
        settings.numberOfMessages.toNat * period settings := by omega
    rw [msgNumber_early positive _ sum.symm, negative_mod_lt_iff (by omega), Nat.div_eq_zero_iff_lt divisor,
      InSlots, sum]
    refine or_congr ⟨fun near => ⟨by omega, by omega⟩, fun near => ⟨by omega, low⟩⟩ ?_
    refine exists_congr fun turns => and_congr_right fun _ => and_congr ?_ ?_
    · rw [Nat.le_div_iff_mul_le divisor]
      omega
    · rw [Nat.div_lt_iff_lt_mul divisor]
      omega
  · obtain ⟨after, sum⟩ := Nat.exists_eq_add_of_le late
    have few : after / period settings < 65536 := by
      have bound : after / period settings < settings.numberOfMessages.toNat + 2 := by
        rw [Nat.div_lt_iff_lt_mul divisor]
        omega
      omega
    rw [sum, msgNumber_late positive, Nat.mod_eq_of_lt few, Nat.div_lt_iff_lt_mul divisor, InSlots, sum]
    constructor
    · intro inside
      exact .inl ⟨by omega, by omega⟩
    · rintro (⟨-, inside⟩ | ⟨turns, once, round, -⟩)
      · omega
      · have shift : period settings ≤
            (turns * 65536 + 1 - settings.numberOfMessages.toNat) * period settings :=
          Nat.le_mul_of_pos_left _ (by omega)
        omega

/-- A number below the number of messages puts the logged total in the range of the
iteration as long as the iteration fits a signed byte. -/
theorem total_inside_iff {record : NumberedRecord} {k messages : Nat}
    (reports : record.Reports (BitVec.ofNat 8 k)) (low : 1 ≤ messages) (high : messages ≤ 100)
    (inside : record.number < messages)
    (logged : loggedTotal messages record.bytes = some total) :
    (k * messages ≤ total ∧ total < (k + 1) * messages) ↔ k < 128 := by
  rw [loggedTotal_eq reports (by omega) (by omega) logged, byte_toInt (by omega), Int.add_mul]
  by_cases small : k < 128
  · rw [byte_toInt small]
    omega
  · have top := (BitVec.ofNat 8 k).toInt_lt
    have least : (BitVec.ofNat 8 k).toInt + 1 ≤ k := by omega
    have product := Int.mul_le_mul_of_nonneg_right least (show (0 : Int) ≤ messages by omega)
    rw [Int.add_mul] at product
    omega

theorem logged_iff (reported : handling.Reported settings ldiv0 delay data record)
    (low : 1 ≤ messages) (high : messages ≤ 100) :
    loggedTotal messages record.bytes = none ↔ TakenForCode handling := by
  obtain ⟨first, start, routed⟩ := loggedTotal_reports reported.reports low high
  have buffer := (reported.front 0 (by decide)).symm.trans start
  rw [routed, TakenForCode, buffer]
  simp

end

/-- In every run a packet handled in the window of its iteration gets a number below the
number of messages, and a logged total in the range of its iteration, exactly if it arrives
in the slots of the iteration and the iteration fits a signed byte or nothing is logged. -/
theorem number_inside_iff (positive : 1 ≤ settings.timeBetween.toNat)
    (low : 1 ≤ settings.numberOfMessages.toNat) (high : settings.numberOfMessages.toNat ≤ 100)
    (observed : handlings settings ldiv0 delay config inputs = some packets) (member : handling ∈ packets)
    (during : handling.time ≤ iterationTime settings (decide (handling.iteration = 0)) delay) :
    (∃ record, handling.record = some record ∧ record.number < settings.numberOfMessages.toNat ∧
      ∀ total, loggedTotal settings.numberOfMessages.toNat record.bytes = some total →
        handling.iteration * settings.numberOfMessages.toNat ≤ total ∧
          total < (handling.iteration + 1) * settings.numberOfMessages.toNat) ↔
      InSlots settings delay handling ∧ (handling.iteration < 128 ∨ TakenForCode handling) := by
  obtain ⟨taken, -⟩ := handlings_taken observed member
  obtain ⟨data, record, reported, -⟩ := taken.reported
  simp only [reported.found, Option.some.injEq, exists_eq_left']
  rw [← msgNumber_lt_iff positive low high during, ← reported.number]
  refine and_congr_right fun inside => ?_
  rw [← logged_iff reported (show (1 : Int) ≤ settings.numberOfMessages.toNat by omega) (by omega)]
  rcases Option.eq_none_or_eq_some (loggedTotal settings.numberOfMessages.toNat record.bytes) with
    silent | ⟨total, logged⟩
  · simp [silent]
  · have range := total_inside_iff reported.reports low high inside logged
    simp [logged, range]

theorem number_inside_sample :
    ∃ packets handling, handlings ⟨50, 4, 30, 1, 1, 1, 1, 1⟩ (fun _ => 0) 5
        (changeConfig (fun _ => 0) #v[0, 0, 0, 0, 0] false) punctualInputs = some packets ∧
      handling ∈ packets ∧ handling.time = 10000 ∧
      ∃ record, handling.record = some record ∧ record.number < 50 ∧
        ∀ total, loggedTotal 50 record.bytes = some total →
          handling.iteration * 50 ≤ total ∧ total < (handling.iteration + 1) * 50 := by
  obtain ⟨packets, handling, observed, member, iteration, time, -⟩ :=
    handlings_onePacket 4 10000 ⟨[48], -100, 5⟩
  refine ⟨packets, handling, observed, member, time, ?_⟩
  refine (number_inside_iff (by decide) (by decide) (by decide) observed member ?_).mpr ⟨.inl ?_, .inl ?_⟩
  · rw [iteration, time]
    decide
  · rw [iteration, time]
    decide
  · rw [iteration]
    decide

/-- A packet that arrives at once, in the start delay, gets a negative number. -/
theorem early_number_outside :
    ∃ packets handling, handlings ⟨50, 4, 30, 1, 1, 1, 1, 1⟩ (fun _ => 0) 5
        (changeConfig (fun _ => 0) #v[0, 0, 0, 0, 0] false) [[⟨100, some ⟨[48], -100, 5⟩⟩]] = some packets ∧
      handling ∈ packets ∧ handling.iteration = 0 ∧ handling.time = 100 ∧
      ∃ record, handling.record = some record ∧ record.number = 65534 ∧
        loggedTotal 50 record.bytes = some (-2) := by
  obtain ⟨packets, handling, observed, member, iteration, time, arrived⟩ :=
    handlings_onePacket 4 100 ⟨[48], -100, 5⟩
  obtain ⟨data, record, reported, -⟩ := (handlings_taken observed member).1.reported
  have number : record.number = 65534 := by
    rw [reported.number, iteration, time]
    decide
  refine ⟨packets, handling, observed, member, iteration, time, record, reported.found, number, ?_⟩
  obtain ⟨first, start, routed⟩ := loggedTotal_reports reported.reports (show 1 ≤ 50 by decide) (by decide)
  have buffer := (reported.front 0 (by decide)).symm.trans start
  rw [arrived, overwrite_front _ (by decide) (by decide)] at buffer
  obtain rfl : (48 : Byte) = first := Option.some.inj buffer
  rw [routed, if_neg (by decide), number, iteration]
  decide

end LoraEval.Experiment

import LoraEval.Experiment.Start
import LoraEval.Firmware.StartDelay

/-! The start delay on phone, sender and receiver. The delay is the tail of the
settings, without a terminator; the receiver's loop takes its bound from the
acknowledgement, which is longer than settings and array. -/

namespace LoraEval.Experiment

open LoraEval.Core LoraEval.App LoraEval.Firmware

def Terminated (memory : List Byte) : Prop := ∃ byte ∈ memory, digitValue byte = none

/-- Phone, sender and receiver agree on a start delay: `encoded` seconds in the
settings, `wanted` seconds on the phone. Both boards compute it whatever the
memory behind their arrays holds, and their loops stay inside the arrays. -/
structure DelaysAgree (settings : List Byte) (encoded wanted txPower : Int) : Prop where
  sender : ∀ (data : Vector Byte maxDataLen) array behind, array.length = settings.length - 9 →
    Terminated behind → ∃ d : Nat,
      senderDelay (overwrite data settings) settings.length (array ++ behind) = some d ∧ d = encoded
  receiver : ∀ behindSettings array behind, array.length = 5 → maxDataLen ≤ settings.length +
    List.length behindSettings → Terminated (behind.drop 6) → ∃ d : Nat,
      receiverDelay settings maxDataLen behindSettings (array ++ behind) txPower = some d ∧ d = wanted
  senderInside : ∀ (data : Vector Byte maxDataLen) memory,
    let loop := extractDelay settings.length (overwrite data settings).toList memory
    (∀ i ∈ loop.reads, i < maxDataLen) ∧ ∀ i ∈ loop.writes, i < settings.length - 9
  receiverInside : ∀ behindSettings memory,
    let loop := extractDelay maxDataLen (settings ++ behindSettings) memory
    (∀ i ∈ loop.reads, i < settings.length) ∧ ∀ i ∈ loop.writes, i < 5

/-- The seconds `startExperiment` encodes, and the seconds the phone counts down. -/
def encodedSeconds (power : Byte) (hoursD minutesD secondsD : Int) : Int :=
  (encodedTotal power (delayTotal hoursD minutesD secondsD)).tdiv 1000

def wantedSeconds (hoursD minutesD secondsD : Int) : Int := 3600 * hoursD + 60 * minutesD + secondsD

theorem sender_inside {settings : List Byte} (short : settings.length ≤ maxDataLen)
    (source memory : List Byte) :
    (∀ i ∈ (extractDelay settings.length source memory).reads, i < maxDataLen) ∧
      ∀ i ∈ (extractDelay settings.length source memory).writes, i < settings.length - 9 := by
  rw [(extractDelay_accesses _ _ _).1, (extractDelay_accesses _ _ _).2]
  simp only [List.mem_range'_1]
  exact ⟨fun i range => by omega, fun i range => by omega⟩

/-- The receiver's loop reads position 19 of settings that are at most 17 bytes
long, and writes eleven characters to an array of five. -/
theorem receiver_outside {settings : List Byte} (short : settings.length ≤ 17) (source memory : List Byte) :
    (∃ i ∈ (extractDelay maxDataLen source memory).reads, settings.length ≤ i) ∧
      ∃ i ∈ (extractDelay maxDataLen source memory).writes, 5 ≤ i := by
  rw [(extractDelay_accesses _ _ _).1, (extractDelay_accesses _ _ _).2]
  exact ⟨⟨19, by decide, by omega⟩, ⟨10, by decide, by decide⟩⟩

theorem senderDelay_eq (data : Vector Byte maxDataLen) (short : settings.length ≤ maxDataLen)
    (size : array.length = settings.length - 9) (behind : List Byte) :
    senderDelay (overwrite data settings) settings.length (array ++ behind) =
      parsedDelay (settings.drop 9 ++ behind) := by
  have kept : (array ++ behind).drop (settings.length - 9) = behind := by
    rw [← size, List.drop_left]
  rw [senderDelay, extractDelay_memory (by simpa using short) (by rw [List.length_append]; omega),
    overwrite_take data short, kept]

/-- What the receiver parses: the delay, then whatever follows the settings in
memory up to position 19, then the memory behind its array. -/
theorem receiverDelay_eq (long : 9 ≤ settings.length) (short : settings.length ≤ maxDataLen)
    (enough : maxDataLen ≤ settings.length + behindSettings.length) (room : 11 ≤ memory.length)
    (txPower : Int) :
    receiverDelay settings maxDataLen behindSettings memory txPower =
      (parsedDelay (settings.drop 9 ++ (behindSettings.take (maxDataLen - settings.length) ++
        memory.drop 11))).map fun d : Nat =>
          if 10 < txPower then (((d : Int) - 17) % 65536).toNat else d := by
  rw [receiverDelay, extractDelay_memory (by rw [List.length_append]; exact enough) room,
    List.take_append, List.take_of_length_le short, List.drop_append_of_le_length long,
    List.append_assoc]
  rfl

private theorem readDigits_numeral (seconds : Nat) :
    readDigits digitValue (Java.numeralBytes seconds) 0 = some seconds := by
  rw [Java.numeralBytes, decimal_natCast, readDigits_map]
  exact readDigits_toDigits digitValue_ascii seconds

private theorem parsedDelay_numeral (seconds : Nat) (stop : digitValue symbol = none) (behind : List Byte) :
    parsedDelay (Java.numeralBytes seconds ++ symbol :: behind) = some (seconds % 65536) :=
  parsedDelay_digits (Java.numeralBytes_ne_nil _) (readDigits_numeral seconds) stop behind

private theorem parsedDelay_digit (seconds digit : Nat) (small : digit < 10) :
    parsedDelay (Java.numeralBytes seconds ++ [BitVec.ofNat 8 (digit + 48), 0]) =
      some ((10 * seconds + digit) % 65536) := by
  have value : digitValue (BitVec.ofNat 8 (digit + 48)) = some digit := by
    interval_cases digit <;> decide
  have read : readDigits digitValue (Java.numeralBytes seconds ++ [BitVec.ofNat 8 (digit + 48)]) 0 =
      some (10 * seconds + digit) := by
    rw [readDigits_append, readDigits_numeral]
    simp [readDigits, value]
  have parsed := parsedDelay_digits (by simp) read (show digitValue 0 = none by decide) []
  rwa [List.append_assoc] at parsed

/-- A digit in the memory behind the sender's array becomes part of its delay, for
every number of seconds. -/
theorem sender_delay_depends (seconds : Nat) (tail : settings.drop 9 = Java.numeralBytes seconds)
    (short : settings.length ≤ maxDataLen) (data : Vector Byte maxDataLen)
    (size : array.length = settings.length - 9) :
    senderDelay (overwrite data settings) settings.length (array ++ [48, 0]) ≠
      senderDelay (overwrite data settings) settings.length (array ++ [49, 0]) := by
  rw [senderDelay_eq data short size, senderDelay_eq data short size, tail]
  have first := parsedDelay_digit seconds 0 (by decide)
  have second := parsedDelay_digit seconds 1 (by decide)
  intro same
  have equal := first.symm.trans (same.trans second)
  have values := Option.some.inj equal
  omega

/-- If the memory behind the sender's array and behind the settings happens to
start with a character that is not a digit, both boards compute the encoded
seconds in 16 bits, and the receiver subtracts its 17 seconds. -/
theorem delays_with_terminators (seconds : Nat) (tail : settings.drop 9 = Java.numeralBytes seconds)
    (long : 9 ≤ settings.length) (short : settings.length ≤ 17) (data : Vector Byte maxDataLen)
    (size : array.length = settings.length - 9) (stop : digitValue symbol = none)
    (enough : 10 ≤ behindSettings.length) (room : 11 ≤ memory.length) (txPower : Int) :
    senderDelay (overwrite data settings) settings.length (array ++ symbol :: behind) =
        some (seconds % 65536) ∧
      receiverDelay settings maxDataLen (symbol :: behindSettings) memory txPower =
        some (if 10 < txPower then (((seconds % 65536 : Nat) - 17 : Int) % 65536).toNat
          else seconds % 65536) := by
  have fits : settings.length ≤ maxDataLen := Nat.le_trans short (by decide)
  constructor
  · rw [senderDelay_eq data fits size, tail]
    exact parsedDelay_numeral seconds stop behind
  · have next : maxDataLen - settings.length = (maxDataLen - settings.length - 1) + 1 := by
      simp only [maxDataLen]
      omega
    rw [receiverDelay_eq long fits (by simp only [maxDataLen, List.length_cons]; omega) room, tail, next,
      List.take_succ_cons, List.cons_append, parsedDelay_numeral seconds stop]
    rfl

/-- The power `change_config` decodes from a position of the power spinner. -/
def txPowerOf (power : Byte) : Int := (BitVec.ofInt 8 (18 - power.toNat * 2)).toInt

/-- No accepted delay is handled as promised: the receiver's loop always leaves
both of its arrays. -/
theorem delays_never_agree (stored : experimentReady form rowId = .ok (.stored entry))
    (started : startExperiment entry power hours minutes seconds = .ok (some settings)) :
    ∃ hoursD minutesD secondsD, Java.parseInt hours = .ok hoursD ∧
      Java.parseInt minutes = .ok minutesD ∧ Java.parseInt seconds = .ok secondsD ∧
      ¬ DelaysAgree settings (encodedSeconds power hoursD minutesD secondsD)
        (wantedSeconds hoursD minutesD secondsD) (txPowerOf power) := by
  obtain ⟨hoursD, minutesD, secondsD, parsedHours, parsedMinutes, parsedSeconds, -, -⟩ :=
    startExperiment_eq_some.mp started
  refine ⟨hoursD, minutesD, secondsD, parsedHours, parsedMinutes, parsedSeconds, ?_⟩
  intro agree
  obtain ⟨⟨i, read, beyond⟩, -⟩ :=
    receiver_outside (written_of_start stored started).short (settings ++ []) []
  have inside := (agree.receiverInside [] []).1 i read
  omega

theorem delays_never_agree_sample :
    experimentReady (sampleForm "50" "4") 1 = .ok (.stored ((sampleForm "50" "4").record 1)) ∧
      startExperiment ((sampleForm "50" "4").record 1) 5 "0" "0" "10" =
        .ok (some ((sampleForm "50" "4").header 50 4 30 ++ delayBytes 10000)) ∧
      ∃ hoursD minutesD secondsD, Java.parseInt "0" = .ok hoursD ∧ Java.parseInt "0" = .ok minutesD ∧
        Java.parseInt "10" = .ok secondsD ∧
        ¬ DelaysAgree ((sampleForm "50" "4").header 50 4 30 ++ delayBytes 10000)
          (encodedSeconds 5 hoursD minutesD secondsD) (wantedSeconds hoursD minutesD secondsD)
          (txPowerOf 5) := by
  have stored := sampleForm_fifty_stored
  have started := sampleForm_fifty_started
  exact ⟨stored, started, delays_never_agree stored started⟩

/-- Ten seconds at low power: the receiver writes eleven characters, from position
9 to 19 of eleven settings bytes, to an array of five. -/
theorem ten_seconds_overrun :
    ¬ DelaysAgree ((sampleForm "50" "4").header 50 4 30 ++ delayBytes 10000) (encodedSeconds 5 0 0 10)
      (wantedSeconds 0 0 10) (txPowerOf 5) := by
  intro agree
  have short : ((sampleForm "50" "4").header 50 4 30 ++ delayBytes 10000).length ≤ 17 := by decide
  obtain ⟨-, i, written, beyond⟩ := receiver_outside short
    ((sampleForm "50" "4").header 50 4 30 ++ delayBytes 10000 ++ []) []
  have inside := (agree.receiverInside [] []).2 i written
  omega

end LoraEval.Experiment

import LoraEval.Experiment.Timing
import LoraEval.Firmware.Receptions
import Mathlib.Algebra.BigOperators.Ring.List

/-! The operations of the measurement loops that can fault. An index outside an array
has no result in the models of the loops; divisions, shifts and `int` products are
collected here from the runs. -/

namespace LoraEval.Experiment

open LoraEval.Core LoraEval.App LoraEval.Firmware

inductive Operation where
  | divide (divisor : Int)
  | divideFloat (divisor : ℚ)
  | multiply (left right : Int)
  | shift (places : Nat)
deriving DecidableEq

/-- The operation has a result in an `int` of 32 bits. -/
def Operation.Safe : Operation → Prop
  | divide divisor => divisor ≠ 0
  | divideFloat divisor => divisor ≠ 0
  | multiply left right => -2 ^ 31 ≤ left * right ∧ left * right < 2 ^ 31
  | shift places => places < 31

section

variable (settings : Settings)

/-- The power loop computes `18 - (m * 2)`. -/
def powerOperation (params : RadioParams) : Operation := .multiply ((18 - params.txPower) / 2) 2

/-- Digits and payload of message `n`. -/
def messageOperations (n : Nat) : List Operation :=
  [.divide 100, .divide 10, .divide 10, .multiply n (settings.msgLength.toNat - 9), .divide 200]

/-- What the sender computes for an event: the time on air of a combination, or the
content of a message and the sleep after it. -/
def senderOperations : SenderEvent → List Operation
  | .configured params =>
    let ldrOpt := (params.datarate = 11 ∧ params.bandwidth = 0) ∨ params.datarate = 12
    [powerOperation params,
      .divideFloat (single (4 * if ldrOpt then single (params.datarate - 2) else params.datarate)),
      .shift params.datarate, .divideFloat (single ((params.bandwidth + 1) * 125))]
  | .sent _ n _ => messageOperations settings n ++ [.multiply settings.timeBetween.toNat 1000]
  | .slept _ => []

def delayOperations (delay iteration : Nat) : List Operation :=
  if iteration = 0 then [.multiply 1000 delay] else []

def windowOperations (delay : Nat) (window : RadioParams × Nat) : List Operation :=
  [powerOperation window.1, .multiply settings.numberOfMessages.toNat settings.timeBetween.toNat,
    .multiply (settings.numberOfMessages.toNat * settings.timeBetween.toNat) 1000] ++
  delayOperations delay window.2

/-- What the receiver computes for a packet: its number, and the message of that number. -/
def receptionOperations (ldiv0 : Int → Int) (delay : Nat) (handling : Handling) : List Operation :=
  delayOperations delay handling.iteration ++
  [.multiply settings.timeBetween.toNat 1000, .divide (settings.timeBetween.toNat * 1000)] ++
  messageOperations settings
    (msgNumber settings ldiv0 (decide (handling.iteration = 0)) delay (1000 + handling.time))

/-- Whatever is in the buffers before and whatever is received when, both runs have a
result, so every index is in range, and every operation is safe. -/
structure FaultFree : Prop where
  sender : ∀ state : SenderState settings.msgLength.toNat, state.trace = [] →
    ∃ final, senderExperiment settings state = some final ∧
      ∀ event ∈ final.trace, ∀ operation ∈ senderOperations settings event, operation.Safe
  receiver : ∀ ldiv0 delay config inputs, delay < 65536 →
    ∃ final packets, receiverExperiment settings ldiv0 delay (.start config inputs) = some final ∧
      handlings settings ldiv0 delay config inputs = some packets ∧
      (∀ window ∈ final.configuredParams.zipIdx,
        ∀ operation ∈ windowOperations settings delay window, operation.Safe) ∧
      ∀ handling ∈ packets, ∀ operation ∈ receptionOperations settings ldiv0 delay handling, operation.Safe

variable {settings}

theorem multiply_safe {left right : Nat} (one : left ≤ a) (two : right ≤ b) (small : a * b < 2 ^ 31) :
    (Operation.multiply left right).Safe := by
  have product := Nat.mul_le_mul one two
  rw [Operation.Safe, ← Int.natCast_mul]
  omega

theorem power_safe {combination : Combination} (valid : combination.Valid) :
    (powerOperation combination.params).Safe := by
  have power := valid.power
  have index : (18 - combination.params.txPower) / 2 = (combination.power : Int) := by
    simp only [Combination.params]
    omega
  rw [powerOperation, index]
  exact multiply_safe (Nat.le_of_lt power) (Nat.le_refl 2) (by decide)

theorem delay_safe (few : delay < 65536) (iteration : Nat) :
    ∀ operation ∈ delayOperations delay iteration, operation.Safe := by
  intro operation member
  rw [delayOperations] at member
  split at member
  · rw [List.mem_singleton.mp member]
    exact multiply_safe (Nat.le_refl 1000) (Nat.le_of_lt few) (by decide)
  · simp at member

theorem message_safe (long : 11 ≤ settings.msgLength.toNat) (few : n < 65536) :
    ∀ operation ∈ messageOperations settings n, operation.Safe := by
  have payload : (Operation.multiply n (settings.msgLength.toNat - 9)).Safe := by
    have rest : (settings.msgLength.toNat : Int) - 9 = (settings.msgLength.toNat - 9 : Nat) := by omega
    rw [rest]
    have size := settings.msgLength.isLt
    exact multiply_safe (Nat.le_of_lt few) (show settings.msgLength.toNat - 9 ≤ 256 by omega) (by decide)
  simpa [messageOperations, Operation.Safe] using payload

theorem period_safe (settings : Settings) : (Operation.multiply settings.timeBetween.toNat 1000).Safe :=
  multiply_safe (Nat.le_of_lt settings.timeBetween.isLt) (Nat.le_refl 1000) (by decide)

theorem airtime_safe (fits : Transmittable length params) (power : (powerOperation params).Safe) :
    ∀ operation ∈ senderOperations settings (.configured params), operation.Safe := by
  have rate := fits.blockRate_bounds
  have symbols : single (4 * if (params.datarate = 11 ∧ params.bandwidth = 0) ∨ params.datarate = 12
      then single (params.datarate - 2) else params.datarate) ≠ 0 := by
    rw [fits.divisor_eq]
    exact Nat.cast_ne_zero.mpr (by omega)
  have narrow := fits.narrow
  have width : single ((params.bandwidth + 1) * 125) = ((params.bandwidth + 1) * 125 : Nat) :=
    single_eq_natCast (by push_cast; ring) (by omega)
  have bandwidth : single ((params.bandwidth + 1) * 125) ≠ 0 := by
    rw [width]
    exact Nat.cast_ne_zero.mpr (by omega)
  have shift : params.datarate < 31 := Nat.lt_of_le_of_lt fits.slow (by decide)
  intro operation member
  simp only [senderOperations, List.mem_cons, List.not_mem_nil, or_false] at member
  rcases member with rfl | rfl | rfl | rfl
  · exact power
  · exact symbols
  · exact shift
  · exact bandwidth

theorem SettingsOf.sender_safe (of : SettingsOf form settings) (accepted : Accepted form)
    (state : SenderState settings.msgLength.toNat) (quiet : state.trace = []) :
    ∃ final, senderExperiment settings state = some final ∧
      ∀ event ∈ final.trace, ∀ operation ∈ senderOperations settings event, operation.Safe := by
  obtain ⟨final, run, output⟩ := senderExperiment_trace settings (of.long accepted) state
  refine ⟨final, run, ?_⟩
  intro event member operation performed
  rw [output, quiet, List.nil_append] at member
  obtain ⟨combination, selected, within⟩ := List.mem_flatMap.mp member
  cases event with
  | configured params =>
    obtain rfl : params = combination.params := by
      simpa [combinationTrace, messageTrace] using within
    exact airtime_safe (of.transmittable accepted selected)
      (power_safe (combination_valid settings selected)) operation performed
  | sent params n bytes =>
    have inside : n < settings.numberOfMessages.toNat := by
      simp only [combinationTrace, messageTrace, List.mem_append, List.mem_flatMap, List.mem_cons,
        List.not_mem_nil, or_false, reduceCtorEq, false_or, SenderEvent.sent.injEq, List.mem_range] at within
      obtain ⟨number, inside, -, rfl, -⟩ := within
      exact inside
    have few := settings.numberOfMessages.isLt
    rcases List.mem_append.mp performed with content | sleep
    · exact message_safe (of.long accepted) (by omega) operation content
    · rw [List.mem_singleton.mp sleep]
      exact period_safe settings
  | slept time => simp [senderOperations] at performed

theorem window_safe (few : delay < 65536) (selected : combination ∈ settings.combinations) (k : Nat) :
    ∀ operation ∈ windowOperations settings delay (combination.params, k), operation.Safe := by
  have messages := Nat.le_of_lt settings.numberOfMessages.isLt
  have time := Nat.le_of_lt settings.timeBetween.isLt
  have total : settings.numberOfMessages.toNat * settings.timeBetween.toNat ≤ 65536 :=
    Nat.mul_le_mul messages time
  intro operation member
  rcases List.mem_append.mp member with fixed | delayed
  · simp only [List.mem_cons, List.not_mem_nil, or_false] at fixed
    rcases fixed with rfl | rfl | rfl
    · exact power_safe (combination_valid settings selected)
    · exact multiply_safe messages time (by decide)
    · rw [← Int.natCast_mul]
      exact multiply_safe total (Nat.le_refl 1000) (by decide)
  · exact delay_safe few k operation delayed

theorem reception_safe_iff (long : 11 ≤ settings.msgLength.toNat) (few : delay < 65536) :
    (∀ operation ∈ receptionOperations settings ldiv0 delay handling, operation.Safe) ↔
      settings.timeBetween ≠ 0 := by
  have number : msgNumber settings ldiv0 (decide (handling.iteration = 0)) delay
      (1000 + handling.time) < 65536 := by
    simp only [msgNumber]
    omega
  have divisor : (Operation.divide (settings.timeBetween.toNat * 1000)).Safe ↔ settings.timeBetween ≠ 0 := by
    have zero : settings.timeBetween.toNat = 0 ↔ settings.timeBetween = 0 := by
      rw [← BitVec.toNat_inj]
      rfl
    rw [Operation.Safe, ne_eq, ne_eq, ← zero]
    omega
  have late := delay_safe few handling.iteration
  have content := message_safe long number
  constructor
  · intro safe
    exact divisor.mp (safe _ (by simp [receptionOperations]))
  · intro apart operation member
    rcases List.mem_append.mp member with front | message
    · rcases List.mem_append.mp front with delayed | numbering
      · exact late operation delayed
      · simp only [List.mem_cons, List.not_mem_nil, or_false] at numbering
        rcases numbering with rfl | rfl
        · exact period_safe settings
        · exact divisor.mpr apart
    · exact content operation message

theorem SettingsOf.selected (of : SettingsOf form settings) (accepted : Accepted form) :
    settings.combinations ≠ [] := by
  have some (count : Nat) (member : count ∈ (form.boxes.lists.map checked).map List.length) : 0 < count := by
    obtain ⟨items, found, rfl⟩ := List.mem_map.mp member
    obtain ⟨list, within, rfl⟩ := List.mem_map.mp found
    exact List.length_pos_of_ne_nil (checked_ne_nil (List.all_eq_true.mp accepted.boxes list within))
  apply List.ne_nil_of_length_pos
  rw [Settings.combinations, List.length_map, of.paths, choices, product_length]
  exact Nat.pos_of_ne_zero (List.prod_ne_zero fun zero => Nat.lt_irrefl 0 (some 0 zero))

end

/-- For every accepted form that is encoded, the measurement loops cannot fault exactly
if the messages are not zero seconds apart. -/
theorem loops_faultFree_iff (stored : experimentReady form rowId = .ok (.stored entry))
    (encoded : createSettingsBytes entry total = .ok bytes)
    (read : Settings.ofBytes bytes = some settings) :
    FaultFree settings ↔ Java.parseByte form.timeBetween ≠ .ok 0 := by
  obtain ⟨accepted, rfl⟩ := (experimentReady_eq_stored rowId).mp stored
  obtain ⟨same, read', of⟩ := settings_of_encoded encoded
  obtain rfl : settings = same := Option.some.inj (read.symm.trans read')
  have long := of.long accepted
  rw [of.time, ne_eq, Except.ok.injEq]
  constructor
  · intro faultFree
    obtain ⟨packets, handling, observed, member, -⟩ := handlings_first long (of.selected accepted)
      (fun _ => 0) 5 (changeConfig (fun _ => 0) #v[0, 0, 0, 0, 0] false) 10000 ⟨[48], -100, 5⟩ [] []
    obtain ⟨final, same, -, observed', -, safe⟩ := faultFree.receiver (fun _ => 0) 5
      (changeConfig (fun _ => 0) #v[0, 0, 0, 0, 0] false) [[⟨10000, some ⟨[48], -100, 5⟩⟩]] (by decide)
    obtain rfl : packets = same := Option.some.inj (observed.symm.trans observed')
    exact (reception_safe_iff long (by decide)).mp (safe handling member)
  · intro apart
    refine ⟨of.sender_safe accepted, ?_⟩
    intro ldiv0 delay config inputs few
    obtain ⟨final, run, configured, -⟩ :=
      receiverExperiment_spec settings long ldiv0 delay (.start config inputs) rfl
    obtain ⟨packets, observed, -⟩ :
        ∃ packets, handlings settings ldiv0 delay config inputs = some packets ∧ _ :=
      handlings_complete long config inputs
    refine ⟨final, packets, run, observed, ?_, fun handling _ => (reception_safe_iff long few).mpr apart⟩
    rintro ⟨params, k⟩ member
    rw [configured] at member
    have listed := List.mem_of_getElem? (List.mem_zipIdx_iff_getElem?.mp member)
    obtain ⟨combination, selected, rfl⟩ := List.mem_map.mp listed
    exact window_safe few selected k

theorem loops_faultFree_sample :
    experimentReady (sampleForm "50" "4") 1 = .ok (.stored ((sampleForm "50" "4").record 1)) ∧
      createSettingsBytes ((sampleForm "50" "4").record 1) 5000 =
        .ok ((sampleForm "50" "4").header 50 4 30 ++ delayBytes 5000) ∧
      FaultFree ⟨50, 4, 30, 1, 1, 1, 1, 1⟩ := by
  have stored := sampleForm_fifty_stored
  have encoded := sampleForm_fifty_encoded
  have read : Settings.ofBytes ((sampleForm "50" "4").header 50 4 30 ++ delayBytes 5000) =
      some ⟨50, 4, 30, 1, 1, 1, 1, 1⟩ := by decide
  exact ⟨stored, encoded, (loops_faultFree_iff stored encoded read).mpr (by decide)⟩

/-- A form with zero seconds between the messages is accepted, and the first packet
is numbered with a division by zero. -/
theorem zero_seconds_divide :
    experimentReady (sampleForm "50" "0") 1 = .ok (.stored ((sampleForm "50" "0").record 1)) ∧
      createSettingsBytes ((sampleForm "50" "0").record 1) 5000 =
        .ok ((sampleForm "50" "0").header 50 0 30 ++ delayBytes 5000) ∧
      Settings.ofBytes ((sampleForm "50" "0").header 50 0 30 ++ delayBytes 5000) =
        some ⟨50, 0, 30, 1, 1, 1, 1, 1⟩ ∧
      ∃ packets handling, handlings ⟨50, 0, 30, 1, 1, 1, 1, 1⟩ (fun _ => 0) 5
          (changeConfig (fun _ => 0) #v[0, 0, 0, 0, 0] false)
          [[⟨10000, some ⟨[48], -100, 5⟩⟩]] = some packets ∧
        handling ∈ packets ∧
        .divide 0 ∈ receptionOperations ⟨50, 0, 30, 1, 1, 1, 1, 1⟩ (fun _ => 0) 5 handling := by
  have stored := sampleForm_stored "50" "0" 50 (by decide) (by decide) (by decide) (by decide) 1
  have encoded := sampleForm_encoded (show Java.parseByte "50" = .ok 50 by decide)
    (show Java.parseByte "0" = .ok 0 by decide) 1 5000
  obtain ⟨packets, handling, observed, member, -⟩ :=
    handlings_onePacket 0 10000 ⟨[48], -100, 5⟩
  refine ⟨stored, encoded, by decide, packets, handling, observed, member, ?_⟩
  simp [receptionOperations]

end LoraEval.Experiment

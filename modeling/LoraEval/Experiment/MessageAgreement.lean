import LoraEval.Firmware.SenderInvariant
import LoraEval.Firmware.Receptions

namespace LoraEval.Experiment

open LoraEval.Core LoraEval.Firmware

/-- A sender transmits exactly the messages of the selected combinations. -/
theorem sent_iff (settings : Settings) :
    SenderEvent.sent params n bytes ∈ settings.combinations.flatMap (combinationTrace settings) ↔
      ∃ combination ∈ settings.combinations, params = combination.params ∧
        n < settings.numberOfMessages.toNat ∧
        bytes = message combination settings.msgLength.toNat n := by
  simp only [List.mem_flatMap]
  refine exists_congr fun combination => and_congr_right fun _ => ?_
  simp only [combinationTrace, messageTrace, List.mem_append, List.mem_flatMap, List.mem_cons,
    List.not_mem_nil, or_false, reduceCtorEq, false_or, SenderEvent.sent.injEq, List.mem_range]
  constructor
  · rintro ⟨number, few, rfl, rfl, rfl⟩
    exact ⟨rfl, few, rfl⟩
  · rintro ⟨rfl, few, rfl⟩
    exact ⟨n, few, rfl, rfl, rfl⟩

/-- What the receiver's loops do on the way to a combination, from any buffers. -/
def reach (combination : Combination) (state : ReceiverState) : Option ReceiverState := do
  let compareData ← store state.compareData 5 underscore
  let state ← ReceiverState.enter 0 combination.frequency { state with compareData }
  let state ← state.enter 1 combination.bandwidth
  let state ← state.enter 2 combination.datarate
  let state ← state.enter 3 combination.codingRate
  state.enter 4 combination.power

private theorem enter_entered (level : Nat) (state : ReceiverState)
    (entered : Entered path state.config state.compareData) (depth : path.length = level)
    (known : level < 5) (inside : index < 8) :
    ∃ next, state.enter level index = some next ∧
      Entered (path ++ [index]) next.config next.compareData := by
  obtain ⟨config, bytes, assigned, stored, extended, -⟩ :=
    entered.extend depth known inside (by decide)
  exact ⟨{ state with config, compareData := bytes },
    by simp [ReceiverState.enter, assigned, stored], extended⟩

theorem reach_entered (state : ReceiverState) (valid : combination.Valid) :
    ∃ ready, reach combination state = some ready ∧
      Entered [combination.frequency, combination.bandwidth, combination.datarate,
        combination.codingRate, combination.power] ready.config ready.compareData := by
  obtain ⟨bytes, stored, written, -⟩ :=
    store_spec state.compareData underscore (show 5 < maxTransmLen by decide)
  have opened : Entered [] state.config bytes := ⟨written, by simp [Along], by simp [Along]⟩
  obtain ⟨first, one, entered⟩ :=
    enter_entered 0 { state with compareData := bytes } opened rfl (by decide) valid.frequency
  obtain ⟨second, two, entered⟩ :=
    enter_entered 1 first entered rfl (by decide) (Nat.lt_trans valid.bandwidth (by decide))
  obtain ⟨third, three, entered⟩ :=
    enter_entered 2 second entered rfl (by decide) (Nat.lt_trans valid.datarate (by decide))
  obtain ⟨fourth, four, entered⟩ :=
    enter_entered 3 third entered rfl (by decide) (Nat.lt_trans valid.codingRate (by decide))
  obtain ⟨ready, five, entered⟩ := enter_entered 4 fourth entered rfl (by decide) valid.power
  exact ⟨ready, by simp [reach, stored, one, two, three, four, five], entered⟩

/-- On its way to a selected combination and number, the receiver builds the message. -/
theorem reach_expects (settings : Settings) (long : 11 ≤ settings.msgLength.toNat)
    (member : combination ∈ settings.combinations) (n : Nat) (state : ReceiverState) :
    ∃ ready next, reach combination state = some ready ∧ expectMessage settings n ready = some next ∧
      next.compareData.toList.take settings.msgLength.toNat =
        message combination settings.msgLength.toNat n := by
  obtain ⟨path, chosen, rfl⟩ := List.mem_map.mp member
  obtain ⟨ready, reached, entered⟩ := reach_entered state (combination_valid settings member)
  match path, (path_valid settings chosen).1 with
  | [_, _, _, _, _], _ =>
    obtain ⟨data, built, -, content⟩ := expectMessage_eq chosen long n entered
    exact ⟨ready, _, reached, built, content⟩

/-- The messages of a run of the sender, those a receiver expects from any state of its
buffers, and those it compared with in a run on `inputs`. -/
structure MessagesAgree (settings : Settings) (ldiv0 : Int → Int) (delay : Nat)
    (inputs : List (List RecvResult)) (sender : List SenderEvent) (receiver : List ReceiverEvent) :
    Prop where
  all : ∀ combination ∈ settings.combinations, ∀ n < settings.numberOfMessages.toNat,
    ∃ bytes, bytes.length = settings.msgLength.toNat ∧ .sent combination.params n bytes ∈ sender
  expected : ∀ combination ∈ settings.combinations, ∀ n < settings.numberOfMessages.toNat,
    ∀ bytes, .sent combination.params n bytes ∈ sender → ∀ state, ∃ ready next,
      reach combination state = some ready ∧ expectMessage settings n ready = some next ∧
      next.compareData.toList.take settings.msgLength.toNat = bytes
  compared : ∀ k combination time reception, settings.combinations[k]? = some combination →
    (k, time, reception) ∈ windowArrivals settings delay inputs k →
    ∃ compareData, .compared combination.params
        (msgNumber settings ldiv0 (decide (k = 0)) delay (1000 + time)) compareData ∈ receiver
  same : ∀ params n bytes compareData, .sent params n bytes ∈ sender →
    .compared params n compareData ∈ receiver → compareData.take settings.msgLength.toNat = bytes
  distinct : ∀ params n bytes params' n' bytes', .sent params n bytes ∈ sender →
    .sent params' n' bytes' ∈ sender → bytes.take 9 = bytes'.take 9 → params = params' ∧ n = n'

/-- For every message length from 11 on and at most 100 messages, both measurement
loops run without leaving a buffer or the payload table, and agree on every
message, from any initial buffers and for everything the radio delivers. -/
theorem messages_agree (settings : Settings) (long : 11 ≤ settings.msgLength.toNat)
    (few : settings.numberOfMessages.toNat ≤ 100) (ldiv0 : Int → Int) (delay : Nat)
    (sender : SenderState settings.msgLength.toNat) (quiet : sender.trace = [])
    (receiver : ReceiverState) (starts : receiver.Starts) :
    ∃ sent received, senderExperiment settings sender = some sent ∧
      receiverExperiment settings ldiv0 delay receiver = some received ∧
      MessagesAgree settings ldiv0 delay receiver.inputs sent.trace received.trace := by
  obtain ⟨sent, transmitted, output⟩ := senderExperiment_trace settings long sender
  obtain ⟨received, run, -, expected⟩ :=
    receiverExperiment_spec settings long ldiv0 delay receiver starts.fresh
  rw [quiet, List.nil_append] at output
  refine ⟨sent, received, transmitted, run, ?_, ?_, ?_, ?_, ?_⟩
  · intro combination member n inside
    refine ⟨message combination settings.msgLength.toNat n, message_length _ _ _, ?_⟩
    rw [output]
    exact (sent_iff settings).mpr ⟨combination, member, rfl, inside, rfl⟩
  · intro combination member n inside bytes transmission state
    rw [output] at transmission
    obtain ⟨other, member', same, -, rfl⟩ := (sent_iff settings).mp transmission
    obtain rfl := Combination.params_injective (combination_valid settings member).frequency
      (combination_valid settings member').frequency same
    exact reach_expects settings long member n state
  · intro k combination time reception found arrives
    obtain ⟨data, compared, -⟩ := receiverExperiment_compares long starts run found arrives
    exact ⟨data, compared⟩
  · intro params n bytes compareData transmission comparison
    rw [output] at transmission
    obtain ⟨first, member, rfl, -, rfl⟩ := (sent_iff settings).mp transmission
    obtain ⟨second, member', sameParams, content⟩ := expected _ comparison
    have valid := combination_valid settings member
    have valid' := combination_valid settings member'
    rw [content, Combination.params_injective valid.frequency valid'.frequency sameParams]
  · intro params n bytes params' n' bytes' first second same
    rw [output] at first second
    obtain ⟨combination, member, rfl, inside, rfl⟩ := (sent_iff settings).mp first
    obtain ⟨combination', member', rfl, inside', rfl⟩ := (sent_iff settings).mp second
    obtain ⟨rfl, rfl⟩ := message_header_injective (combination_valid settings member)
      (combination_valid settings member') (by omega) (by omega) (by omega) same
    exact ⟨rfl, rfl⟩

def shortSettings : Settings := ⟨2, 1, 11, 1, 1, 1, 1, 1⟩

theorem messages_agree_sample :
    11 ≤ shortSettings.msgLength.toNat ∧ shortSettings.numberOfMessages.toNat ≤ 100 ∧
      ∃ sent received,
        senderExperiment shortSettings
          ⟨changeConfig (fun _ => 0) #v[0, 0, 0, 0, 0] true, Vector.replicate _ 7, []⟩ = some sent ∧
        receiverExperiment shortSettings (fun _ => 0) 5
          (ReceiverState.start (changeConfig (fun _ => 0) #v[0, 0, 0, 0, 0] false)
            [[⟨10000, some ⟨[48, 48], -90, 7⟩⟩]]) = some received ∧
        MessagesAgree shortSettings (fun _ => 0) 5 [[⟨10000, some ⟨[48, 48], -90, 7⟩⟩]] sent.trace
          received.trace :=
  ⟨by decide, by decide, messages_agree shortSettings (by decide) (by decide) (fun _ => 0) 5
    ⟨changeConfig (fun _ => 0) #v[0, 0, 0, 0, 0] true, Vector.replicate _ 7, []⟩ rfl
    (ReceiverState.start (changeConfig (fun _ => 0) #v[0, 0, 0, 0, 0] false)
      [[⟨10000, some ⟨[48, 48], -90, 7⟩⟩]]) (.start _ _)⟩

end LoraEval.Experiment

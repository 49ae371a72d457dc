import LoraEval.Firmware.Receptions

namespace LoraEval.Firmware

open LoraEval.Core

def ReceiverEvent.notified? : ReceiverEvent → Option (List Byte)
  | .notified bytes => some bytes
  | _ => none

def ReceiverState.notifications (state : ReceiverState) : List (List Byte) :=
  state.trace.filterMap ReceiverEvent.notified?

def Handling.notifications (handling : Handling) : List (List Byte) :=
  handling.after.notifications.drop handling.before.notifications.length

def ReceiverRun.Notified (run : ReceiverRun) : Prop :=
  run.state.notifications = run.handled.flatMap Handling.notifications

section

variable {settings : Settings} {ldiv0 : Int → Int} {delay : Nat} {run next : ReceiverRun}

theorem ReceiverRun.round_notified
    (taken : run.round settings ldiv0 delay result time timing = some (later, next))
    (notified : run.Notified) : next.Notified := by
  obtain ⟨⟨timing', state⟩, round, same⟩ := Option.map_eq_some_iff.mp taken
  cases same
  cases arrived : result.reception with
  | none =>
    simp only [receiveRound, arrived] at round
    cases round
    simpa [ReceiverRun.Notified] using notified
  | some reception =>
    simp only [receiveRound, arrived] at round
    obtain ⟨after, handled, same⟩ := Option.bind_eq_some_iff.mp round
    cases same
    obtain ⟨-, -, events, grown⟩ := handleReception_grows handled
    have longer : state.notifications =
        run.state.notifications ++ events.filterMap ReceiverEvent.notified? := by
      rw [ReceiverState.notifications, grown, List.filterMap_append]
      rfl
    simp only [ReceiverRun.Notified, Option.toList_some, List.map_cons, List.map_nil, List.flatMap_append,
      List.flatMap_cons, List.flatMap_nil, List.append_nil, Handling.notifications]
    rw [longer, List.drop_left, notified]

theorem ReceiverRun.loop_notified
    (taken : ReceiverRun.loop settings ldiv0 delay results time timing run = some (later, next))
    (notified : run.Notified) : next.Notified := by
  induction results generalizing time timing run with
  | nil =>
    simp only [ReceiverRun.loop] at taken
    split at taken
    · exact round_notified taken notified
    · cases taken
      exact notified
  | cons result rest ih =>
    simp only [ReceiverRun.loop] at taken
    split at taken
    · obtain ⟨⟨between, middle⟩, round, others⟩ := Option.bind_eq_some_iff.mp taken
      exact ih others (round_notified round notified)
    · cases taken
      exact notified

theorem ReceiverRun.combination_notified
    (taken : ReceiverRun.combination settings ldiv0 delay run = some next)
    (notified : run.Notified) : next.Notified := by
  obtain ⟨⟨later, final⟩, received, same⟩ := Option.bind_eq_some_iff.mp taken
  cases same
  have opened : ReceiverRun.Notified
      { run with state := run.state.emit (.configured run.state.config.params) } := by
    simpa [ReceiverRun.Notified, ReceiverState.notifications, ReceiverState.emit, List.filterMap_cons,
      ReceiverEvent.notified?] using notified
  have kept : final.Notified := loop_notified received opened
  exact kept

/-- A whole run notifies what its packets give rise to, packet by packet. -/
theorem handlings_notifications (observed : handlings settings ldiv0 delay config inputs = some packets) :
    ∃ final, receiverExperiment settings ldiv0 delay (.start config inputs) = some final ∧
      final.notifications = packets.flatMap Handling.notifications := by
  obtain ⟨run, observes, rfl⟩ := Option.map_eq_some_iff.mp observed
  have erased : (observedExperiment settings ldiv0 delay (.start config inputs)).map ReceiverRun.state =
      receiverExperiment settings ldiv0 delay (.start config inputs) := observedExperiment_view _
  rw [observes] at erased
  refine ⟨run.state, erased.symm, ?_⟩
  rw [observedExperiment] at observes
  obtain ⟨compareData, -, nested⟩ := Option.bind_eq_some_iff.mp observes
  refine nest_keeps ReceiverRun.Notified ?_ (fun run next => ReceiverRun.combination_notified) nested rfl
  intro level index run next entered notified
  obtain ⟨state, moved, rfl⟩ := Option.map_eq_some_iff.mp entered
  obtain ⟨config, -, rest⟩ := Option.bind_eq_some_iff.mp moved
  obtain ⟨data, -, same⟩ := Option.bind_eq_some_iff.mp rest
  cases same
  exact notified

/-- The two notifications of a packet: the statistics with the bit errors against the
expected message, then the record. -/
theorem Handling.Taken.notified {handling : Handling} (taken : handling.Taken settings ldiv0 delay) :
    ∃ data record, handling.Reported settings ldiv0 delay data record ∧
      .compared handling.before.config.params record.number data.toList ∈ handling.after.trace ∧
      handling.notifications =
        [(Notification.statistics (BitVec.ofInt 8 (-handling.reception.rssi))
            (BitVec.ofInt 8 handling.reception.snr)
            (BitVec.ofNat 8 ((handling.before.beside handling.reception data).bitErrors settings))).bytes,
          record.bytes] := by
  obtain ⟨expected, record, reported, -⟩ := taken.reported
  obtain ⟨data, buffer, message, -, after, flag, -⟩ := handleReception_eq taken.handled
  rw [taken.first] at after
  have divided : (takePacket settings handling.reception handling.before).trace.filterMap
      ReceiverEvent.notified? = handling.before.notifications := by
    rw [takePacket, ReceiverState.notifications, List.filterMap_append]
    split <;> simp [ReceiverEvent.notified?]
  have last : record.bytes = message.bytes := by
    have found := reported.found
    rw [Handling.record, after, ReceiverState.reading, readTrace_reception] at found
    simpa using (congrArg NumberedRecord.bytes (Option.some.inj (by simpa using found))).symm
  refine ⟨data, record, { reported with flag := by rw [last, flag] }, ?_, ?_⟩
  · rw [after, reported.number]
    simp
  · have added : handling.after.notifications = handling.before.notifications ++
        [(Notification.statistics (BitVec.ofInt 8 (-handling.reception.rssi))
            (BitVec.ofInt 8 handling.reception.snr)
            (BitVec.ofNat 8 ((handling.before.beside handling.reception data).bitErrors settings))).bytes,
          record.bytes] := by
      rw [after, ReceiverState.notifications, List.filterMap_append, List.filterMap_append, divided, last]
      simp [List.filterMap_cons, ReceiverEvent.notified?, Notification.bytes]
    rw [Handling.notifications, added, List.drop_left]

end

end LoraEval.Firmware

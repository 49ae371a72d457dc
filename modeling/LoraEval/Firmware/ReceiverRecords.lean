import LoraEval.Firmware.ReceiverInvariant
import Mathlib.Data.List.Induction

namespace LoraEval.Firmware

open LoraEval.Core

/-- A notified record with the position of its combination in the run and the
number the receiver gave the packet. -/
structure NumberedRecord where
  iteration : Nat
  number : Nat
  bytes : List Byte

/-- What a trace tells: how many combinations were configured, the number of the
last packet, and the records. -/
structure Reading where
  configured : Nat
  number : Nat
  records : List NumberedRecord

def Reading.event (reading : Reading) : ReceiverEvent → Reading
  | .configured _ => { reading with configured := reading.configured + 1 }
  | .compared _ n _ => { reading with number := n }
  | .notified bytes =>
    -- Statistics are shorter than a record.
    if bytes.length = maxDataLen then
      { reading with records := reading.records ++ [⟨reading.configured - 1, reading.number, bytes⟩] }
    else reading
  | .dividedByZero => reading

def readTrace (trace : List ReceiverEvent) : Reading := trace.foldl Reading.event ⟨0, 0, []⟩

def ReceiverState.reading (state : ReceiverState) : Reading := readTrace state.trace

theorem readTrace_append (front back : List ReceiverEvent) :
    readTrace (front ++ back) = back.foldl Reading.event (readTrace front) := List.foldl_append

theorem ReceiverState.reading_started (state : ReceiverState) (params : RadioParams) :
    (state.emit (.configured params)).reading =
      { state.reading with configured := state.reading.configured + 1 } := by
  rw [reading, emit, readTrace_append]
  rfl

theorem reading_configured (state : ReceiverState) :
    state.reading.configured = state.configuredParams.length := by
  rw [ReceiverState.reading, ReceiverState.configuredParams]
  generalize state.trace = trace
  induction trace using List.reverseRecOn with
  | nil => rfl
  | append_singleton front event ih =>
    rw [readTrace_append, List.filterMap_append, List.length_append, ← ih]
    cases event with
    | notified bytes =>
      simp only [List.foldl_cons, List.foldl_nil, Reading.event]
      split <;> rfl
    | _ => rfl

/-- A record with the given iteration byte and the byte of its number. -/
structure NumberedRecord.Reports (iteration : Byte) (record : NumberedRecord) : Prop where
  message : ∃ message : MessageRecord, record.bytes = message.bytes
  iterationByte : record.bytes[10]? = some iteration
  numberByte : record.bytes[11]? = some (BitVec.ofNat 8 record.number)

/-- What receiving does in a window: the counters stay, and new records report
the current iteration. -/
structure Receives (state next : ReceiverState) (new : List NumberedRecord) : Prop where
  iteration : next.iteration = state.iteration
  first : next.firstIteration = state.firstIteration
  configured : next.reading.configured = state.reading.configured
  records : next.reading.records = state.reading.records ++ new
  reported : ∀ record ∈ new,
    record.iteration = state.reading.configured - 1 ∧ record.Reports state.iteration

theorem Receives.refl (state : ReceiverState) : Receives state state [] :=
  ⟨rfl, rfl, rfl, (List.append_nil _).symm, by simp⟩

theorem Receives.trans {between : ReceiverState} (earlier : Receives state between front)
    (later : Receives between next back) :
    Receives state next (front ++ back) := by
  refine ⟨later.iteration.trans earlier.iteration, later.first.trans earlier.first,
    later.configured.trans earlier.configured, ?_, ?_⟩
  · rw [later.records, earlier.records, List.append_assoc]
  · intro record member
    rcases List.mem_append.mp member with old | new
    · exact earlier.reported record old
    · have reported := later.reported record new
      rwa [earlier.configured, earlier.iteration] at reported

theorem expectMessage_frame (built : expectMessage settings n state = some next) :
    ∃ data, next = { state with
      compareData := data
      trace := state.trace ++ [.compared state.config.params n data.toList] } := by
  simp only [expectMessage, Option.bind_eq_bind, Option.bind_eq_some_iff] at built
  obtain ⟨_, _, _, _, _, _, _, _, ended⟩ := built
  split at ended
  · cases ended
  · obtain ⟨final, _, same⟩ := Option.bind_eq_some_iff.mp ended
    exact ⟨final, (Option.some.inj same).symm⟩

theorem readTrace_reception (front : List ReceiverEvent) (params : RadioParams) (n : Nat)
    (data : List Byte) (rssi snr count : Byte) (record : MessageRecord) :
    readTrace (front ++ [.compared params n data] ++
        [.notified (Notification.statistics rssi snr count).bytes,
          .notified (Notification.message record).bytes]) =
      ⟨(readTrace front).configured, n,
        (readTrace front).records ++ [⟨(readTrace front).configured - 1, n, record.bytes⟩]⟩ := by
  rw [readTrace_append, readTrace_append]
  simp [Reading.event, Notification.bytes, record.size]

section

variable {settings : Settings} {ldiv0 : Int → Int} {delay : Nat}

/-- A received packet in the buffer, beside the message it is compared with. -/
def ReceiverState.beside (state : ReceiverState) (reception : Reception)
    (data : Vector Byte maxTransmLen) : ReceiverState :=
  { state with transmissionData := overwrite state.transmissionData reception.packet, compareData := data }

/-- What handling a packet does: it compares the buffer with the message of the
computed number, and reports flag, bit errors, iteration and number. -/
theorem handleReception_eq
    (handled : handleReception settings ldiv0 delay millisTotal reception state = some next) :
    let n := msgNumber settings ldiv0 state.firstIteration delay millisTotal
    ∃ data buffer record, expectMessage settings n (takePacket settings reception state) =
        some { takePacket settings reception state with
          compareData := data
          trace := (takePacket settings reception state).trace ++
            [.compared state.config.params n data.toList] } ∧
      next = { state with
        transmissionData := buffer
        compareData := data
        trace := (takePacket settings reception state).trace ++
          [.compared state.config.params n data.toList] ++
          [.notified (Notification.statistics (BitVec.ofInt 8 (-reception.rssi))
              (BitVec.ofInt 8 reception.snr)
              (BitVec.ofNat 8 ((state.beside reception data).bitErrors settings))).bytes,
            .notified (Notification.message record).bytes] } ∧
      record.bytes[9]? =
        some (if (state.beside reception data).sameContent settings then correctFlag else falseFlag) ∧
      record.bytes[10]? = some state.iteration ∧ record.bytes[11]? = some (BitVec.ofNat 8 n) ∧
      ∀ position < 9, record.bytes[position]? =
        (overwrite state.transmissionData reception.packet)[position]? := by
  intro n
  obtain ⟨expected, built, reports⟩ := Option.bind_eq_some_iff.mp handled
  obtain ⟨data, rfl⟩ := expectMessage_frame built
  obtain ⟨buffer, record, reported, flag, iteration, number, front⟩ :=
    reportReception_eq settings n reception _
  obtain rfl := Option.some.inj (reports.symm.trans reported)
  exact ⟨data, buffer, record, built, rfl, flag, iteration, number, front⟩

theorem handleReception_record
    (handled : handleReception settings ldiv0 delay millisTotal reception state = some next) :
    let n := msgNumber settings ldiv0 state.firstIteration delay millisTotal
    ∃ data bytes, Receives state next [⟨state.reading.configured - 1, n, bytes⟩] ∧
      .compared state.config.params n data.toList ∈ next.trace ∧
      bytes[9]? =
        some (if (state.beside reception data).sameContent settings then correctFlag else falseFlag) ∧
      ∀ position < 9, bytes[position]? = (overwrite state.transmissionData reception.packet)[position]? := by
  intro n
  obtain ⟨data, buffer, record, -, rfl, flag, iteration, number, front⟩ := handleReception_eq handled
  have divided : readTrace (takePacket settings reception state).trace = state.reading := by
    rw [takePacket, readTrace_append]
    split <;> rfl
  have read := readTrace_reception (takePacket settings reception state).trace state.config.params n
    data.toList (BitVec.ofInt 8 (-reception.rssi)) (BitVec.ofInt 8 reception.snr)
    (BitVec.ofNat 8 ((state.beside reception data).bitErrors settings)) record
  rw [divided] at read
  have configured := congrArg Reading.configured read
  have records := congrArg Reading.records read
  refine ⟨data, record.bytes, ⟨rfl, rfl, configured, records, ?_⟩, by simp [n], flag, front⟩
  intro record' member
  rw [List.mem_singleton.mp member]
  exact ⟨rfl, ⟨record, rfl⟩, iteration, number⟩

theorem receiveRound_receives
    (round : receiveRound settings ldiv0 delay result timing state = some (later, next)) :
    ∃ new, Receives state next new := by
  cases arrived : result.reception with
  | none =>
    simp only [receiveRound, arrived] at round
    cases round
    exact ⟨[], .refl state⟩
  | some reception =>
    simp only [receiveRound, arrived] at round
    obtain ⟨handled, taken, same⟩ := Option.bind_eq_some_iff.mp round
    cases same
    obtain ⟨data, bytes, receives, -⟩ := handleReception_record taken
    exact ⟨_, receives⟩

theorem receiveLoop_receives
    (run : receiveLoop settings ldiv0 delay results timing state = some (later, final)) :
    ∃ new, Receives state final new := by
  induction results generalizing timing state with
  | nil =>
    simp only [receiveLoop] at run
    split at run
    · exact receiveRound_receives run
    · cases run
      exact ⟨[], .refl _⟩
  | cons result rest ih =>
    simp only [receiveLoop] at run
    split at run
    · obtain ⟨⟨between, next⟩, round, others⟩ := Option.bind_eq_some_iff.mp run
      obtain ⟨front, first⟩ := receiveRound_receives round
      obtain ⟨back, second⟩ := ih others
      exact ⟨_, first.trans second⟩
    · cases run
      exact ⟨[], .refl _⟩

theorem receiveLoop_first (left : 0 < timing.iterationTime)
    (run : receiveLoop settings ldiv0 delay (⟨elapsed, some reception⟩ :: rest) timing state =
      some (later, final)) :
    ∃ record ∈ final.reading.records, record.iteration = state.reading.configured - 1 ∧
      record.number = msgNumber settings ldiv0 state.firstIteration delay (timing.millisTotal + elapsed) ∧
      ∀ position < 9, position < reception.packet.length →
        record.bytes[position]? = reception.packet[position]? := by
  simp only [receiveLoop, left, if_true, receiveRound] at run
  obtain ⟨⟨between, next⟩, round, others⟩ := Option.bind_eq_some_iff.mp run
  obtain ⟨handled, taken, same⟩ := Option.bind_eq_some_iff.mp round
  cases same
  obtain ⟨data, bytes, first, -, -, front⟩ := handleReception_record taken
  obtain ⟨new, second⟩ := receiveLoop_receives others
  refine ⟨⟨state.reading.configured - 1,
    msgNumber settings ldiv0 state.firstIteration delay (timing.millisTotal + elapsed), bytes⟩,
    ?_, rfl, rfl, ?_⟩
  · rw [second.records, first.records]
    simp
  · intro position early inside
    rw [front position early]
    exact overwrite_front state.transmissionData inside (by simp only [maxTransmLen]; omega)

end

section

variable (settings : Settings) (ldiv0 : Int → Int) (delay : Nat) (inputs : List (List RecvResult))

/-- Between two combinations: the counter is the number of combinations so far in
eight bits, every record reports its iteration in eight bits, and the first packet
of every window is reported. -/
structure ReceiverState.Counted (state : ReceiverState) : Prop where
  iteration : state.iteration = BitVec.ofNat 8 state.reading.configured
  first : state.firstIteration = decide (state.reading.configured = 0)
  remaining : state.inputs = inputs.drop state.reading.configured
  records : ∀ record ∈ state.reading.records, record.iteration < state.reading.configured ∧
    record.Reports (BitVec.ofNat 8 record.iteration)
  heard : ∀ iteration < state.reading.configured, ∀ elapsed reception rest,
    inputs.getD iteration [] = ⟨elapsed, some reception⟩ :: rest →
    ∃ record ∈ state.reading.records, record.iteration = iteration ∧
      record.number = msgNumber settings ldiv0 (decide (iteration = 0)) delay (1000 + elapsed) ∧
      ∀ position < 9, position < reception.packet.length →
        record.bytes[position]? = reception.packet[position]?

variable {settings ldiv0 delay inputs}

theorem iterationTime_pos (settings : Settings) (first : Bool) (delay : Nat) :
    0 < iterationTime settings first delay := by
  have messages : 0 ≤ (settings.numberOfMessages.toNat : Int) * settings.timeBetween.toNat :=
    Int.mul_nonneg (Int.natCast_nonneg _) (Int.natCast_nonneg _)
  unfold iterationTime
  split <;> omega

theorem receiveCombination_counted (counted : state.Counted settings ldiv0 delay inputs)
    (run : receiveCombination settings ldiv0 delay state = some next) :
    next.Counted settings ldiv0 delay inputs := by
  obtain ⟨⟨later, final⟩, received, same⟩ := Option.bind_eq_some_iff.mp run
  cases same
  obtain ⟨new, receives⟩ := receiveLoop_receives received
  have started := state.reading_started state.config.params
  have configured : final.reading.configured = state.reading.configured + 1 := by
    rw [receives.configured, started]
  have records : final.reading.records = state.reading.records ++ new := by
    rw [receives.records, started]
  have opened : 0 < (⟨iterationTime settings state.firstIteration delay, 1000⟩ : Timing).iterationTime :=
    iterationTime_pos settings state.firstIteration delay
  have head : state.inputs.headD [] = inputs.getD state.reading.configured [] := by
    rw [counted.remaining, List.headD_eq_head?_getD, List.head?_drop, List.getD_eq_getElem?_getD]
  refine ⟨?_, ?_, ?_, ?_, ?_⟩
  · show final.iteration + 1 = BitVec.ofNat 8 final.reading.configured
    rw [receives.iteration, configured, BitVec.ofNat_add]
    exact congrArg (· + 1) counted.iteration
  · show false = decide (final.reading.configured = 0)
    simp [configured]
  · show state.inputs.tail = inputs.drop final.reading.configured
    rw [counted.remaining, configured, List.tail_drop]
  · show ∀ record ∈ final.reading.records, record.iteration < final.reading.configured ∧ _
    rw [records, configured]
    intro record member
    rcases List.mem_append.mp member with old | recent
    · have earlier := counted.records record old
      exact ⟨by omega, earlier.2⟩
    · have reported := receives.reported record recent
      rw [started] at reported
      have position : record.iteration = state.reading.configured := reported.1
      refine ⟨by omega, ?_⟩
      rw [position, ← counted.iteration]
      exact reported.2
  · show ∀ iteration < final.reading.configured, ∀ elapsed reception rest, _ →
      ∃ record ∈ final.reading.records, _
    rw [configured]
    intro iteration inside elapsed reception rest arrives
    by_cases current : iteration = state.reading.configured
    · subst current
      rw [head, arrives] at received
      obtain ⟨record, member, position, number, front⟩ := receiveLoop_first opened received
      rw [started] at position
      rw [← counted.first]
      exact ⟨record, member, position, number, front⟩
    · obtain ⟨record, member, found⟩ := counted.heard iteration (by omega) elapsed reception rest arrives
      exact ⟨record, by rw [records]; exact List.mem_append_left new member, found⟩

theorem receiverExperiment_counted
    (run : receiverExperiment settings ldiv0 delay (.start config inputs) = some final) :
    final.Counted settings ldiv0 delay inputs := by
  rw [receiverExperiment_eq] at run
  obtain ⟨compareData, stored, nested⟩ := Option.bind_eq_some_iff.mp run
  refine nest_keeps (ReceiverState.Counted settings ldiv0 delay inputs) ?_
    (fun state next body counted => receiveCombination_counted counted body) nested
    ⟨rfl, rfl, rfl, nofun, nofun⟩
  intro depth index state next entered counted
  obtain ⟨config, -, rest⟩ := Option.bind_eq_some_iff.mp entered
  obtain ⟨data, -, same⟩ := Option.bind_eq_some_iff.mp rest
  cases same
  exact ⟨counted.iteration, counted.first, counted.remaining, counted.records, counted.heard⟩

end

end LoraEval.Firmware

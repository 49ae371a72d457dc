import LoraEval.App.Central

/-! The result rows of an experiment. Two broadcast receivers share one row in
progress (`dbEntries`) and log it whenever a second notification finds it started. -/

namespace LoraEval.App

open LoraEval.Core LoraEval.Firmware

/-- `String[5]`: total number, identifier, RSSI, SNR and bit errors, each null or
a value. -/
abbrev Entries (α : Type) := Vector (Option α) 5

/-- What one notification contributes to a row. -/
inductive Fields (α : Type) where
  | statistics (rssi snr bitErrors : α)
  | message (totalNumber identifier : α)

def Fields.fill (fields : Fields α) (entries : Entries α) : Entries α :=
  match fields with
  | .statistics rssi snr bitErrors =>
    ((entries.setIfInBounds 2 (some rssi)).setIfInBounds 3 (some snr)).setIfInBounds 4 (some bitErrors)
  | .message totalNumber identifier =>
    (entries.setIfInBounds 0 (some totalNumber)).setIfInBounds 1 (some identifier)

structure ResultLog (α : Type) where
  dbEntries : Option (Entries α)
  rows : List (Entries α)

/-- `onReceive` of both broadcast receivers: start a row, or complete and log the
row that was started. -/
def ResultLog.receive (log : ResultLog α) (fields : Fields α) : ResultLog α :=
  match log.dbEntries with
  | none => { log with dbEntries := some (fields.fill (Vector.replicate 5 none)) }
  | some entries => { dbEntries := none, rows := log.rows ++ [fields.fill entries] }

/-- The notifications handled one after another. A handler that throws ends the app. -/
def ResultLog.run : List (Option (Fields α)) → ResultLog α → ResultLog α
  | [], log => log
  | none :: _, log => log
  | some fields :: rest, log => run rest (log.receive fields)

/-- `LVUtil.makeByteUnsigned`: `b & 0xff` on the promoted value. -/
def makeByteUnsigned (b : Byte) : Int := (b.signExtend 32 &&& 255#32).toInt

theorem makeByteUnsigned_eq (b : Byte) : makeByteUnsigned b = b.toNat := by
  have all : ∀ b : Byte, makeByteUnsigned b = b.toNat := by decide +kernel
  exact all b

/-- The fields the statistics receiver takes from its broadcast; fewer than four
bytes are an index exception. -/
def statisticsFields (bytes : List Byte) : Option (Fields String) := do
  let rssi ← bytes[1]?
  let snr ← bytes[2]?
  let bitErrors ← bytes[3]?
  return .statistics ("-" ++ toString (makeByteUnsigned rssi)) (Java.byteToString snr)
    (toString (makeByteUnsigned bitErrors))

/-- The number of a message, in the 32-bit arithmetic of Java. -/
def totalNumber (messages : BitVec 32) (content : List Byte) : Option Int := do
  let number ← content[11]?
  let iteration ← content[10]?
  return (number.signExtend 32 + iteration.signExtend 32 * messages).toInt

section

variable (decode : List Byte → Option String) (messages : BitVec 32)

/-- The fields the message receiver takes from its broadcast. `decode` is
`new String(bytes).substring(0, 10)`, which throws on a text of fewer characters. -/
def messageFields (content : List Byte) : Option (Fields String) := do
  let total ← totalNumber messages content
  let identifier ← decode content
  return .message (toString total) identifier

/-- What a notification means to the two result receivers: nothing, or fields to fill in;
a handler that throws ends the app. -/
def resultEvent (bytes : List Byte) : Option (Option (Fields String)) :=
  match onCharacteristicChanged .receiver bytes with
  | .ok (some (.rssiSnr bytes)) => some (statisticsFields bytes)
  | .ok (some (.message content)) => some (messageFields decode messages content)
  | .ok _ => none
  | .error _ => some none

/-- The rows in the table of an experiment once these notifications were handled. -/
def resultEntries (notifications : List (List Byte)) : List (Entries String) :=
  (ResultLog.run (notifications.filterMap (resultEvent decode messages)) ⟨none, []⟩).rows

end

/-- Which notifications of a packet arrive, and in which order. -/
inductive Arrival where
  | lost
  | statisticsOnly
  | messageOnly
  | statisticsFirst
  | messageFirst
deriving DecidableEq, Repr

structure Reported where
  rssi : Byte
  snr : Byte
  bitErrors : Byte
  record : MessageRecord
  arrival : Arrival

def Reported.statistics (packet : Reported) : List Byte :=
  (Notification.statistics packet.rssi packet.snr packet.bitErrors).bytes

/-- The notifications of one packet in the order of their arrival. -/
def Reported.notifications (packet : Reported) : List (List Byte) :=
  match packet.arrival with
  | .lost => []
  | .statisticsOnly => [packet.statistics]
  | .messageOnly => [packet.record.bytes]
  | .statisticsFirst => [packet.statistics, packet.record.bytes]
  | .messageFirst => [packet.record.bytes, packet.statistics]

/-- What the app takes a message record for. -/
inductive RecordUse where
  | status
  | statistics
  | message
  | unreadable
deriving DecidableEq, Repr

/-- The first byte decides, and a message is read if its text is long enough. -/
def Reported.recordUse (decode : List Byte → Option String) (packet : Reported) : RecordUse :=
  let first := (packet.record.bytes.headD 0).toInt
  if -6 ≤ first ∧ first ≤ -2 then .status
  else if first = -1 then .statistics
  else if (decode (filterContent packet.record.bytes)).isSome then .message
  else .unreadable

/-- What the two receivers get of a packet: neither notification, one, one of each kind,
or both as statistics. -/
inductive Handled where
  | nothing
  | half
  | both
  | twice
deriving DecidableEq, Repr

/-- What is handled of each packet. A handler that throws loses its own notification and
everything after it. -/
def handled (decode : List Byte → Option String) : List Reported → List Handled
  | [] => []
  | packet :: rest =>
    match packet.arrival, packet.recordUse decode with
    | .lost, _ | .messageOnly, .status => .nothing :: handled decode rest
    | .messageOnly, .unreadable | .messageFirst, .unreadable => .nothing :: rest.map fun _ => .nothing
    | .statisticsFirst, .unreadable => .half :: rest.map fun _ => .nothing
    | .statisticsOnly, _ | .messageOnly, _ | _, .status => .half :: handled decode rest
    | _, .statistics => .twice :: handled decode rest
    | _, .message => .both :: handled decode rest

def Fields.isMessage : Fields α → Bool
  | .statistics .. => false
  | .message .. => true

def Fields.map (f : α → β) : Fields α → Fields β
  | .statistics rssi snr bitErrors => .statistics (f rssi) (f snr) (f bitErrors)
  | .message totalNumber identifier => .message (f totalNumber) (f identifier)

def Fields.mark (position : Nat) (fields : Fields α) : Fields (Nat × α) :=
  fields.map fun value => (position, value)

section

variable (decode : List Byte → Option String) (messages : BitVec 32)

/-- What the receivers make of the packets, marked with positions from `start` on. -/
def markedEvents (start : Nat) (packets : List Reported) : List (Option (Fields (Nat × String))) :=
  (packets.zipIdx start).flatMap fun (packet, position) =>
    (packet.notifications.filterMap (resultEvent decode messages)).map (Option.map (Fields.mark position))

/-- The rows logged for a sequence of packets, from an empty log. -/
def loggedRows (packets : List Reported) : List (Entries (Nat × String)) :=
  (ResultLog.run (markedEvents decode messages 0 packets) ⟨none, []⟩).rows

end

def Sound (row : Entries (Nat × α)) : Prop :=
  ∃ position, ∀ column < 5, ∃ value, row[column]? = some (some (position, value))

def rowsFrom (entries : Option (Entries α)) (events : List (Option (Fields α))) : List (Entries α) :=
  (ResultLog.run events ⟨entries, []⟩).rows

private theorem run_rows (events : List (Option (Fields α))) (entries : Option (Entries α))
    (rows : List (Entries α)) :
    (ResultLog.run events ⟨entries, rows⟩).rows = rows ++ rowsFrom entries events := by
  induction events generalizing entries rows with
  | nil => simp [ResultLog.run, rowsFrom]
  | cons event rest ih =>
    match event with
    | none => simp [ResultLog.run, rowsFrom]
    | some fields =>
      cases entries with
      | none => exact ih _ rows
      | some entries =>
        show (ResultLog.run rest ⟨none, rows ++ [fields.fill entries]⟩).rows =
          rows ++ (ResultLog.run rest ⟨none, [fields.fill entries]⟩).rows
        rw [ih, ih, List.append_assoc]

@[simp] theorem rowsFrom_nil (entries : Option (Entries α)) : rowsFrom entries [] = [] := rfl

@[simp] theorem rowsFrom_thrown (entries : Option (Entries α)) (rest : List (Option (Fields α))) :
    rowsFrom entries (none :: rest) = [] := rfl

@[simp] theorem rowsFrom_start (fields : Fields α) (rest : List (Option (Fields α))) :
    rowsFrom none (some fields :: rest) =
      rowsFrom (some (fields.fill (Vector.replicate 5 none))) rest := rfl

@[simp] theorem rowsFrom_complete (entries : Entries α) (fields : Fields α)
    (rest : List (Option (Fields α))) :
    rowsFrom (some entries) (some fields :: rest) = fields.fill entries :: rowsFrom none rest := by
  rw [rowsFrom, ResultLog.run, ResultLog.receive]
  exact run_rows rest none [fields.fill entries]

/-- Two notifications make a sound row if they are of one packet and of both kinds. -/
theorem sound_iff (first second : Fields α) (position later : Nat) :
    Sound ((second.mark later).fill ((first.mark position).fill (Vector.replicate 5 none))) ↔
      position = later ∧ first.isMessage ≠ second.isMessage := by
  constructor
  · rintro ⟨source, filled⟩
    obtain ⟨front, frontRead⟩ := filled 0 (by decide)
    obtain ⟨back, backRead⟩ := filled 4 (by decide)
    cases first <;> cases second <;> simp_all [Fields.mark, Fields.map, Fields.fill, Fields.isMessage]
  · rintro ⟨rfl, kinds⟩
    refine ⟨position, fun column inside => ?_⟩
    cases first <;> cases second <;> simp only [Fields.isMessage, ne_eq, not_true_eq_false] at kinds <;>
      interval_cases column <;> simp [Fields.mark, Fields.map, Fields.fill]

section

variable {decode : List Byte → Option String}

theorem resultEvent_statistics (messages : BitVec 32) (rssi snr bitErrors : Byte) :
    resultEvent decode messages (Notification.statistics rssi snr bitErrors).bytes =
      some (some (.statistics ("-" ++ toString (rssi.toNat : Int)) (Java.byteToString snr)
        (toString (bitErrors.toNat : Int)))) := by
  have routed : onCharacteristicChanged .receiver [-1, rssi, snr, bitErrors] =
      .ok (some (.rssiSnr [-1, rssi, snr, bitErrors])) := by
    rw [onCharacteristicChanged_cons]
    simp
  have fields : statisticsFields [-1, rssi, snr, bitErrors] =
      some (.statistics ("-" ++ toString (makeByteUnsigned rssi)) (Java.byteToString snr)
        (toString (makeByteUnsigned bitErrors))) := rfl
  simp only [resultEvent, Notification.bytes, routed, fields, makeByteUnsigned_eq]

variable (decode) (messages : BitVec 32) (packet : Reported)

theorem Reported.statistics_event : ∃ rssi snr bitErrors,
    resultEvent decode messages packet.statistics = some (some (.statistics rssi snr bitErrors)) :=
  ⟨_, _, _, resultEvent_statistics messages packet.rssi packet.snr packet.bitErrors⟩

theorem Reported.record_event :
    packet.recordUse decode = .status ∧ resultEvent decode messages packet.record.bytes = none ∨
      packet.recordUse decode = .statistics ∧ (∃ rssi snr bitErrors,
        resultEvent decode messages packet.record.bytes = some (some (.statistics rssi snr bitErrors))) ∨
      packet.recordUse decode = .message ∧ (∃ totalNumber identifier,
        resultEvent decode messages packet.record.bytes =
          some (some (.message totalNumber identifier))) ∨
      packet.recordUse decode = .unreadable ∧
        resultEvent decode messages packet.record.bytes = some none := by
  obtain ⟨long, -⟩ := filterContent_record packet.record
  have size : packet.record.bytes.length = 20 := packet.record.size
  have total : ∃ number, totalNumber messages (filterContent packet.record.bytes) = some number := by
    simp [totalNumber, show 11 < (filterContent packet.record.bytes).length by omega,
      show 10 < (filterContent packet.record.bytes).length by omega]
  have fields : ∃ rssi snr bitErrors,
      statisticsFields packet.record.bytes = some (.statistics rssi snr bitErrors) := by
    simp [statisticsFields, show 1 < packet.record.bytes.length by omega,
      show 2 < packet.record.bytes.length by omega, show 3 < packet.record.bytes.length by omega]
  obtain ⟨number, total⟩ := total
  cases shape : packet.record.bytes with
  | nil => simp [shape] at size
  | cons first rest =>
    rw [shape] at total fields
    simp only [recordUse, resultEvent, onCharacteristicChanged_cons, shape, List.headD_cons]
    by_cases status : -6 ≤ first.toInt ∧ first.toInt ≤ -2
    · simp [status]
    · by_cases statistics : first.toInt = -1
      · obtain ⟨rssi, snr, bitErrors, read⟩ := fields
        simp [statistics, read]
      · simp only [status, statistics, if_false]
        cases text : decode (filterContent (first :: rest)) <;> simp [messageFields, total, text]

end

section

variable (decode : List Byte → Option String) (messages : BitVec 32)

theorem markedEvents_cons (start : Nat) (packet : Reported) (rest : List Reported) :
    markedEvents decode messages start (packet :: rest) =
      (packet.notifications.filterMap (resultEvent decode messages)).map (Option.map (Fields.mark start)) ++
        markedEvents decode messages (start + 1) rest := by
  simp [markedEvents, List.zipIdx_cons]

/-- With a half row in progress, every further notification logs an unsound row. -/
theorem half_rows_sound_iff (fields : Fields String) (packets : List Reported) (start : Nat)
    (after : position < start) :
    (∀ row ∈ rowsFrom (some ((fields.mark position).fill (Vector.replicate 5 none)))
        (markedEvents decode messages start packets), Sound row) ↔
      ∀ outcome ∈ handled decode packets, outcome = .nothing := by
  induction packets generalizing start with
  | nil => simp [markedEvents, handled]
  | cons packet rest ih =>
    have next := ih (start + 1) (by omega)
    have mixed (second : Fields String) :
        ¬ Sound ((second.mark start).fill ((fields.mark position).fill (Vector.replicate 5 none))) := by
      rw [sound_iff]
      omega
    obtain ⟨rssi, snr, bitErrors, statistics⟩ := packet.statistics_event decode messages
    rw [markedEvents_cons]
    rcases packet.record_event decode messages with ⟨use, event⟩ | ⟨use, _, _, _, event⟩ |
      ⟨use, _, _, event⟩ | ⟨use, event⟩ <;>
    cases arrival : packet.arrival <;>
    simp [Reported.notifications, arrival, handled, use, event, statistics, mixed, next]

private theorem pairwise_of_nothing {outcomes : List Handled}
    (nothing : ∀ outcome ∈ outcomes, outcome = .nothing) :
    .twice ∉ outcomes ∧ outcomes.Pairwise fun earlier later => earlier = .half → later = .nothing := by
  constructor
  · intro member
    cases (nothing _ member)
  · exact List.pairwise_of_forall_mem_list fun earlier _ later member _ => nothing later member

/-- Every logged row has all its fields, from one packet, exactly when no packet is handled
as statistics twice and a packet of which one notification is handled is followed by no
other handled notification. -/
theorem rows_sound_iff (packets : List Reported) :
    (∀ row ∈ loggedRows decode messages packets, Sound row) ↔
      .twice ∉ handled decode packets ∧
        (handled decode packets).Pairwise fun earlier later => earlier = .half → later = .nothing := by
  show (∀ row ∈ rowsFrom none (markedEvents decode messages 0 packets), Sound row) ↔ _
  generalize 0 = start
  induction packets generalizing start with
  | nil => simp [markedEvents, handled]
  | cons packet rest ih =>
    have next := ih (start + 1)
    have half (fields : Fields String) :
        (∀ row ∈ rowsFrom (some ((fields.mark start).fill (Vector.replicate 5 none)))
            (markedEvents decode messages (start + 1) rest), Sound row) ↔
          .twice ∉ handled decode rest ∧ (∀ outcome ∈ handled decode rest, outcome = .nothing) ∧
            (handled decode rest).Pairwise fun earlier later => earlier = .half → later = .nothing := by
      rw [half_rows_sound_iff decode messages fields rest (start + 1) (by omega)]
      exact ⟨fun nothing => ⟨(pairwise_of_nothing nothing).1, nothing, (pairwise_of_nothing nothing).2⟩,
        fun held => held.2.1⟩
    obtain ⟨rssi, snr, bitErrors, statistics⟩ := packet.statistics_event decode messages
    rw [markedEvents_cons]
    rcases packet.record_event decode messages with ⟨use, event⟩ | ⟨use, _, _, _, event⟩ |
      ⟨use, _, _, event⟩ | ⟨use, event⟩ <;>
    cases arrival : packet.arrival <;>
    simp [Reported.notifications, arrival, handled, use, event, statistics, sound_iff, next, half,
      Fields.isMessage]

def recordOf (first : Byte) : MessageRecord :=
  ⟨[first, 48, 49, 48, 48, 95, 48, 48, 48, correctFlag, 0, 0, delimiter, 0, 0, 0, 0, 0, 0, 0],
    rfl, .inl rfl, rfl⟩

/-- Statistics of two packets whose messages are lost become one row without number and
identifier, and so do both notifications of a packet that starts with the byte 255. -/
theorem lost_messages_log_nulls :
    (¬ ∀ row ∈ loggedRows (fun _ => none) 50
      [⟨108, 5, 0, recordOf 48, .statisticsOnly⟩, ⟨109, 6, 0, recordOf 48, .statisticsOnly⟩], Sound row) ∧
    ¬ ∀ row ∈ loggedRows (fun _ => none) 50 [⟨108, 5, 0, recordOf 255, .statisticsFirst⟩], Sound row := by
  constructor
  · intro sound
    refine absurd (sound (((Fields.statistics "-109" "6" "0").mark 1).fill
      (((Fields.statistics "-108" "5" "0").mark 0).fill (Vector.replicate 5 none))) (by decide)) ?_
    rw [sound_iff]
    decide
  · intro sound
    refine absurd (sound (((Fields.statistics "-48" "49" "48").mark 0).fill
      (((Fields.statistics "-108" "5" "0").mark 0).fill (Vector.replicate 5 none))) (by decide)) ?_
    rw [sound_iff]
    decide

private theorem fill_map (f : α → β) (fields : Fields α) (entries : Entries α) :
    (fields.map f).fill (entries.map (Option.map f)) = (fields.fill entries).map (Option.map f) := by
  cases fields <;> simp [Fields.map, Fields.fill]

private theorem rowsFrom_map (f : α → β) (events : List (Option (Fields α)))
    (entries : Option (Entries α)) :
    rowsFrom (entries.map (·.map (Option.map f))) (events.map (Option.map (Fields.map f))) =
      (rowsFrom entries events).map (·.map (Option.map f)) := by
  induction events generalizing entries with
  | nil => rfl
  | cons event rest ih =>
    match event, entries with
    | none, _ => rfl
    | some fields, none =>
      have started := ih (some (fields.fill (Vector.replicate 5 none)))
      simp only [Option.map_some, ← fill_map, Vector.map_replicate, Option.map_none] at started
      exact started
    | some fields, some entries =>
      simp only [List.map_cons, Option.map_some, rowsFrom_complete, fill_map]
      exact congrArg _ (ih none)

theorem Fields.map_mark (position : Nat) (fields : Fields α) :
    (fields.mark position).map Prod.snd = fields := by
  cases fields <;> rfl

theorem markedEvents_unmarked (start : Nat) (packets : List Reported) :
    (markedEvents decode messages start packets).map (Option.map (Fields.map Prod.snd)) =
      (packets.flatMap Reported.notifications).filterMap (resultEvent decode messages) := by
  induction packets generalizing start with
  | nil => rfl
  | cons packet rest ih =>
    have plain : (Option.map (Fields.map Prod.snd) ∘ Option.map (Fields.mark start) :
        Option (Fields String) → Option (Fields String)) = id := by
      funext event
      cases event with
      | none => rfl
      | some fields => exact congrArg some (fields.map_mark start)
    rw [markedEvents_cons, List.map_append, List.map_map, plain, List.map_id, ih, List.flatMap_cons,
      List.filterMap_append]

/-- Without the marks the rows are those the app logs for the notifications that arrive. -/
theorem loggedRows_unmarked (packets : List Reported) :
    (loggedRows decode messages packets).map (·.map (Option.map Prod.snd)) =
      resultEntries decode messages (packets.flatMap Reported.notifications) := by
  rw [resultEntries, ← markedEvents_unmarked decode messages 0 packets]
  exact (rowsFrom_map Prod.snd (markedEvents decode messages 0 packets) none).symm

end

end LoraEval.App

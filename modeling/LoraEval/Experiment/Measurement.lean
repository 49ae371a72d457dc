import LoraEval.Experiment.Deliveries
import LoraEval.Experiment.InformationFiles
import LoraEval.Experiment.MessageAgreement

/-! The whole chain of an experiment: what the sender transmits and the channel delivers,
through receiver, notifications, phone and files, to the figures of the script. -/

namespace LoraEval.Experiment

open LoraEval.Core LoraEval.Core.Csv LoraEval.App LoraEval.Firmware LoraEval.Graphs

def fields (row : LoggedRow) : ResultRow where
  totalnumber := toString row.totalNumber.toInt
  identifier := String.ofList (identifierText row)
  rssi := "-" ++ toString row.rssi.toNat
  snr := Java.byteToString row.snr
  biterrors := toString row.bitErrors.toNat

theorem record_fields (row : LoggedRow) : (fields row).record = DictRow.ofRecord header (texts row) := by
  have signed : ("-" ++ toString row.rssi.toNat).toList = '-' :: decimal row.rssi.toNat :=
    String.toList_append
  have negative : Numeric ('-' :: decimal row.rssi.toNat) := by
    intro symbol member
    rcases List.mem_cons.mp member with minus | digit
    · exact .inl minus
    · exact decimal_numeric _ symbol digit
  have total := written_numeric (toString row.totalNumber.toInt) (decimal_numeric _)
  have rssi := written_numeric ("-" ++ toString row.rssi.toNat) (signed ▸ negative)
  have snr := written_numeric (Java.byteToString row.snr) (decimal_numeric _)
  have errors := written_numeric (toString row.bitErrors.toNat) (decimal_numeric row.bitErrors.toNat)
  simp only [ResultRow.record, fields, texts, LoggedRow.columns, List.map_cons, List.map_nil, total, rssi,
    snr, errors, String.toList_ofList]
  rfl

/-- A file of rows with plain identifiers is read back row by row. -/
theorem resultRows_makeCSV {rows : List LoggedRow} (plain : ∀ row ∈ rows, Plain (identifierText row)) :
    resultRows (makeCSV (rows.map LoggedRow.columns)) = extractRows none (rows.map fields) := by
  have known : ∀ record ∈ rows.map texts,
      record.headD [] ≠ [] ∧ ∀ text ∈ record, Plain text ∧ text.length ≤ fieldLimit := by
    intro _ member
    obtain ⟨row, stored, rfl⟩ := List.mem_map.mp member
    exact texts_plain (plain row stored)
  have nonempty : (rows.map texts).filter (· ≠ []) = rows.map texts := by
    rw [List.filter_eq_self]
    intro record member
    have first := (known record member).1
    cases record with
    | nil => exact absurd rfl first
    | cons => rfl
  have finished : Stream.finish ⟨.fresh, [header] ++ rows.map texts⟩ = header :: rows.map texts := by
    simp [Stream.finish, Reader.rest, Reader.fresh]
  have read : readResults (makeCSV (rows.map LoggedRow.columns)) =
      some (rows.map fun row => (fields row).record) := by
    rw [readResults_eq (makeCSV_last _),
      universalNewlines_of_plain (makeCSV_returns fun row member => (plain row member).carriageReturn),
      filter_makeCSV, forEach_append, header_run, Option.bind_eq_bind, Option.bind_some,
      plain_records_run _ known, Option.map_some, finished, dictRows, nonempty, List.map_map]
    exact congrArg some (List.map_congr_left fun row _ => (record_fields row).symm)
  rw [resultRows, read, ← readRows_eq, List.map_map]
  rfl

section

variable {settings : Settings} {delay k : Nat} {combination : Combination} {delivery : Delivery}

theorem identifier_large (valid : combination.Valid)
    (member : char ∈ (asciiText (delivery.identifier settings combination)).toList) : 48 ≤ char.toNat := by
  rw [asciiText_toList] at member
  obtain ⟨byte, known, rfl⟩ := List.mem_map.mp member
  rw [ofNat_byte]
  exact (identifier_range valid known).1

theorem identifierText_logged (valid : combination.Valid) :
    identifierText (delivery.logged settings k combination) =
      (asciiText (delivery.identifier settings combination)).toList := by
  have stored : (delivery.logged settings k combination).identifier =
      javaText (asciiText (delivery.identifier settings combination)) := by
    simp only [Delivery.logged]
  have written : JavaChar.written ∘ JavaChar.code = id := rfl
  rw [identifierText, stored, javaText, List.map_map, written, List.map_id, List.filter_eq_self]
  intro char member
  have nul : char ≠ '\x00' := by
    rintro rfl
    exact absurd (identifier_large valid member) (by decide)
  simpa using nul

theorem plain_logged (valid : combination.Valid) :
    Plain (identifierText (delivery.logged settings k combination)) := by
  rw [identifierText_logged valid]
  refine ⟨?_, ?_, ?_, ?_⟩
  · exact fun member => absurd (identifier_large valid member) (by decide)
  · exact fun member => absurd (identifier_large valid member) (by decide)
  · exact fun member => absurd (identifier_large valid member) (by decide)
  · exact fun first => absurd (identifier_large valid (List.mem_of_mem_head? first)) (by decide)

theorem Delivery.Sound.writes (sound : delivery.Sound settings delay k combination)
    (valid : combination.Valid)
    (hundred : settings.numberOfMessages.toNat ≤ 100) (few : k < 128) :
    (delivery.row settings k combination).Writes (fields (delivery.logged settings k combination)) := by
  have inside := sound.inside
  have total : k * settings.numberOfMessages.toNat ≤ 127 * 100 := Nat.mul_le_mul (by omega) hundred
  obtain ⟨weak, strong⟩ := sound.rssi
  obtain ⟨low, high⟩ := sound.snr
  refine ⟨?_, ?_, ?_, ?_, ?_⟩
  · have value : (BitVec.ofNat 32 (k * settings.numberOfMessages.toNat + delivery.number)).toInt =
        ((k * settings.numberOfMessages.toNat + delivery.number : Nat) : Int) := by
      rw [BitVec.toInt_ofNat', Int.bmod_eq_of_le] <;> omega
    simp only [fields, Delivery.logged, Delivery.row, value]
    push_cast
    rfl
  · simp only [fields, identifierText_logged valid, Delivery.row, String.ofList_toList]
  · have value : ((BitVec.ofInt 8 (-delivery.reception.rssi)).toNat : Int) = -delivery.reception.rssi := by
      rw [BitVec.toNat_ofInt]
      omega
    have text : ("-" ++ toString (BitVec.ofInt 8 (-delivery.reception.rssi)).toNat).toList =
        '-' :: Nat.toDigits 10 (BitVec.ofInt 8 (-delivery.reception.rssi)).toNat := by
      rw [String.toList_append, ← decimal_natCast]
      rfl
    simp only [fields, Delivery.logged, Delivery.row, Graphs.int, text, readSigned, if_true,
      readUnsigned_toDigits Java.digit_ascii, Option.map_some, value, Int.neg_neg]
  · have value : (BitVec.ofInt 8 delivery.reception.snr).toInt = delivery.reception.snr := by
      rw [BitVec.toInt_ofInt_eq_self] <;> omega
    simp only [fields, Delivery.logged, Delivery.row, Java.byteToString, value, int_toString]
  · have read := int_toString (delivery.bitErrors settings combination % 256 : Nat)
    simp only [fields, Delivery.logged, Delivery.row, BitVec.toNat_ofNat]
    exact read

theorem Delivery.Sound.columns (sound : delivery.Sound settings delay k combination)
    (valid : combination.Valid) (hundred : settings.numberOfMessages.toNat ≤ 100) (few : k < 128) :
    entryColumns ((delivery.message settings k combination).fill
      ((delivery.statistics settings combination).fill (Vector.replicate 5 none))) =
      (delivery.logged settings k combination).columns := by
  have filled (number identifier rssi snr errors : String) :
      entryColumns ((Fields.message number identifier).fill
        ((Fields.statistics rssi snr errors).fill (Vector.replicate 5 none))) =
      [javaText number, javaText identifier, javaText rssi, javaText snr, javaText errors] := rfl
  have cast (number : Nat) : toString (number : Int) = toString number := rfl
  have total := (sound.writes valid hundred few).totalNumber
  simp only [fields] at total
  rw [LoggedRow.columns, total]
  simp only [Delivery.message, Delivery.statistics, filled, cast, Delivery.logged, Delivery.row]

end

section

variable (settings : Settings) (delay : Nat) (inputs : List (List RecvResult))
  (deliveries : Nat → List Delivery)

/-- In the window of each combination exactly these messages arrive, in the order of their
numbers. -/
structure Channel : Prop where
  arrivals : ∀ k < settings.combinations.length, windowArrivals settings delay inputs k =
    (deliveries k).map fun delivery => (k, delivery.time, delivery.reception)
  sound : ∀ k combination, settings.combinations[k]? = some combination →
    ∀ delivery ∈ deliveries k, delivery.Sound settings delay k combination
  ordered : ∀ k, (deliveries k).Pairwise fun first second => first.number < second.number

/-- The deliveries of a whole experiment, each with its window and its combination. -/
def delivered : List (Nat × Combination × Delivery) :=
  settings.combinations.zipIdx.flatMap fun pair =>
    (deliveries pair.2).map fun delivery => (pair.2, pair.1, delivery)

def deliveredRow (item : Nat × Combination × Delivery) : Row := item.2.2.row settings item.1 item.2.1

def deliveredLog (item : Nat × Combination × Delivery) : LoggedRow :=
  item.2.2.logged settings item.1 item.2.1

variable {settings delay inputs deliveries}

theorem mem_delivered : (k, combination, delivery) ∈ delivered settings deliveries ↔
    settings.combinations[k]? = some combination ∧ delivery ∈ deliveries k := by
  simp only [delivered, List.mem_flatMap, List.mem_map, Prod.exists, List.mk_mem_zipIdx_iff_getElem?,
    Prod.mk.injEq]
  constructor
  · rintro ⟨combination, k, found, delivery, member, rfl, rfl, rfl⟩
    exact ⟨found, member⟩
  · rintro ⟨found, member⟩
    exact ⟨combination, k, found, delivery, member, rfl, rfl, rfl⟩

theorem deliveredRows_eq : (delivered settings deliveries).map (deliveredRow settings) =
    settings.combinations.zipIdx.flatMap fun pair =>
      (deliveries pair.2).map (Delivery.row settings pair.2 pair.1) := by
  rw [delivered, List.map_flatMap]
  refine List.flatMap_congr fun pair _ => ?_
  rw [List.map_map]
  rfl

theorem Channel.segments (channel : Channel settings delay inputs deliveries) :
    Segments Row.totalNumber settings.numberOfMessages.toNat settings.combinations fun pair =>
      (deliveries pair.2).map (Delivery.row settings pair.2 pair.1) := by
  constructor
  all_goals
    rintro ⟨combination, k⟩ known row member
    obtain ⟨delivery, inside, rfl⟩ := List.mem_map.mp member
    have number :=
      (channel.sound k combination (List.mk_mem_zipIdx_iff_getElem?.mp known) delivery inside).inside
    simp only [Delivery.row]
    omega

theorem Channel.increasing (channel : Channel settings delay inputs deliveries) :
    Increasing Row.totalNumber ((delivered settings deliveries).map (deliveredRow settings)) := by
  rw [deliveredRows_eq]
  refine channel.segments.increasing fun pair _ => ?_
  rw [Increasing, List.pairwise_map]
  refine (channel.ordered pair.2).imp ?_
  intro first second before
  simp only [Delivery.row]
  omega

theorem Channel.iterationRows (channel : Channel settings delay inputs deliveries)
    (found : settings.combinations[k]? = some combination) :
    Graphs.iterationRows ((delivered settings deliveries).map (deliveredRow settings))
        settings.numberOfMessages.toNat k =
      (deliveries k).map (Delivery.row settings k combination) := by
  rw [deliveredRows_eq]
  exact channel.segments.between_eq found

private theorem flatMap_of_map {f : α → γ} {g : β → γ} {F : α → List δ} {G : β → List δ}
    {first : List α} {second : List β} (same : first.map f = second.map g)
    (agree : ∀ one ∈ first, ∀ other ∈ second, f one = g other → F one = G other) :
    first.flatMap F = second.flatMap G := by
  induction first generalizing second with
  | nil =>
    obtain rfl : second = [] := by simpa using same.symm
    rfl
  | cons one rest ih =>
    cases second with
    | nil => simp at same
    | cons other others =>
      simp only [List.map_cons, List.cons.injEq] at same
      rw [List.flatMap_cons, List.flatMap_cons, agree one List.mem_cons_self other List.mem_cons_self same.1,
        ih same.2 fun one member other member' =>
          agree one (List.mem_cons_of_mem _ member) other (List.mem_cons_of_mem _ member')]

theorem Channel.handled {packets : List Handling} (channel : Channel settings delay inputs deliveries)
    (arrivals : packets.map Handling.arrival =
      (List.range settings.combinations.length).flatMap (windowArrivals settings delay inputs)) :
    packets.map Handling.arrival = (delivered settings deliveries).map fun item =>
      (item.1, item.2.2.time, item.2.2.reception) := by
  have indices : List.range settings.combinations.length = settings.combinations.zipIdx.map Prod.snd := by
    rw [List.zipIdx_map_snd, List.range_eq_range']
  rw [arrivals, indices, List.flatMap_map, delivered, List.map_flatMap]
  refine List.flatMap_congr ?_
  rintro ⟨combination, k⟩ member
  have found := List.mk_mem_zipIdx_iff_getElem?.mp member
  rw [channel.arrivals k (List.getElem?_eq_some_iff.mp found).1, List.map_map]
  rfl

section

variable {decode : List Byte → Option String} {packets : List Handling}

theorem Channel.table (channel : Channel settings delay inputs deliveries)
    (long : 11 ≤ settings.msgLength.toNat) (positive : 1 ≤ settings.timeBetween.toNat)
    (hundred : settings.numberOfMessages.toNat ≤ 100) (few : settings.combinations.length ≤ 128)
    (ascii : DecodesAscii decode) (observed : handlings settings ldiv0 delay config inputs = some packets)
    (arrivals : packets.map Handling.arrival =
      (List.range settings.combinations.length).flatMap (windowArrivals settings delay inputs)) :
    (resultEntries decode (BitVec.ofInt 32 settings.numberOfMessages.toNat)
        (packets.flatMap Handling.notifications)).map entryColumns =
      ((delivered settings deliveries).map (deliveredLog settings)).map LoggedRow.columns := by
  have early {k : Nat} {combination : Combination} (found : settings.combinations[k]? = some combination) :
      k < 128 := by
    have inside := (List.getElem?_eq_some_iff.mp found).1
    omega
  have events : (packets.flatMap Handling.notifications).filterMap
        (resultEvent decode (BitVec.ofInt 32 settings.numberOfMessages.toNat)) =
      (delivered settings deliveries).flatMap fun item =>
        [some (item.2.2.statistics settings item.2.1), some (item.2.2.message settings item.1 item.2.1)] := by
    rw [List.filterMap_flatMap]
    refine flatMap_of_map (channel.handled arrivals) ?_
    rintro handling handled ⟨k, combination, delivery⟩ member arrival
    obtain ⟨found, known⟩ := mem_delivered.mp member
    exact (channel.sound k combination found delivery known).events long positive hundred (early found) found
      ascii observed handled arrival
  rw [resultEntries, events]
  change (rowsFrom none _).map entryColumns = _
  rw [rowsFrom_pairs, List.map_map, List.map_map]
  refine List.map_congr_left ?_
  rintro ⟨k, combination, delivery⟩ member
  obtain ⟨found, known⟩ := mem_delivered.mp member
  exact (channel.sound k combination found delivery known).columns
    (combination_valid settings (List.mem_of_getElem? found)) hundred (early found)

theorem Channel.resultRows (channel : Channel settings delay inputs deliveries)
    (hundred : settings.numberOfMessages.toNat ≤ 100) (few : settings.combinations.length ≤ 128) :
    Graphs.resultRows
        (makeCSV (((delivered settings deliveries).map (deliveredLog settings)).map LoggedRow.columns)) =
      some (((delivered settings deliveries).map (deliveredRow settings)).map Row.kept) := by
  rw [resultRows_makeCSV]
  · have written : List.Forall₂ Row.Writes ((delivered settings deliveries).map (deliveredRow settings))
        (((delivered settings deliveries).map (deliveredLog settings)).map fields) := by
      rw [List.map_map, List.forall₂_map_left_iff, List.forall₂_map_right_iff, List.forall₂_same]
      rintro ⟨k, combination, delivery⟩ member
      obtain ⟨found, known⟩ := mem_delivered.mp member
      have inside := (List.getElem?_eq_some_iff.mp found).1
      exact (channel.sound k combination found delivery known).writes
        (combination_valid settings (List.mem_of_getElem? found)) hundred (by omega)
    have extracted := extractRows_eq written none
    rwa [channel.increasing.dropRepeats_eq (by simp)] at extracted
  · intro row member
    obtain ⟨⟨k, combination, delivery⟩, known, rfl⟩ := List.mem_map.mp member
    exact plain_logged (combination_valid settings (List.mem_of_getElem? (mem_delivered.mp known).1))

end

/-- The script sees of an iteration exactly the deliveries of its window. -/
structure Measured (settings : Settings) (combination : Combination) (arrived : List Delivery)
    (data : IterationData) : Prop where
  rounds : data.rounds = arrived.map Delivery.number
  rssi : data.rssiIteration = arrived.map fun delivery => delivery.reception.rssi
  noise : data.snrIteration = arrived.map fun delivery => delivery.reception.rssi - delivery.reception.snr
  corrupted : data.corruptedMsgsCount = arrived.countP (Delivery.damaged settings combination)
  biterrors : data.biterrorSum =
    (arrived.map fun delivery => ((delivery.bitErrors settings combination % 256 : Nat) : Int)).sum
  delivery : ∀ experiment : Experiment, experiment.numberOfTransmissions = settings.numberOfMessages.toNat →
    (exactRates experiment data).pdr = arrived.length / settings.numberOfMessages.toNat

theorem Measured.of_counts {k : Nat} {arrived : List Delivery} {data : IterationData}
    (valid : combination.Valid)
    (counts : data.Counts (k * settings.numberOfMessages.toNat) settings.numberOfMessages.toNat
      (arrived.map (Delivery.row settings k combination))) :
    Measured settings combination arrived data := by
  have rssi : data.rssiIteration = arrived.map fun delivery => delivery.reception.rssi := by
    rw [counts.rssi, List.map_map]
    rfl
  refine ⟨?_, rssi, ?_, ?_, ?_, ?_⟩
  · have rounds := counts.rounds
    rw [List.map_map] at rounds
    have shift : Function.Injective fun n : Nat => (k * settings.numberOfMessages.toNat : Int) + n := by
      intro first second same
      simp only at same
      omega
    apply shift.list_map
    rw [List.map_map]
    exact rounds
  · rw [counts.snr, List.map_map]
    rfl
  · rw [counts.corrupted, List.countP_map]
    exact congrArg (List.countP · arrived) (funext fun delivery => identifier_flag valid)
  · rw [counts.biterrorSum, List.map_map]
    rfl
  · intro experiment same
    simp only [exactRates, rates, metrics, rssi, List.length_map, same]
    cases arrived with
    | nil => simp
    | cons => simp

/-- The parameters read from the information file are the columns of the form. -/
theorem expParam_form {entry : Entry} (column : Nat) (known : entry[column]? = some (some text)) :
    expParam (entry.toList.map columnText) column = some text := by
  rw [expParam, List.getElem?_map, Vector.getElem?_toList, known]
  simp [columnText]

theorem processFiles_form {form : Form} {uploaded : Entry} (accepted : Accepted form)
    (messages : Java.parseInt form.noMsgs = .ok number)
    (kept : ∀ column ∈ formColumns, uploaded[column]? = (form.record rowId)[column]?)
    (lines : LineByLine converts uploaded) (placed : (uploaded.get 26 >>= toDistance).isSome)
    (read : Graphs.resultRows results = some rows) :
    processFiles converts toDistance (makeExpInfoText uploaded) results =
      (aggregate (formCodes form.boxes) rows number.toNat .start).map Aggregation.iterations := by
  have info : readInfo converts (makeExpInfoText uploaded) = some (uploaded.toList.map columnText) :=
    (infoRoundTrips_texts converts uploaded).mpr lines
  rw [processFiles, info, read]
  refine processData_form rowId accepted messages (fun column used => ?_) ?_ rows
  · have stored : ∃ text, (form.record rowId)[column]? = some (some text) := by
      simp only [formColumns, List.mem_cons, List.not_mem_nil, or_false] at used
      rcases used with rfl | rfl | rfl | rfl | rfl | rfl | rfl <;> exact ⟨_, rfl⟩
    obtain ⟨text, known⟩ := stored
    rw [expParam_form column ((kept column used).trans known), Entry.get, known]
    rfl
  · obtain ⟨distance, converted⟩ := Option.isSome_iff_exists.mp placed
    obtain ⟨text, found, -⟩ := Option.bind_eq_some_iff.mp converted
    rw [expParam_form 26 (Option.join_eq_some_iff.mp found), ← found]
    exact placed

end

/-- For every accepted form with up to 128 combinations, whatever subset of the messages
the channel delivers in their slots, with damaged payloads or not, and for every record with
the columns of the form that the script can read: receiver, phone, files and script report
for each combination exactly the delivered messages, their RSSI and noise, the damaged ones
and the bit errors modulo 256 of each, and the delivery rate is the share of the delivered
messages. -/
theorem measurement_exact (stored : experimentReady form rowId = .ok (.stored entry))
    (encoded : createSettingsBytes entry total = .ok bytes) (read : Settings.ofBytes bytes = some settings)
    (counted : entry.parse Java.parseInt Column.numberOfMessages = .ok messages)
    (positive : 1 ≤ settings.timeBetween.toNat) (few : (choices form.boxes).length ≤ 128)
    (kept : ∀ column ∈ formColumns, uploaded[column]? = entry[column]?)
    (lines : LineByLine converts uploaded) (placed : (uploaded.get 26 >>= toDistance).isSome)
    (ascii : DecodesAscii decode)
    (channel : Channel settings delay inputs deliveries) (sender : SenderState settings.msgLength.toNat)
    (ldiv0 : Int → Int) (config : LoraModemConfig) :
    ∃ sent received iterations, senderExperiment settings sender = some sent ∧
      receiverExperiment settings ldiv0 delay (.start config inputs) = some received ∧
      processFiles converts toDistance (makeExpInfoText uploaded)
        (makeCSV
          ((resultEntries decode (BitVec.ofInt 32 messages) received.notifications).map entryColumns)) =
          some iterations ∧
      iterations.map (fun data => data.position.toList) = choices form.boxes ∧
      ∀ k combination, settings.combinations[k]? = some combination →
        ∃ data, iterations[k]? = some data ∧ Measured settings combination (deliveries k) data ∧
          ∀ delivery ∈ deliveries k,
            .sent combination.params delivery.number (delivery.sent settings combination) ∈ sent.trace := by
  obtain ⟨accepted, rfl⟩ := (experimentReady_eq_stored rowId).mp stored
  obtain ⟨same, read', of⟩ := settings_of_encoded encoded
  obtain rfl : settings = same := Option.some.inj (read.symm.trans read')
  obtain ⟨low, high⟩ := messages_bounds accepted counted
  have parsed : Java.parseInt form.noMsgs = .ok messages := counted
  have number : (settings.numberOfMessages.toNat : Int) = messages :=
    (Java.toNat_of_parseByte of.messages parsed).mpr (by omega)
  have long := of.long accepted
  have size : settings.combinations.length = (choices form.boxes).length := by
    rw [Settings.combinations, List.length_map, of.paths]
  obtain ⟨packets, observed, arrivals⟩ :
      ∃ packets, handlings settings ldiv0 delay config inputs = some packets ∧ _ :=
    handlings_complete long config inputs
  obtain ⟨received, run, notified⟩ := handlings_notifications observed
  obtain ⟨sent, transmitted, output⟩ := senderExperiment_trace settings long sender
  have table := channel.table long positive (by omega) (by omega) ascii observed arrivals
  have rows := channel.resultRows (by omega) (by omega)
  rw [← table, ← notified, number] at rows
  obtain ⟨final, loops, positions, consumed⟩ :
      ∃ final, aggregate (formCodes form.boxes) _ settings.numberOfMessages.toNat .start = some final ∧ _ :=
    aggregate_consumed (formCodes form.boxes) channel.increasing fun row member => by
      obtain ⟨item, -, rfl⟩ := List.mem_map.mp member
      simp only [deliveredRow, Delivery.row]
      positivity
  rw [formCodes_paths] at positions
  refine ⟨sent, received, final.iterations, transmitted, run, ?_, positions, ?_⟩
  · rw [processFiles_form accepted parsed kept lines placed rows, ← number, Int.toNat_natCast, loops]
    rfl
  · intro k combination found
    have inside : k < final.iterations.length := by
      rw [← List.length_map, positions, ← size]
      exact (List.getElem?_eq_some_iff.mp found).1
    refine ⟨final.iterations[k], List.getElem?_eq_getElem inside, ?_, ?_⟩
    · have counts := consumed.counts k _ (List.getElem?_eq_getElem inside)
      rw [channel.iterationRows found] at counts
      exact .of_counts (combination_valid settings (List.mem_of_getElem? found)) counts
    · intro delivery member
      rw [output]
      refine List.mem_append_right _
        ((sent_iff settings).mpr ⟨combination, List.mem_of_getElem? found, rfl, ?_, rfl⟩)
      exact (channel.sound k combination found delivery member).inside

/-- The first of fifty messages arrives half a second after the start of its slot. -/
def firstDelivery : Delivery := ⟨0, 9500, ⟨message ⟨0, 0, 0, 0, 0⟩ 30 0, -100, 5⟩⟩

def firstOnly (k : Nat) : List Delivery := if k = 0 then [firstDelivery] else []

theorem firstOnly_channel : Channel ⟨50, 4, 30, 1, 1, 1, 1, 1⟩ 5
    [[⟨9500, some ⟨message ⟨0, 0, 0, 0, 0⟩ 30 0, -100, 5⟩⟩]] firstOnly := by
  have combinations : (⟨50, 4, 30, 1, 1, 1, 1, 1⟩ : Settings).combinations = [⟨0, 0, 0, 0, 0⟩] := by decide
  refine ⟨?_, ?_, ?_⟩
  · intro k inside
    rw [combinations] at inside
    obtain rfl : k = 0 := by simpa using inside
    rfl
  · intro k combination found delivery member
    have first : k = 0 := by
      have inside := (List.getElem?_eq_some_iff.mp found).1
      rw [combinations] at inside
      simpa using inside
    subst first
    rw [combinations] at found
    obtain rfl : ⟨0, 0, 0, 0, 0⟩ = combination := by simpa using found
    obtain rfl : delivery = firstDelivery := by simpa [firstOnly] using member
    exact ⟨by decide, by decide, by decide, message_length _ _ _, rfl, by decide, by decide⟩
  · intro k
    rw [firstOnly]
    split <;> simp

def wholePart (text : String) : Option Int := Graphs.int (String.ofList (text.toList.takeWhile (· ≠ '.')))

/-- What Python converts in a record like the sample: an integer start time, decimal numbers. -/
def sampleConverts (position : Nat) (text : List Char) : Bool :=
  if position = 19 then (Graphs.int (String.ofList text)).isSome else (wholePart (String.ofList text)).isSome

theorem sample_updated : ∃ uploaded, update ((sampleForm "50" "4").record 1) = some uploaded ∧
    (∀ column ∈ formColumns, uploaded[column]? = ((sampleForm "50" "4").record 1)[column]?) ∧
    LineByLine sampleConverts uploaded ∧ (uploaded.get 26 >>= wholePart).isSome := by
  have checked : ((update ((sampleForm "50" "4").record 1)).any fun uploaded =>
      decide ((∀ column ∈ formColumns, uploaded[column]? = ((sampleForm "50" "4").record 1)[column]?) ∧
        (∀ column ∈ uploaded.toList, '\n' ∉ columnText column ∧ '\r' ∉ columnText column) ∧
        (∀ position ∈ convertedLines, uploaded[position]?.all
          (fun column => sampleConverts position (columnText column))) ∧
        (uploaded.get 26 >>= wholePart).isSome)) = true := by
    decide +kernel
  cases updated : update ((sampleForm "50" "4").record 1) with
  | none =>
    rw [updated] at checked
    cases checked
  | some uploaded =>
    rw [updated] at checked
    obtain ⟨kept, lines, converted, placed⟩ := of_decide_eq_true checked
    refine ⟨uploaded, rfl, kept, ⟨lines, fun position used column found => ?_⟩, placed⟩
    have read := converted position used
    rwa [found] at read

theorem measurement_exact_sample :
    ∃ uploaded sent received iterations, update ((sampleForm "50" "4").record 1) = some uploaded ∧
      senderExperiment ⟨50, 4, 30, 1, 1, 1, 1, 1⟩
        ⟨changeConfig (fun _ => 0) #v[0, 0, 0, 0, 0] true, Vector.replicate _ 7, []⟩ = some sent ∧
      receiverExperiment ⟨50, 4, 30, 1, 1, 1, 1, 1⟩ (fun _ => 0) 5
        (.start (changeConfig (fun _ => 0) #v[0, 0, 0, 0, 0] false)
          [[⟨9500, some ⟨message ⟨0, 0, 0, 0, 0⟩ 30 0, -100, 5⟩⟩]]) = some received ∧
      processFiles sampleConverts wholePart (makeExpInfoText uploaded)
        (makeCSV ((resultEntries (fun content => some (asciiText (content.take 10))) (BitVec.ofInt 32 50)
          received.notifications).map entryColumns)) = some iterations ∧
      ∃ data, iterations[0]? = some data ∧ data.rounds = [0] ∧ data.rssiIteration = [-100] := by
  have read : Settings.ofBytes ((sampleForm "50" "4").header 50 4 30 ++ delayBytes 5000) =
      some ⟨50, 4, 30, 1, 1, 1, 1, 1⟩ := by decide
  have counted : ((sampleForm "50" "4").record 1).parse Java.parseInt Column.numberOfMessages = .ok 50 := by
    decide
  have ascii : DecodesAscii fun content => some (asciiText (content.take 10)) := fun _ _ _ => rfl
  obtain ⟨uploaded, updated, kept, lines, placed⟩ := sample_updated
  obtain ⟨sent, received, iterations, transmitted, run, processed, -, measured⟩ :=
    measurement_exact sampleForm_fifty_stored sampleForm_fifty_encoded read counted (by decide) (by decide)
      kept lines placed ascii firstOnly_channel
      ⟨changeConfig (fun _ => 0) #v[0, 0, 0, 0, 0] true, Vector.replicate _ 7, []⟩ (fun _ => 0)
      (changeConfig (fun _ => 0) #v[0, 0, 0, 0, 0] false)
  obtain ⟨data, found, exact, -⟩ := measured 0 ⟨0, 0, 0, 0, 0⟩ (by decide)
  exact ⟨uploaded, sent, received, iterations, updated, transmitted, run, processed, data, found,
    exact.rounds, exact.rssi⟩

end LoraEval.Experiment

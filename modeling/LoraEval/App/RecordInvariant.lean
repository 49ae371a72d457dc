import LoraEval.App.RecordEdits

namespace LoraEval.App

open LoraEval.Core

/-- The exceptions of a record that is not as a screen expects it. -/
def Fault.ofRecords : Fault → Bool
  | .position | .nullColumn | .missingRow | .missingNext | .shortTime | .database _ => true
  | .input _ | .broadcast | .deletedRow => false

def Platform.Reads (platform : Platform) (currentLocation : Option Location) : Prop :=
  platform.readsDouble (Location.getLatitude currentLocation) = true ∧
    platform.readsDouble (Location.getLongitude currentLocation) = true ∧
    platform.readsDouble (Location.getAltitude currentLocation) = true

/-- The positions that the event stores are numbers, and its time has ten digits. -/
def PhoneEvent.Sensible (platform : Platform) : PhoneEvent → Prop
  | .prepareSender currentLocation => platform.Reads currentLocation
  | .logLocation currentLocation _ => platform.Reads currentLocation
  | .countedDown now currentLocation _ _ => 10 ^ 9 ≤ now ∧ platform.Reads currentLocation
  | .confirm loc => platform.readsDouble loc = true
  | _ => True

instance (platform : Platform) (currentLocation : Option Location) :
    Decidable (platform.Reads currentLocation) :=
  inferInstanceAs (Decidable (_ ∧ _ ∧ _))

instance (platform : Platform) : DecidablePred (PhoneEvent.Sensible platform) := fun event => by
  cases event with
  | prepareSender currentLocation | logLocation currentLocation =>
    exact inferInstanceAs (Decidable (platform.Reads currentLocation))
  | countedDown now currentLocation =>
    exact inferInstanceAs (Decidable (10 ^ 9 ≤ now ∧ platform.Reads currentLocation))
  | confirm loc => exact inferInstanceAs (Decidable (platform.readsDouble loc = true))
  | _ => exact isTrue trivial

section

variable {platform : Platform}

theorem senderPosition_fills (reads : platform.Reads currentLocation) :
    Fills platform (senderPosition currentLocation) [20, 21, 22] := by
  obtain ⟨latitude, longitude, altitude⟩ := reads
  exact .cons rfl (.number latitude (by decide))
    (.cons rfl (.number longitude (by decide))
      (.cons rfl (.number altitude (by decide)) .nil))

theorem receiverPosition_fills (reads : platform.Reads currentLocation) :
    Fills platform (receiverPosition currentLocation) [23, 24, 25] := by
  obtain ⟨latitude, longitude, altitude⟩ := reads
  exact .cons rfl (.number latitude (by decide))
    (.cons rfl (.number longitude (by decide))
      (.cons rfl (.number altitude (by decide)) .nil))

theorem startTime_fills (late : 10 ^ 9 ≤ now) : Fills platform [("start_time", toString now)] [19] := by
  refine .cons rfl ⟨fun _ => ?_, fun inside => absurd inside (by decide)⟩ .nil
  have digits : ¬ (Nat.toDigits 10 now).length ≤ 9 := by
    rw [Nat.length_toDigits_le_iff (by decide) (by decide)]
    omega
  rw [Nat.toString_eq_repr, Nat.repr, String.length_ofList]
  omega

theorem Fills.zip
    (named : List.Forall₂ (fun name column => infoColumns[column]? = some name ∧ 26 ≤ column) names columns)
    (values : List String) : Fills platform (names.zip values) (columns.take values.length) := by
  induction named generalizing values with
  | nil =>
    rw [List.zip_nil_left, List.take_nil]
    exact List.Forall₂.nil
  | cons first _ ih =>
    cases values with
    | nil => exact List.Forall₂.nil
    | cons value values => exact .cons first.1 (.free platform value (.inr first.2)) (ih values)

theorem weather_fills (platform : Platform) (values : List String) :
    Fills platform (weatherColumns.zip values) ([28, 29, 30, 31].take values.length) := by
  refine .zip ?_ values
  exact .cons ⟨rfl, by decide⟩ (.cons ⟨rfl, by decide⟩ (.cons ⟨rfl, by decide⟩ (.cons ⟨rfl, by decide⟩ .nil)))

theorem distance_fills (platform : Platform) (text : String) :
    Fills platform [("actual_distance", text)] [26] :=
  .cons rfl (.free platform text (by decide)) .nil

theorem altitudeDifference_fills (platform : Platform) (text : String) :
    Fills platform [("altitude_difference", text)] [27] :=
  .cons rfl (.free platform text (by decide)) .nil

theorem orientation_fills (platform : Platform) (text : String) :
    Fills platform [("sender_orientation", text)] [32] ∧
      Fills platform [("receiver_orientation", text)] [33] :=
  ⟨.cons rfl (.free platform text (by decide)) .nil,
    .cons rfl (.free platform text (by decide)) .nil⟩

theorem location_fills (reads : platform.readsDouble loc = true) (position : column ∈ positionColumns) :
    ∃ locationIdentifier, locationIdentifiers[column - Column.senderLatitude]? = some locationIdentifier ∧
      Fills platform [(locationIdentifier, loc)] [column] := by
  have named : ∀ column ∈ positionColumns, ∃ locationIdentifier,
      locationIdentifiers[column - Column.senderLatitude]? = some locationIdentifier ∧
        infoColumns[column]? = some locationIdentifier ∧ column ≠ Column.startTime := by
    decide
  obtain ⟨locationIdentifier, listed, known, other⟩ := named column position
  exact ⟨locationIdentifier, listed, .cons known (.number reads other) .nil⟩

theorem Fills.append (first : Fills platform values columns) (second : Fills platform values' columns') :
    Fills platform (values ++ values') (columns ++ columns') := List.rel_append first second

end

/-- What the form stored is there, and a finished record has its summary, the start time
and all positions. -/
structure Entry.Sound (platform : Platform) (entry : Entry) : Prop where
  stored : ∀ column < 17, entry.Holds platform column
  state : entry.IsReady ∨ entry.IsFinished
  summarised : entry.IsFinished → entry.Summarised
  measured : entry.IsFinished → ∀ column, 19 ≤ column → column ≤ 25 → entry.Holds platform column

theorem Entry.Summarised.holds {entry : Entry} (summarised : entry.Summarised) (platform : Platform)
    (column : Nat) (low : 17 ≤ column) (high : column ≤ 18) : entry.Holds platform column := by
  obtain ⟨summary, -, iterations, duration⟩ := summarised
  have free (text : String) : platform.Accepts column text := .free platform text (by omega)
  obtain rfl | rfl : column = 17 ∨ column = 18 := by omega
  · exact ⟨_, iterations, free _⟩
  · exact ⟨_, duration, free _⟩

theorem Entry.Sound.complete {entry : Entry} (sound : entry.Sound platform) (finished : entry.IsFinished)
    (column : Nat) (early : column ≤ 25) : entry.Holds platform column := by
  by_cases stored : column < 17
  · exact sound.stored column stored
  · by_cases summary : column ≤ 18
    · exact (sound.summarised finished).holds platform column (by omega) summary
    · exact sound.measured finished column (by omega) early

theorem Entry.Sound.evolves {old new : Entry} (sound : old.Sound platform)
    (evolves : old.Evolves platform prompt new) : new.Sound platform := by
  have back (finished : new.IsFinished) : old.IsFinished :=
    (evolves.stored Column.state (by decide)).symm.trans finished
  refine ⟨fun column early => evolves.holds column (sound.stored column early), ?_,
    fun finished => evolves.summarised (sound.summarised (back finished)),
    fun finished column low high => evolves.holds column (sound.measured (back finished) column low high)⟩
  exact sound.state.imp evolves.ready evolves.finished

theorem Form.record_sound (platform : Platform) (form : Form) (rowId : Nat) :
    (form.record rowId).IsReady ∧ (form.record rowId).Sound platform := by
  have ready : (form.record rowId).IsReady := rfl
  refine ⟨ready, fun column early => ?_, .inl ready, fun finished => absurd finished ready.not_finished,
    fun finished => absurd finished ready.not_finished⟩
  have stored : ∃ text, (form.record rowId).get column = some text := by
    interval_cases column <;> exact ⟨_, rfl⟩
  obtain ⟨text, held⟩ := stored
  exact ⟨text, held, .free platform text (by omega)⟩

namespace Phone

/-- The records are sound, a request for the weather is for a finished one, and what was
uploaded is complete but for the orientations. -/
structure Consistent (platform : Platform) (phone : Phone) : Prop where
  few : created phone.calls < 2 ^ 31
  plain : ∀ call ∈ phone.calls, call.setsKey = false
  sound : ∀ number entry, phone.record platform number = some entry → entry.Sound platform
  fetched : ∀ number ∈ phone.fetching, number.toInt ≤ created phone.calls ∧
    ∀ entry, phone.record platform number = some entry →
      entry.IsFinished ∧ ∀ column ≤ 27, entry.Holds platform column
  uploaded : ∀ upload ∈ phone.uploads, upload.information.IsFinished ∧
    ∀ column ≤ 31, upload.information.Holds platform column

def NextReady (platform : Platform) (phone : Phone) (number : BitVec 32) : Prop :=
  ∃ next entry, (phone.store platform).getPrimaryColumn[nextPosition
      (phone.store platform).getPrimaryColumn number]? = some next ∧
    phone.record platform next = some entry ∧ entry.IsReady

end Phone

/-- What `StartExperimentScreen` relies on in its record. -/
structure StartExperimentScreen.Shows (platform : Platform) (prompt : Prop) (screen : StartExperimentScreen)
    (entry : Entry) : Prop where
  loaded : ∀ column < 17, column ≠ Column.state → screen.entry.get column = entry.get column
  summarised : entry.Summarised
  sender : ∀ column, 20 ≤ column → column ≤ 22 → entry.Holds platform column
  located : screen.gpsLogged = true → ∀ column, 23 ≤ column → column ≤ 25 → entry.Holds platform column
  measuring : screen.screen.timer = some .duration → entry.Holds platform Column.startTime ∧
    ∀ column, 23 ≤ column → column ≤ 25 → entry.Holds platform column
  card : screen.locationCard = true → entry.IsReady ∧ screen.screen.timer ≠ some .duration
  finished : screen.finishedLayout = true ∨ screen.nextExpButton = true → entry.IsFinished
  timely : prompt → screen.screen.timer.isSome → entry.IsReady
  dialog : ∀ column, screen.dialog = some column → entry.IsFinished ∧ column ∈ positionColumns ∧
    (prompt → entry.get column = some "-1")

namespace Phone

/-- The screen in front agrees with the database. -/
def OnScreen (platform : Platform) (prompt : Prop) (phone : Phone) : Screen → Prop
  | .closed fault => ∀ cause, fault = some cause → cause.ofRecords = false
  | .overview absoluteIds => absoluteIds = (phone.store platform).getPrimaryColumn
  | .customize => True
  | .prepareSender screen => ∃ entry, phone.record platform screen.experimentNumber = some entry ∧
      entry.IsReady ∧
      (screen.isPrepared = true → ∀ column, 20 ≤ column → column ≤ 22 → entry.Holds platform column)
  | .startExperiment screen => ∃ entry, phone.record platform screen.experimentNumber = some entry ∧
      screen.Shows platform prompt entry ∧
      (screen.nextExpButton = true → phone.NextReady platform screen.experimentNumber)

structure Inv (platform : Platform) (prompt : Prop) (phone : Phone) : Prop extends
    Consistent platform phone where
  screen : OnScreen platform prompt phone phone.screen

variable {platform : Platform} {prompt : Prop} {phone next : Phone} {number : BitVec 32} {entry : Entry}

theorem Consistent.evolves (consistent : Consistent platform phone)
    (evolves : Evolves platform prompt phone next)
    (fetching : ∀ number ∈ next.fetching, number ∈ phone.fetching) (uploads : next.uploads = phone.uploads) :
    Consistent platform next := by
  have back {number : BitVec 32} {new : Entry} (found : next.record platform number = some new) :
      ∃ old, phone.record platform number = some old ∧ old.Evolves platform prompt new := by
    cases held : phone.record platform number with
    | none => simp [evolves.absent number held] at found
    | some old =>
      obtain ⟨same, stored, edits⟩ := evolves.records number old held
      obtain rfl : same = new := Option.some.inj (stored.symm.trans found)
      exact ⟨old, rfl, edits⟩
  refine ⟨by rw [evolves.created]; exact consistent.few, ?_, fun number new found => ?_,
    fun number member => ⟨?_, fun new found => ?_⟩, by rw [uploads]; exact consistent.uploaded⟩
  · obtain ⟨more, calls, -, plain⟩ := evolves.calls
    rw [calls]
    exact List.forall_mem_append.mpr ⟨consistent.plain, plain⟩
  · obtain ⟨old, held, edits⟩ := back found
    exact (consistent.sound number old held).evolves edits
  · rw [evolves.created]
    exact (consistent.fetched number (fetching number member)).1
  · obtain ⟨old, held, edits⟩ := back found
    obtain ⟨finished, holds⟩ := (consistent.fetched number (fetching number member)).2 old held
    exact ⟨edits.finished finished, fun column early => edits.holds column (holds column early)⟩

theorem Consistent.of_calls (consistent : Consistent platform phone) (same : next.calls = phone.calls)
    (fetching : ∀ number ∈ next.fetching, number ∈ phone.fetching) (uploads : next.uploads = phone.uploads) :
    Consistent platform next :=
  have evolves : Evolves platform True phone next := .of_calls same
  consistent.evolves evolves fetching uploads

theorem Consistent.separate (consistent : Consistent platform phone) :
    Separate phone.calls (phone.store platform) :=
  databaseAfter_separate platform.affinity consistent.plain consistent.few

theorem Consistent.bounded (consistent : Consistent platform phone)
    (found : phone.record platform number = some entry) : number.toInt ≤ created phone.calls := by
  have listed := (Table.mem_keys_iff _ number.toInt).mpr (Option.isSome_of_eq_some found)
  exact (consistent.separate.bounded _ listed).2

theorem Consistent.listed (consistent : Consistent platform phone)
    (member : number ∈ (phone.store platform).getPrimaryColumn) :
    ∃ entry, phone.record platform number = some entry := by
  obtain ⟨id, listed, rfl⟩ := List.mem_map.mp member
  obtain ⟨positive, bound⟩ := consistent.separate.bounded id listed
  have few := consistent.few
  have whole : (BitVec.ofInt 32 id).toInt = id := by
    rw [BitVec.toInt_ofInt, Int.bmod_eq_of_le (by omega) (by omega)]
  rw [record, ExperimentStore.getExperimentInfo, whole]
  exact Option.isSome_iff_exists.mp ((Table.mem_keys_iff _ id).mp listed)

theorem NextReady.evolves (ready : NextReady platform phone number)
    (evolves : Evolves platform prompt phone next) : NextReady platform next number := by
  obtain ⟨other, entry, position, found, ready⟩ := ready
  obtain ⟨new, stored, edits⟩ := evolves.records other entry found
  exact ⟨other, new, by rwa [evolves.listed], stored, edits.ready ready⟩

theorem withRecord_eq (found : phone.record platform number = some entry) (use : Entry → Phone) :
    phone.withRecord platform number use = use entry := by
  rw [withRecord, found]

theorem withState_ready (ready : entry.IsReady) (use : Bool → Phone) :
    phone.withState entry use = use true := by
  rw [withState, ready]
  rfl

theorem withState_finished (finished : entry.IsFinished) (use : Bool → Phone) :
    phone.withState entry use = use false := by
  rw [withState, finished]
  rfl

theorem parsePositions_none
    (holds : ∀ column ∈ columns, column ∈ positionColumns ∧ entry.Holds platform column) :
    parsePositions platform entry columns = none := by
  induction columns with
  | nil => rfl
  | cons column columns ih =>
    obtain ⟨⟨position, text, held, accepted⟩, rest⟩ := List.forall_mem_cons.mp holds
    rw [parsePositions, held]
    simp only [accepted.position position, if_true]
    exact ih rest

theorem record_fills (fills : Fills platform values columns) (positive : ∀ column ∈ columns, 0 < column)
    (found : phone.record platform number = some entry) :
    (phone.write (App.updates number values)).record platform number = some (entry.update values) ∧
      (∀ column ∈ columns, (entry.update values).Holds platform column) ∧
      ∀ column ∉ columns, (entry.update values).get column = entry.get column := by
  refine ⟨?_, fun column member => ?_, fun column other => ?_⟩
  · rw [record_updates platform phone number (fills.inside positive), if_pos rfl, found]
    rfl
  · exact .update fills.proper (.inr (by rwa [fills.map_columnOf]))
  · exact entry.get_update (by rwa [fills.map_columnOf])

/-- A write that fills columns behind the summary, of a finished record only where it is
allowed. -/
theorem Evolves.fills (fills : Fills platform values columns) (behind : ∀ column ∈ columns, 19 ≤ column)
    (allowed : prompt → ∀ entry, phone.record platform number = some entry → entry.IsFinished →
      ∀ column ∈ columns, column ∈ computedColumns ∨
        column ∈ positionColumns ∧ entry.get column = some "-1") :
    Evolves platform prompt phone (phone.write (App.updates number values)) := by
  refine .updates phone number (fills.inside fun column member => ?_) fun entry found => ?_
  · have late := behind column member
    omega
  · exact .of_update fills behind fun prompt => allowed prompt entry found

theorem Evolves.record (evolves : Evolves platform prompt phone next) {new : Entry}
    (found : phone.record platform number = some entry) (stored : next.record platform number = some new) :
    entry.Evolves platform prompt new := by
  obtain ⟨same, found', edits⟩ := evolves.records number entry found
  obtain rfl : same = new := Option.some.inj (found'.symm.trans stored)
  exact edits

theorem Inv.crash (consistent : Consistent platform phone) (foreign : fault.ofRecords = false) :
    Inv platform prompt (phone.crash fault) := by
  refine ⟨consistent.of_calls rfl (by simp [Phone.crash]) rfl, ?_⟩
  rintro cause same
  obtain rfl : fault = cause := Option.some.inj same
  exact foreign

theorem Consistent.onCreate (consistent : Consistent platform phone)
    (found : phone.record platform number = some entry)
    (sender : ∀ column, 20 ≤ column → column ≤ 22 → entry.Holds platform column) :
    Evolves platform prompt phone (phone.onCreate platform number) ∧
      Inv platform prompt (phone.onCreate platform number) := by
  have sound := consistent.sound number entry found
  rw [Phone.onCreate, withRecord_eq found]
  cases read : initSummary entry with
  | error exception => exact ⟨.of_calls rfl, .crash consistent rfl⟩
  | ok summary =>
    obtain ⟨edits, summarised⟩ : entry.Evolves platform prompt (entry.update (summaryValues summary)) ∧
        (entry.update (summaryValues summary)).Summarised := Entry.Evolves.of_summary read sound.summarised
    have fills := summaryValues_fills platform summary
    have evolves : Evolves platform prompt phone (phone.write (updates number (summaryValues summary))) := by
      refine .updates phone number (fills.inside (by decide)) fun other held => ?_
      obtain rfl : entry = other := Option.some.inj (found.symm.trans held)
      exact edits
    obtain ⟨stored, -, -⟩ := record_fills fills (by decide) found
    have kept := consistent.evolves evolves (fun _ member => member) rfl
    have loaded : ∀ column < 17, column ≠ Column.state →
        entry.get column = (entry.update (summaryValues summary)).get column :=
      fun column early _ => (edits.stored column early).symm
    have known (column : Nat) (low : 20 ≤ column) (high : column ≤ 22) :
        (entry.update (summaryValues summary)).Holds platform column :=
      edits.holds column (sender column low high)
    rcases sound.state with ready | finished
    · have parsed : parsePositions platform entry
          [Column.senderLatitude, Column.senderLongitude, Column.senderAltitude] = none := by
        refine parsePositions_none fun column member => ?_
        have range : ∀ column ∈ [Column.senderLatitude, Column.senderLongitude, Column.senderAltitude],
            column ∈ positionColumns ∧ 20 ≤ column ∧ column ≤ 22 := by decide
        obtain ⟨position, low, high⟩ := range column member
        exact ⟨position, sender column low high⟩
      simp only [withState_ready ready, if_true, parsed]
      refine ⟨evolves.trans (.of_calls rfl), ?_, ?_⟩
      · exact kept.of_calls rfl (fun _ member => member) rfl
      · exact ⟨_, stored, ⟨loaded, summarised, known, by simp [StartExperimentScreen.opened],
          by simp [StartExperimentScreen.opened],
          fun _ => ⟨edits.ready ready, by simp [StartExperimentScreen.opened]⟩,
          by simp [StartExperimentScreen.opened], by simp [StartExperimentScreen.opened],
          by simp [StartExperimentScreen.opened]⟩, by simp [StartExperimentScreen.opened]⟩
    · simp only [withState_finished finished]
      refine ⟨evolves.trans (.of_calls rfl), ?_, ?_⟩
      · exact kept.of_calls rfl (fun _ member => member) rfl
      · exact ⟨_, stored, ⟨loaded, summarised, known, by simp [StartExperimentScreen.opened],
          by simp [StartExperimentScreen.opened], by simp [StartExperimentScreen.opened],
          fun _ => edits.finished finished, by simp [StartExperimentScreen.opened],
          by simp [StartExperimentScreen.opened]⟩, by simp [StartExperimentScreen.opened]⟩

end Phone

end LoraEval.App

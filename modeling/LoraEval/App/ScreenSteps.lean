import LoraEval.App.RecordInvariant

namespace LoraEval.App

open LoraEval.Core

variable {platform : Platform} {prompt : Prop} {phone between next : Phone} {number : BitVec 32}
    {entry : Entry}

theorem StartExperimentScreen.Shows.evolves {screen : StartExperimentScreen} {new : Entry}
    (shows : screen.Shows platform prompt entry) (edits : entry.Evolves platform prompt new)
    (positions : ∀ column ∈ positionColumns, new.get column = entry.get column) :
    screen.Shows platform prompt new where
  loaded column early other := (shows.loaded column early other).trans (edits.stored column early).symm
  summarised := edits.summarised shows.summarised
  sender column low high := edits.holds column (shows.sender column low high)
  located logged column low high := edits.holds column (shows.located logged column low high)
  measuring running :=
    ⟨edits.holds _ (shows.measuring running).1,
      fun column low high => edits.holds column ((shows.measuring running).2 column low high)⟩
  card visible := ⟨edits.ready (shows.card visible).1, (shows.card visible).2⟩
  finished visible := edits.finished (shows.finished visible)
  timely prompt running := edits.ready (shows.timely prompt running)
  dialog column asked := by
    obtain ⟨finished, position, marker⟩ := shows.dialog column asked
    exact ⟨edits.finished finished, position, fun prompt => (positions column position).trans (marker prompt)⟩

namespace Phone

/-- A later state of the phone in which all positions are as before. -/
structure Computes (platform : Platform) (prompt : Prop) (phone next : Phone) : Prop extends
    Evolves platform prompt phone next where
  positions : ∀ number old new, phone.record platform number = some old →
    next.record platform number = some new → ∀ column ∈ positionColumns, new.get column = old.get column

theorem Computes.of_calls (same : next.calls = phone.calls) : Computes platform prompt phone next := by
  refine ⟨.of_calls same, fun number old new found found' _ _ => ?_⟩
  rw [record, store, same] at found'
  obtain rfl : old = new := Option.some.inj (found.symm.trans found')
  rfl

theorem Computes.trans (first : Computes platform prompt phone between)
    (second : Computes platform prompt between next) : Computes platform prompt phone next := by
  refine ⟨first.toEvolves.trans second.toEvolves, fun number old new found found' column position => ?_⟩
  obtain ⟨middle, held, -⟩ := first.records number old found
  exact (second.positions number middle new held found' column position).trans
    (first.positions number old middle found held column position)

theorem Computes.fills (phone : Phone) (number : BitVec 32) (fills : Fills platform values columns)
    (computed : ∀ column ∈ columns, column ∈ computedColumns) :
    Computes platform prompt phone (phone.write (updates number values)) := by
  have late : ∀ column ∈ columns, 26 ≤ column := fun column member =>
    (List.mem_range'_1.mp (computed column member)).1
  have inside := fills.inside fun column member => lt_of_lt_of_le (by decide) (late column member)
  refine ⟨.fills fills (fun column member => le_trans (by decide) (late column member))
    (fun _ _ _ _ column member => .inl (computed column member)),
        fun other old new held held' column position => ?_⟩
  rw [record_updates platform phone number inside, held] at held'
  split at held'
  · obtain rfl : old.update values = new := Option.some.inj held'
    refine old.get_update fun member => ?_
    rw [fills.map_columnOf] at member
    have behind := late column member
    simp only [positionColumns, Column.senderLatitude, List.mem_range'_1] at position
    omega
  · obtain rfl : old = new := Option.some.inj held'
    rfl

theorem OnScreen.computes {screen : Screen} (on : OnScreen platform prompt phone screen)
    (computes : Computes platform prompt phone next) : OnScreen platform prompt next screen := by
  cases screen with
  | closed fault => exact on
  | overview absoluteIds => exact on.trans computes.listed.symm
  | customize => trivial
  | prepareSender screen =>
    obtain ⟨entry, found, ready, prepared⟩ := on
    obtain ⟨new, stored, edits⟩ := computes.records _ entry found
    exact ⟨new, stored, edits.ready ready, fun isPrepared column low high =>
      edits.holds column (prepared isPrepared column low high)⟩
  | startExperiment screen =>
    obtain ⟨entry, found, shows, button⟩ := on
    obtain ⟨new, stored, edits⟩ := computes.records _ entry found
    exact ⟨new, stored, shows.evolves edits (computes.positions _ entry new found stored),
      fun visible => (button visible).evolves computes.toEvolves⟩

theorem Consistent.fetch (consistent : Consistent platform phone)
    (found : phone.record platform number = some entry) (finished : entry.IsFinished)
    (holds : ∀ column ≤ 27, entry.Holds platform column) :
    Consistent platform { phone with fetching := phone.fetching ++ [number] } := by
  refine ⟨consistent.few, consistent.plain, consistent.sound, fun other member => ?_, consistent.uploaded⟩
  rcases List.mem_append.mp member with earlier | new
  · exact consistent.fetched other earlier
  · obtain rfl : other = number := by simpa using new
    refine ⟨consistent.bounded found, fun same found' => ?_⟩
    obtain rfl : entry = same := Option.some.inj (found.symm.trans found')
    exact ⟨finished, holds⟩

/-- The differences of a finished record can be entered, and the weather requested. -/
theorem Inv.enterDiffValuesIntoDB (inv : Inv platform prompt phone)
    (found : phone.record platform number = some entry) (finished : entry.IsFinished) :
    Computes platform prompt phone (phone.enterDiffValuesIntoDB platform number) ∧
      Inv platform prompt (phone.enterDiffValuesIntoDB platform number) := by
  have complete := (inv.sound number entry found).complete finished
  have parsed {columns : List Nat} (range : ∀ column ∈ columns, column ∈ positionColumns ∧ column ≤ 25) :
      parsePositions platform entry columns = none :=
    parsePositions_none fun column member =>
      ⟨(range column member).1, complete column (range column member).2⟩
  rw [Phone.enterDiffValuesIntoDB, withRecord_eq found, parsed (by decide), parsed (by decide)]
  have first := distance_fills platform (platform.distance entry)
  have second := altitudeDifference_fills platform (platform.altitudeDifference entry)
  have distance : Computes platform prompt phone _ := .fills phone number first (by decide)
  obtain ⟨middle, stored, known⟩ :
      ∃ middle, _ = some middle ∧ ∀ column ∈ [26], middle.Holds platform column :=
    ⟨_, (record_fills first (by decide) found).1, (record_fills first (by decide) found).2.1⟩
  have difference : Computes platform prompt _ _ :=
    .fills (phone.write (updates number [("actual_distance", platform.distance entry)])) number second
      (by decide)
  obtain ⟨new, stored', known'⟩ : ∃ new, _ = some new ∧ ∀ column ∈ [27], new.Holds platform column :=
    ⟨_, (record_fills second (by decide) stored).1, (record_fills second (by decide) stored).2.1⟩
  have edits := difference.toEvolves.record stored stored'
  have edited := (distance.trans difference).toEvolves.record found stored'
  have holds (column : Nat) (early : column ≤ 27) : new.Holds platform column := by
    by_cases position : column ≤ 25
    · exact edited.holds column (complete column position)
    · obtain rfl | rfl : column = 26 ∨ column = 27 := by omega
      · exact edits.holds 26 (known 26 (by decide))
      · exact known' 27 (by decide)
  obtain ⟨time, start, accepted⟩ := holds Column.startTime (by decide)
  have long := accepted.time rfl
  simp only [getWeatherData, withRecord_eq stored', start, Nat.not_lt.mpr long, if_false]
  have computes := distance.trans difference
  have consistent := inv.toConsistent.evolves computes.toEvolves (fun _ member => member) rfl
  refine ⟨computes.trans (.of_calls rfl), consistent.fetch stored' (edited.finished finished) holds, ?_⟩
  exact inv.screen.computes (computes.trans (.of_calls rfl))

/-- Where a path over the positions of a finished record can lead. -/
def PathFrom (entry : Entry) : PositionPath → Prop
  | .crashed => False
  | .asking column => column ∈ positionColumns ∧ entry.get column = some "-1"
  | .stopped | .entersDiffValues => True

theorem completeFrom_path
    (holds : ∀ column ∈ columns, column ∈ positionColumns ∧ ∃ text, entry.get column = some text) :
    PathFrom entry (completeFrom entry columns) := by
  induction columns with
  | nil => trivial
  | cons column columns ih =>
    obtain ⟨⟨position, text, held⟩, rest⟩ := List.forall_mem_cons.mp holds
    by_cases marker : text = "-1"
    · rw [completeFrom_missing (by rw [held, marker])]
      exact ⟨position, by rw [held, marker]⟩
    · rw [completeFrom_known held marker]
      exact ih rest

theorem completeLocationValues_path (sound : entry.Sound platform) (finished : entry.IsFinished)
    (low : 20 ≤ column) : PathFrom entry (completeLocationValues column entry) := by
  refine completeFrom_path fun other member => ?_
  simp only [Column.receiverAltitude, List.mem_range'_1] at member
  obtain ⟨text, held, -⟩ := sound.complete finished other (by omega)
  refine ⟨?_, text, held⟩
  simp only [positionColumns, Column.senderLatitude, List.mem_range'_1]
  omega

theorem Consistent.follow {screen : StartExperimentScreen} {path : PositionPath}
    (consistent : Consistent platform phone)
    (found : phone.record platform screen.experimentNumber = some entry)
    (shows : screen.Shows platform prompt entry)
    (button : screen.nextExpButton = true → phone.NextReady platform screen.experimentNumber)
    (finished : entry.IsFinished) (possible : PathFrom entry path) (fault : Fault) :
    Computes platform prompt phone (phone.follow platform path fault screen) ∧
      Inv platform prompt (phone.follow platform path fault screen) := by
  have displayed (screen' : Screen) (on : OnScreen platform prompt phone screen') :
      Inv platform prompt (phone.display screen') :=
    ⟨consistent.of_calls rfl (fun _ member => member) rfl, on.computes (.of_calls rfl)⟩
  cases path with
  | stopped => exact ⟨.of_calls rfl, displayed _ ⟨entry, found, shows, button⟩⟩
  | crashed => exact possible.elim
  | asking column =>
    refine ⟨.of_calls rfl, displayed _ ⟨entry, found, ?_, button⟩⟩
    refine { shows with dialog := fun other asked => ?_ }
    obtain rfl : column = other := Option.some.inj asked
    exact ⟨finished, possible.1, fun _ => possible.2⟩
  | entersDiffValues =>
    have inv := displayed (.startExperiment screen) ⟨entry, found, shows, button⟩
    obtain ⟨computes, kept⟩ := inv.enterDiffValuesIntoDB found finished
    have opened : Computes platform prompt phone (phone.display (.startExperiment screen)) := .of_calls rfl
    exact ⟨opened.trans computes, kept⟩

theorem withFile_frame (platform : Platform) (opens : Bool) (number : BitVec 32) (phone : Phone) :
    (phone.withFile platform opens number).calls = phone.calls ∧
      (phone.withFile platform opens number).fetching = phone.fetching ∧
      (phone.withFile platform opens number).uploads = phone.uploads := by
  unfold withFile
  split
  · split <;> exact ⟨rfl, rfl, rfl⟩
  · exact ⟨rfl, rfl, rfl⟩

theorem Consistent.csvResult (consistent : Consistent platform phone)
    (found : phone.record platform number = some entry) (opens : Bool) :
    phone.csvResult platform opens number ≠ .otherException := by
  have table := consistent.separate.tables number (Option.isSome_of_eq_some found)
  unfold Phone.csvResult
  rw [if_pos table]
  split <;> simp

theorem allGPSDataExists_ne_none (held : entry.get Column.senderLatitude = some text) :
    allGPSDataExists entry ≠ none := by
  have each (indices : List Nat) : allGPSFrom entry indices ≠ none := by
    induction indices with
    | nil => simp [allGPSFrom]
    | cons index rest ih =>
      by_cases marker : text = "-1"
      · simp [allGPSFrom, held, marker]
      · simpa [allGPSFrom, held, marker] using ih
  exact each _

theorem automaticCsv_path (held : entry.get Column.senderLatitude = some text) (online : Bool)
    (made : csv ≠ .otherException) :
    PathFrom entry (automaticCsvAndUploadIfAllGPSExistsAndInternetConnection online csv entry) := by
  have exists' := allGPSDataExists_ne_none held
  unfold automaticCsvAndUploadIfAllGPSExistsAndInternetConnection
  cases online with
  | false => trivial
  | true =>
    cases all : allGPSDataExists entry with
    | none => exact absurd all exists'
    | some known =>
      cases known with
      | false => trivial
      | true =>
        cases csv with
        | made => trivial
        | ioException => trivial
        | otherException => exact absurd rfl made

/-- `follow` after a file may have been made. -/
theorem Consistent.follow_filed {screen : StartExperimentScreen} {path : PositionPath} {filed : Phone}
    (consistent : Consistent platform phone)
    (found : phone.record platform screen.experimentNumber = some entry)
    (shows : screen.Shows platform prompt entry)
    (button : screen.nextExpButton = true → phone.NextReady platform screen.experimentNumber)
    (finished : entry.IsFinished) (possible : PathFrom entry path)
    (same : filed.calls = phone.calls ∧ filed.fetching = phone.fetching ∧ filed.uploads = phone.uploads)
    (fault : Fault) :
    Computes platform prompt phone (filed.follow platform path fault screen) ∧
      Inv platform prompt (filed.follow platform path fault screen) := by
  have computes : Computes platform prompt phone filed := .of_calls same.1
  have kept := consistent.of_calls same.1 (by simp [same.2.1]) same.2.2
  have found' : filed.record platform screen.experimentNumber = some entry := by rwa [record, store, same.1]
  obtain ⟨follows, inv⟩ := kept.follow found' shows
    (fun visible => (button visible).evolves computes.toEvolves) finished possible fault
  exact ⟨computes.trans follows, inv⟩

theorem Consistent.automaticCsv {screen : StartExperimentScreen} (consistent : Consistent platform phone)
    (found : phone.record platform screen.experimentNumber = some entry)
    (shows : screen.Shows platform prompt entry)
    (button : screen.nextExpButton = true → phone.NextReady platform screen.experimentNumber)
    (finished : entry.IsFinished) (online opens : Bool) :
    Computes platform prompt phone (phone.automaticCsv platform online opens screen) ∧
      Inv platform prompt (phone.automaticCsv platform online opens screen) := by
  obtain ⟨text, held, -⟩ := (consistent.sound _ entry found).complete finished Column.senderLatitude
    (by decide)
  have path := automaticCsv_path held online (consistent.csvResult found opens)
  rw [Phone.automaticCsv, withRecord_eq found]
  refine consistent.follow_filed found shows button finished path ?_ _
  split
  · exact withFile_frame platform opens screen.experimentNumber phone
  · exact ⟨rfl, rfl, rfl⟩

/-- What the end of a run makes of its record and of the database. -/
structure Finishes (platform : Platform) (number : BitVec 32) (entry done : Entry) (phone next : Phone) :
    Prop where
  stored : next.record platform number = some done
  finished : done.IsFinished
  kept : ∀ column, column ≠ Column.state → done.get column = entry.get column
  holds : ∀ column, entry.Holds platform column → done.Holds platform column
  others : ∀ other, other ≠ number → next.record platform other = phone.record platform other
  listed : (next.store platform).getPrimaryColumn = (phone.store platform).getPrimaryColumn

theorem finishes_of_write (found : phone.record platform number = some entry) :
    ∃ done, Finishes platform number entry done phone
      (phone.write (updates number [("state", "finished")])) := by
  have fills : Fills platform [("state", "finished")] [11] :=
    .cons rfl (.free platform _ (by decide)) .nil
  have inside := fills.inside (by decide)
  obtain ⟨stored, -, kept⟩ := record_fills fills (by decide) found
  refine ⟨_, stored, ?_, fun column other => kept column (by simpa [Column.state] using other),
    fun column holds => .update fills.proper (.inl holds), fun other different => ?_,
    updates_listed platform phone number inside⟩
  · rw [Entry.IsFinished, Entry.update_cons, Entry.update_nil,
      columnOf_eq _ (show infoColumns[Column.state]? = some "state" from rfl)]
    exact get_set_self entry _ (by decide)
  · rw [record_updates platform phone number inside, if_neg different]

theorem Finishes.sound {done : Entry} (finishes : Finishes platform number entry done phone next)
    (sound : entry.Sound platform) (summarised : entry.Summarised)
    (measured : ∀ column, 19 ≤ column → column ≤ 25 → entry.Holds platform column) : done.Sound platform := by
  refine ⟨fun column early => finishes.holds column (sound.stored column early), .inr finishes.finished,
    fun _ => ?_, fun _ column low high => finishes.holds column (measured column low high)⟩
  obtain ⟨summary, read, iterations, duration⟩ := summarised
  refine ⟨summary, ?_, (finishes.kept 17 (by decide)).trans iterations,
    (finishes.kept 18 (by decide)).trans duration⟩
  exact (initSummary_congr fun column _ other => finishes.kept column other).trans read

theorem Finishes.nextReady {done : Entry} (finishes : Finishes platform number entry done phone next)
    (found : phone.record platform number = some entry) (ended : entry.IsFinished)
    (ready : NextReady platform phone number) : NextReady platform next number := by
  obtain ⟨other, record, position, held, ready⟩ := ready
  refine ⟨other, record, by rwa [finishes.listed], ?_, ready⟩
  by_cases same : other = number
  · subst same
    obtain rfl : record = entry := Option.some.inj (held.symm.trans found)
    exact absurd ended ready.not_finished
  · rw [finishes.others other same, held]

theorem Consistent.finishes {done : Entry} (consistent : Consistent platform phone)
    (found : phone.record platform number = some entry)
    (finishes : Finishes platform number entry done phone next) (sound : done.Sound platform)
    (calls : ∃ more, next.calls = phone.calls ++ more ∧ created more = 0 ∧
      ∀ call ∈ more, call.setsKey = false)
    (fetching : next.fetching = phone.fetching) (uploads : next.uploads = phone.uploads) :
    Consistent platform next := by
  obtain ⟨more, calls, none, plain⟩ := calls
  have count : created next.calls = created phone.calls := by rw [calls, created_append, none, Nat.add_zero]
  have cases' {other : BitVec 32} {record : Entry} (held : next.record platform other = some record) :
      other = number ∧ record = done ∨ phone.record platform other = some record := by
    by_cases same : other = number
    · subst same
      exact .inl ⟨rfl, Option.some.inj (held.symm.trans finishes.stored)⟩
    · exact .inr ((finishes.others other same).symm.trans held)
  refine ⟨by rw [count]; exact consistent.few, ?_, fun other record held => ?_, fun other member => ?_,
    by rw [uploads]; exact consistent.uploaded⟩
  · rw [calls]
    exact List.forall_mem_append.mpr ⟨consistent.plain, plain⟩
  · rcases cases' held with ⟨rfl, rfl⟩ | earlier
    · exact sound
    · exact consistent.sound other record earlier
  · rw [fetching] at member
    obtain ⟨bound, fetched⟩ := consistent.fetched other member
    refine ⟨by rwa [count], fun record held => ?_⟩
    rcases cases' held with ⟨rfl, rfl⟩ | earlier
    · exact ⟨finishes.finished, fun column early =>
        finishes.holds column ((fetched entry found).2 column early)⟩
    · exact fetched record earlier

theorem Inv.finishExperiment {screen : StartExperimentScreen} (inv : Inv platform prompt phone)
    (front : phone.screen = .startExperiment screen) (running : screen.screen.timer = some .duration)
    (online opens : Bool) :
    Inv platform prompt (phone.finishExperiment platform online opens screen) ∧
      ∃ middle entry done, created middle.calls = created phone.calls ∧
        (prompt → phone.record platform screen.experimentNumber = some entry ∧ entry.IsReady) ∧
        Finishes platform screen.experimentNumber entry done phone middle ∧
        Computes platform prompt middle (phone.finishExperiment platform online opens screen) := by
  have on := inv.screen
  rw [front] at on
  obtain ⟨entry, found, shows, button⟩ := on
  obtain ⟨done, finishes⟩ := finishes_of_write found
  have measured (column : Nat) (low : 19 ≤ column) (high : column ≤ 25) : entry.Holds platform column := by
    obtain ⟨start, receiver⟩ := shows.measuring running
    by_cases first : column = 19
    · exact first ▸ start
    · by_cases sender : column ≤ 22
      · exact shows.sender column (by omega) sender
      · exact receiver column (by omega) high
  have sound := finishes.sound (inv.sound _ entry found) shows.summarised measured
  have inside : ∀ value ∈ [("state", "finished")], 0 < columnOf value ∧ columnOf value < 34 := by
    decide
  have calls := updates_calls screen.experimentNumber inside
  have consistent := inv.toConsistent.finishes found finishes sound ⟨_, rfl, calls⟩ rfl rfl
  have count : created (phone.calls ++ updates screen.experimentNumber [("state", "finished")]) =
      created phone.calls := by rw [created_append, calls.1, Nat.add_zero]
  have shown (visible : Bool) : StartExperimentScreen.Shows platform prompt { screen with
      screen := { screen.screen with timer := none, connected := false }
      finishedLayout := true
      nextExpButton := visible } done := by
    refine ⟨fun column early other =>
        (shows.loaded column early other).trans (finishes.kept column other).symm,
      sound.summarised finishes.finished, fun column low high =>
        sound.complete finishes.finished column (by omega),
      fun _ column low high => sound.complete finishes.finished column high, by simp, fun card => ?_,
      fun _ => finishes.finished, by simp, fun column asked => ?_⟩
    · exact absurd running (shows.card card).2
    · obtain ⟨-, position, marker⟩ := shows.dialog column asked
      refine ⟨finishes.finished, position, fun prompt => (finishes.kept column ?_).trans (marker prompt)⟩
      rintro rfl
      exact absurd position (by decide)
  have before : screen.nextExpButton = true → NextReady platform
      (phone.write (updates screen.experimentNumber [("state", "finished")])) screen.experimentNumber :=
    fun visible => finishes.nextReady found (shows.finished (.inr visible)) (button visible)
  have ending (visible : Bool) (ready : visible = true → NextReady platform
      (phone.write (updates screen.experimentNumber [("state", "finished")])) screen.experimentNumber)
      {last : Phone} (same : last = (phone.write (updates screen.experimentNumber [("state", "finished")])
        ).automaticCsv platform online opens { screen with
          screen := { screen.screen with timer := none, connected := false }
          finishedLayout := true
          nextExpButton := visible }) :
      Inv platform prompt last ∧ ∃ middle entry done, created middle.calls = created phone.calls ∧
        (prompt → phone.record platform screen.experimentNumber = some entry ∧ entry.IsReady) ∧
        Finishes platform screen.experimentNumber entry done phone middle ∧
        Computes platform prompt middle last := by
    have ends : Computes platform prompt
        (phone.write (updates screen.experimentNumber [("state", "finished")])) last ∧
            Inv platform prompt last := by
      subst same
      refine consistent.automaticCsv ?_ (shown visible) ready finishes.finished online opens
      exact finishes.stored
    exact ⟨ends.2, _, entry, done, count, fun prompt => ⟨found, shows.timely prompt (by simp [running])⟩,
      finishes, ends.1⟩
  unfold Phone.finishExperiment
  dsimp only
  split
  · exact ending screen.nextExpButton before rfl
  · rename_i next position
    obtain ⟨record, held⟩ := consistent.listed (List.mem_of_getElem? position)
    rw [withRecord_eq held]
    rcases (consistent.sound next record held).state with ready | ended
    · rw [withState_ready ready]
      exact ending _ (fun _ => ⟨next, record, position, held, ready⟩) rfl
    · rw [withState_finished ended]
      exact ending _ (fun visible => before (by simpa using visible)) rfl

theorem Inv.startMeasurement {screen : StartExperimentScreen} (inv : Inv platform prompt phone)
    (front : phone.screen = .startExperiment screen) (running : screen.screen.timer = some .delay)
    (late : 10 ^ 9 ≤ now) (reads : platform.Reads currentLocation) :
    Evolves platform prompt phone (phone.startMeasurement now currentLocation screen) ∧
      Inv platform prompt (phone.startMeasurement now currentLocation screen) := by
  have on := inv.screen
  rw [front] at on
  obtain ⟨entry, found, shows, button⟩ := on
  obtain ⟨columns, fills, behind, time, receiver⟩ : ∃ columns, Fills platform (("start_time", toString now) ::
      if screen.gpsLogged then [] else receiverPosition currentLocation) columns ∧
      (∀ column ∈ columns, 19 ≤ column) ∧ Column.startTime ∈ columns ∧
      (screen.gpsLogged = false → ∀ column, 23 ≤ column → column ≤ 25 → column ∈ columns) := by
    have start : Fills platform [("start_time", toString now)] [19] := startTime_fills late
    cases screen.gpsLogged with
    | true => exact ⟨[19], start, by decide, by decide, by simp⟩
    | false =>
      refine ⟨[19, 23, 24, 25], start.append (receiverPosition_fills reads), by decide, by decide, ?_⟩
      intro _ column low high
      simp only [List.mem_cons, List.not_mem_nil, or_false]
      omega
  have ready : prompt → entry.IsReady := fun prompt => shows.timely prompt (by simp [running])
  have evolves : Evolves platform prompt phone _ := .fills fills behind fun prompt other held ended => by
    obtain rfl : entry = other := Option.some.inj (found.symm.trans held)
    exact absurd ended (ready prompt).not_finished
  obtain ⟨new, stored, filled⟩ : ∃ new, _ = some new ∧ ∀ column ∈ columns, new.Holds platform column :=
    ⟨_, (record_fills fills (fun column member => lt_of_lt_of_le (by decide) (behind column member)) found).1,
      (record_fills fills (fun column member => lt_of_lt_of_le (by decide) (behind column member)) found).2.1⟩
  have edits := evolves.record found stored
  refine ⟨evolves.trans (.of_calls rfl), ?_, ?_⟩
  · exact inv.toConsistent.evolves (evolves.trans (.of_calls rfl)) (fun _ member => member) rfl
  · refine ⟨new, stored, ?_, fun visible => (button visible).evolves (evolves.trans (.of_calls rfl))⟩
    refine ⟨fun column early other =>
        (shows.loaded column early other).trans (edits.stored column early).symm,
      edits.summarised shows.summarised, fun column low high =>
        edits.holds column (shows.sender column low high),
      fun logged column low high => edits.holds column (shows.located logged column low high), fun _ => ?_,
      by simp, fun visible => edits.finished (shows.finished visible), fun prompt _ =>
        edits.ready (ready prompt),
      fun column asked => ?_⟩
    · refine ⟨filled _ time, fun column low high => ?_⟩
      cases logged : screen.gpsLogged with
      | true => exact edits.holds column (shows.located logged column low high)
      | false => exact filled column (receiver logged column low high)
    · obtain ⟨ended, position, -⟩ := shows.dialog column asked
      exact ⟨edits.finished ended, position, fun prompt => absurd ended (ready prompt).not_finished⟩

/-- The next experiment is opened with the position of this one's sender. -/
theorem Inv.startNextExperiment {screen : StartExperimentScreen} (inv : Inv platform prompt phone)
    (front : phone.screen = .startExperiment screen) (visible : screen.nextExpButton = true) :
    Evolves platform prompt phone (phone.startNextExperiment platform screen) ∧
      Inv platform prompt (phone.startNextExperiment platform screen) := by
  have on := inv.screen
  rw [front] at on
  obtain ⟨entry, found, shows, button⟩ := on
  obtain ⟨next, record, position, held, ready⟩ := button visible
  obtain ⟨latitude, latitude', accepted⟩ := shows.sender 20 (by decide) (by decide)
  obtain ⟨longitude, longitude', accepted'⟩ := shows.sender 21 (by decide) (by decide)
  obtain ⟨altitude, altitude', accepted''⟩ := shows.sender 22 (by decide) (by decide)
  have fills : Fills platform [("sender_latitude", latitude), ("sender_longitude", longitude),
      ("sender_altitude", altitude)] [20, 21, 22] :=
    .cons rfl accepted (.cons rfl accepted'
      (.cons rfl accepted'' .nil))
  have evolves : Evolves platform prompt phone _ := .fills fills (by decide) fun _ other held' ended => by
    obtain rfl : record = other := Option.some.inj (held.symm.trans held')
    exact absurd ended ready.not_finished
  obtain ⟨new, stored, filled⟩ : ∃ new, _ = some new ∧ ∀ column ∈ [20, 21, 22], new.Holds platform column :=
    ⟨_, (record_fills fills (by decide) held).1, (record_fills fills (by decide) held).2.1⟩
  have consistent := inv.toConsistent.evolves evolves (fun _ member => member) rfl
  obtain ⟨opens, kept⟩ : Evolves platform prompt _ _ ∧ Inv platform prompt _ :=
    consistent.onCreate stored fun column low high =>
      filled column (by simp only [List.mem_cons, List.not_mem_nil, or_false]; omega)
  have same : phone.startNextExperiment platform screen = (phone.write (updates next
      [("sender_latitude", latitude), ("sender_longitude", longitude), ("sender_altitude", altitude)])
        ).onCreate platform next := by
    simp only [Phone.startNextExperiment, position, withRecord_eq found, Column.senderLatitude,
      Column.senderLongitude, Column.senderAltitude, latitude', longitude', altitude']
    rfl
  rw [same]
  exact ⟨evolves.trans opens, kept⟩

end Phone

end LoraEval.App

import LoraEval.App.ExperimentSteps

namespace LoraEval.App

open LoraEval.Core

def Screen.shown (number : BitVec 32) : Screen → Option (ExperimentScreen String)
  | .startExperiment screen => if screen.experimentNumber = number then some screen.screen else none
  | _ => none

def Entry.experimentState (entry : Entry) : ExperimentState :=
  if entry.get Column.state = some "finished" then .finished else .ready

def Phone.view (platform : Platform) (number : BitVec 32) (phone : Phone) : ExperimentApp String where
  state := ((phone.record platform number).map Entry.experimentState).getD .ready
  rows := ((phone.store platform).exportedRows number).getD []
  csv := phone.files number
  screen := phone.screen.shown number

def DatabaseCall.late : DatabaseCall → Bool
  | .setValueInExpInfo _ column _ => column ∈ infoColumns.drop 17
  | _ => false

theorem idxOf_late (late : column ∈ infoColumns.drop 17) :
    column ∈ infoColumns.drop 1 ∧ 17 ≤ infoColumns.idxOf column := by
  have listed : ∀ column ∈ infoColumns.drop 17,
      column ∈ infoColumns.drop 1 ∧ 17 ≤ infoColumns.idxOf column := by decide
  exact listed column late

theorem updated_late (update : Option String) (late : column ∈ infoColumns.drop 17) (entry : Entry)
    (early : place < 17) :
    (ExperimentStore.updated update column entry).get place = entry.get place := by
  obtain ⟨known, behind⟩ := idxOf_late late
  have other : infoColumns.idxOf column ≠ place := by omega
  rw [ExperimentStore.updated, columnIndex_declared (List.mem_of_mem_drop known), Option.bind_some,
    ExperimentStore.setColumn]
  split
  · rfl
  · exact get_set_ne entry _ other

namespace Phone

variable {platform : Platform} {phone middle next : Phone} {number : BitVec 32}

/-- What the form stored for the number, its state and its rows are the same. -/
structure Keeps (platform : Platform) (number : BitVec 32) (phone next : Phone) : Prop where
  record : ∀ old, phone.record platform number = some old →
    ∃ new, next.record platform number = some new ∧ ∀ column < 17, new.get column = old.get column
  rows : (next.store platform).exportedRows number = (phone.store platform).exportedRows number

theorem Keeps.of_calls (same : next.calls = phone.calls) : Keeps platform number phone next := by
  have store : next.store platform = phone.store platform := by rw [store, same, store]
  exact ⟨fun old found => ⟨old, by rwa [Phone.record, store], fun _ _ => rfl⟩, by rw [store]⟩

theorem Keeps.trans (first : Keeps platform number phone middle)
    (second : Keeps platform number middle next) :
    Keeps platform number phone next := by
  refine ⟨fun old found => ?_, second.rows.trans first.rows⟩
  obtain ⟨between, stored, early⟩ := first.record old found
  obtain ⟨new, changed, late⟩ := second.record between stored
  exact ⟨new, changed, fun column front => (late column front).trans (early column front)⟩

theorem Keeps.late {call : DatabaseCall} (late : call.late = true) :
    Keeps platform number phone (phone.write [call]) := by
  cases call with
  | create | logReceivedTransmission | deleteExperiment => cases late
  | setValueInExpInfo update column experimentID =>
    have behind : column ∈ infoColumns.drop 17 := by simpa [DatabaseCall.late] using late
    have plain := DatabaseCall.setsKey_declared (idxOf_late behind).1 update experimentID
    obtain ⟨tables, -, records⟩ := setValueInExpInfo_spec platform.affinity (phone.store platform) update
      (DatabaseCall.unkeyed plain) experimentID
    refine ⟨fun old found => ?_, ?_⟩
    · rw [Phone.record, store_write, ExperimentStore.getExperimentInfo, DatabaseCall.perform, records]
      have held : (phone.store platform).experiments.find number.toInt = some old := found
      rw [held]
      split
      · exact ⟨_, rfl, fun place early => updated_late update behind old early⟩
      · exact ⟨old, rfl, fun _ _ => rfl⟩
    · rw [store_write, ExperimentStore.exportedRows, DatabaseCall.perform, tables]
      rfl

theorem Keeps.write {calls : List DatabaseCall} (late : ∀ call ∈ calls, call.late = true) :
    Keeps platform number phone (phone.write calls) := by
  induction calls generalizing phone with
  | nil => exact .of_calls (by rw [write_nil])
  | cons call calls ih =>
    obtain ⟨first, rest⟩ := List.forall_mem_cons.mp late
    rw [← List.singleton_append, write_append]
    exact (Keeps.late first).trans (ih rest)

theorem exportedRows_updates (platform : Platform) (phone : Phone) (other : BitVec 32)
    (inside : ∀ value ∈ values, 0 < columnOf value ∧ columnOf value < 34) :
    ((phone.write (updates other values)).store platform).exportedRows number =
      (phone.store platform).exportedRows number := by
  induction values generalizing phone with
  | nil => rw [updates, List.map_nil, write_nil]
  | cons value values ih =>
    obtain ⟨first, rest⟩ := List.forall_mem_cons.mp inside
    have plain : (DatabaseCall.setValueInExpInfo (some value.2) value.1 other).setsKey = false :=
      (updates_calls other (List.forall_mem_singleton.mpr first)).2 _ (by simp [updates])
    have split : updates other (value :: values) =
        [.setValueInExpInfo (some value.2) value.1 other] ++ updates other values := rfl
    rw [split, write_append, ih _ rest, store_write, ExperimentStore.exportedRows, DatabaseCall.perform,
      (setValueInExpInfo_spec platform.affinity (phone.store platform) (some value.2)
        (DatabaseCall.unkeyed plain) other).1]
    rfl

theorem Keeps.updates_other (different : number ≠ other)
    (inside : ∀ value ∈ values, 0 < columnOf value ∧ columnOf value < 34) :
    Keeps platform number phone (phone.write (updates other values)) := by
  refine ⟨fun old found => ⟨old, ?_, fun _ _ => rfl⟩, exportedRows_updates platform phone other inside⟩
  rw [record_updates platform phone other inside, if_neg different, found]

theorem exportedRows_rows (platform : Platform) (phone : Phone) (other : BitVec 32)
    (rows : List (Entries String)) :
    ((phone.write (rows.map (.logReceivedTransmission other))).store platform).exportedRows number =
      if other = number then ((phone.store platform).exportedRows number).map (· ++ rows)
      else (phone.store platform).exportedRows number := by
  induction rows generalizing phone with
  | nil => simp [write_nil]
  | cons row rows ih =>
    have split : (row :: rows).map (DatabaseCall.logReceivedTransmission other) =
        [.logReceivedTransmission other row] ++ rows.map (.logReceivedTransmission other) := rfl
    rw [split, write_append, ih, store_write, DatabaseCall.perform, exportedRows_logReceivedTransmission]
    by_cases same : other = number <;> simp [same, Function.comp_def]

theorem record_rows (platform : Platform) (phone : Phone) (other : BitVec 32) (rows : List (Entries String)) :
    (phone.write (rows.map (.logReceivedTransmission other))).record platform number =
      phone.record platform number := by
  rw [record, ExperimentStore.getExperimentInfo, find_rows]
  rfl

theorem Keeps.rows_other (different : other ≠ number) (rows : List (Entries String)) :
    Keeps platform number phone (phone.write (rows.map (.logReceivedTransmission other))) :=
  ⟨fun old found => ⟨old, by rw [record_rows, found], fun _ _ => rfl⟩,
    by rw [exportedRows_rows, if_neg different]⟩

/-- The view behind a change that keeps the experiment, but for its file. -/
theorem Keeps.view (keeps : Keeps platform number phone next)
    (found : phone.record platform number = some old) :
    next.view platform number =
      { phone.view platform number with csv := next.files number, screen := next.screen.shown number } := by
  obtain ⟨new, stored, same⟩ := keeps.record old found
  have state : new.experimentState = old.experimentState := by
    rw [Entry.experimentState, same Column.state (by decide), Entry.experimentState]
  simp [Phone.view, stored, found, state, keeps.rows]

/-- What holds behind an exception and for every record holds behind a look into the record. -/
theorem withRecord_rule {motive : Phone → Prop} {use : Entry → Phone}
    (crashed : ∀ fault, motive (phone.crash fault))
    (uses : ∀ record, phone.record platform other = some record → motive (use record)) :
    motive (phone.withRecord platform other use) := by
  rw [Phone.withRecord]
  split
  · exact crashed _
  · rename_i record found
    exact uses record found

theorem withState_rule {motive : Phone → Prop} {use : Bool → Phone}
    (crashed : ∀ fault, motive (phone.crash fault)) (record : Entry) (uses : ∀ ready, motive (use ready)) :
    motive (phone.withState record use) := by
  rw [Phone.withState]
  split
  · exact crashed _
  · exact uses _

/-- Nothing happens to the experiment, but its screen may be closed. -/
structure Calm (number : BitVec 32) (phone next : Phone) : Prop where
  calls : ∃ more, next.calls = phone.calls ++ more ∧ ∀ call ∈ more, call.late = true
  files : next.files number = phone.files number
  screen : next.screen.shown number = phone.screen.shown number ∨ next.screen.shown number = none

theorem Calm.refl (number : BitVec 32) (phone : Phone) : Calm number phone phone :=
  ⟨⟨[], by simp, by simp⟩, rfl, .inl rfl⟩

theorem Calm.trans (first : Calm number phone middle) (second : Calm number middle next) :
    Calm number phone next := by
  obtain ⟨some₁, calls₁, late₁⟩ := first.calls
  obtain ⟨some₂, calls₂, late₂⟩ := second.calls
  refine ⟨⟨some₁ ++ some₂, by rw [calls₂, calls₁, List.append_assoc],
    List.forall_mem_append.mpr ⟨late₁, late₂⟩⟩, second.files.trans first.files, ?_⟩
  rcases second.screen with same | closed
  · rw [same]
    exact first.screen
  · exact .inr closed

theorem Calm.keeps (calm : Calm number phone next) : Keeps platform number phone next := by
  obtain ⟨more, calls, late⟩ := calm.calls
  have written : Keeps platform number phone (phone.write more) := .write late
  exact written.trans (.of_calls calls)

theorem Calm.crash (number : BitVec 32) (fault : Fault) (phone : Phone) :
    Calm number phone (phone.crash fault) :=
  ⟨⟨[], by simp [Phone.crash], by simp⟩, rfl, .inr rfl⟩

theorem Calm.crashed (phone : Phone) (screen : Screen) (fault : Fault) :
    Calm number (phone.display screen) (phone.crash fault) :=
  ⟨⟨[], by simp [Phone.crash, Phone.display], by simp⟩, rfl, .inr rfl⟩

theorem Calm.write (number : BitVec 32) (phone : Phone) {calls : List DatabaseCall}
    (late : ∀ call ∈ calls, call.late = true) :
    Calm number phone (phone.write calls) :=
  ⟨⟨calls, rfl, late⟩, rfl, .inl rfl⟩

theorem Calm.display (phone : Phone) {screen : Screen}
    (hidden : screen.shown number = phone.screen.shown number ∨ screen.shown number = none) :
    Calm number phone (phone.display screen) :=
  ⟨⟨[], by simp [Phone.display], by simp⟩, rfl, hidden⟩

theorem Calm.withRecord {use : Entry → Phone}
    (uses : ∀ entry, phone.record platform other = some entry → Calm number phone (use entry)) :
    Calm number phone (phone.withRecord platform other use) :=
  withRecord_rule (fun fault => .crash number fault phone) uses

theorem late_updates (names : List String) (named : values.map Prod.fst = names)
    (late : ∀ name ∈ names, name ∈ infoColumns.drop 17) (other : BitVec 32) :
    ∀ call ∈ updates other values, call.late = true := by
  intro call member
  obtain ⟨value, listed, rfl⟩ := List.mem_map.mp member
  simpa [DatabaseCall.late] using late value.1 (named ▸ List.mem_map_of_mem listed)

theorem Calm.getWeatherData (other : BitVec 32) (phone : Phone) :
    Calm number phone (phone.getWeatherData platform other) := by
  refine .withRecord fun entry _ => ?_
  split
  · exact .crash number _ phone
  · split
    · exact .crash number _ phone
    · exact ⟨⟨[], by simp, by simp⟩, rfl, .inl rfl⟩

theorem Calm.enterDiffValuesIntoDB (other : BitVec 32) (phone : Phone) :
    Calm number phone (phone.enterDiffValuesIntoDB platform other) := by
  refine .withRecord fun entry _ => ?_
  split
  · exact .crash number _ phone
  · have distance : Calm number phone
        (phone.write (updates other [("actual_distance", platform.distance entry)])) :=
      .write number phone (late_updates ["actual_distance"] rfl (by decide) other)
    split
    · exact distance.trans (.crash number _ _)
    · refine (distance.trans (.write number _ ?_)).trans (.getWeatherData other _)
      exact late_updates ["altitude_difference"] rfl (by decide) other

/-- Where a path over the positions ends, nothing has happened to any experiment. -/
theorem Calm.follow (path : PositionPath) (fault : Fault) (screen : StartExperimentScreen) (phone : Phone) :
    Calm number (phone.display (.startExperiment screen)) (phone.follow platform path fault screen) := by
  cases path with
  | stopped => exact .refl number _
  | crashed => exact .crashed phone _ fault
  | asking column => exact ⟨⟨[], by simp [Phone.follow, Phone.display], by simp⟩, rfl, .inl rfl⟩
  | entersDiffValues => exact .enterDiffValuesIntoDB _ _

end Phone

end LoraEval.App

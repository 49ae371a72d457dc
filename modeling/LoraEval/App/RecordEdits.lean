import LoraEval.App.ExperimentMode

namespace LoraEval.App

open LoraEval.Core

def columnOf (value : String × String) : Nat := infoColumns.idxOf value.1

theorem infoColumns_nodup : infoColumns.Nodup := by decide

theorem columnOf_eq (text : String) (named : infoColumns[column]? = some name) :
    columnOf (name, text) = column := by
  obtain ⟨inside, rfl⟩ := List.getElem?_eq_some_iff.mp named
  exact infoColumns_nodup.idxOf_getElem column inside

theorem columnOf_declared (inside : 0 < columnOf value ∧ columnOf value < 34) :
    value.1 ∈ infoColumns.drop 1 := by
  have known : value.1 ∈ infoColumns := List.idxOf_lt_length_iff.mp inside.2
  rcases List.mem_cons.mp (show value.1 ∈ "_id" :: infoColumns.drop 1 from known) with key | other
  · have first := inside.1
    rw [columnOf, key] at first
    exact absurd first (by decide)
  · exact other

def Entry.update (values : List (String × String)) (entry : Entry) : Entry :=
  values.foldl (fun entry value => entry.setIfInBounds (columnOf value) (some value.2)) entry

/-- A text that the screens can read back from the column. -/
structure Platform.Accepts (platform : Platform) (column : Nat) (text : String) : Prop where
  time : column = Column.startTime → 10 ≤ text.length
  position : column ∈ positionColumns → platform.readsDouble text = true

def Entry.Holds (platform : Platform) (entry : Entry) (column : Nat) : Prop :=
  ∃ text, entry.get column = some text ∧ platform.Accepts column text

theorem Entry.update_nil (entry : Entry) : entry.update [] = entry := rfl

theorem Entry.update_cons (entry : Entry) (value : String × String) (values : List (String × String)) :
    entry.update (value :: values) =
      Entry.update values (entry.setIfInBounds (columnOf value) (some value.2)) := rfl

theorem Entry.get_update {column : Nat} (entry : Entry) (other : column ∉ values.map columnOf) :
    (entry.update values).get column = entry.get column := by
  induction values generalizing entry with
  | nil => rfl
  | cons value values ih =>
    obtain ⟨here, later⟩ : column ≠ columnOf value ∧ column ∉ values.map columnOf := by
      simpa only [List.map_cons, List.mem_cons, not_or] using other
    rw [Entry.update_cons, ih _ later, get_set_ne entry _ here.symm]

/-- An update for a known column that stores a text the column accepts. -/
structure Proper (platform : Platform) (value : String × String) : Prop where
  inside : columnOf value < 34
  accepted : platform.Accepts (columnOf value) value.2

def Fills (platform : Platform) (values : List (String × String)) (columns : List Nat) : Prop :=
  List.Forall₂ (fun value column => columnOf value = column ∧ Proper platform value) values columns

theorem Platform.Accepts.other (platform : Platform) (text : String) (time : column ≠ Column.startTime)
    (outside : column ∉ positionColumns) : platform.Accepts column text :=
  ⟨fun same => absurd same time, fun inside => absurd inside outside⟩

theorem Platform.Accepts.number {platform : Platform} (reads : platform.readsDouble text = true)
    (time : column ≠ Column.startTime) : platform.Accepts column text :=
  ⟨fun same => absurd same time, fun _ => reads⟩

/-- Only the columns from the start time to the last position are read again. -/
theorem Platform.Accepts.free (platform : Platform) (text : String) (outside : column < 19 ∨ 25 < column) :
    platform.Accepts column text := by
  refine .other platform text (by rw [Column.startTime]; omega) fun inside => ?_
  simp only [positionColumns, Column.senderLatitude, List.mem_range'_1] at inside
  omega

theorem Fills.cons (named : infoColumns[column]? = some name) (accepted : platform.Accepts column text)
    (rest : Fills platform values columns) : Fills platform ((name, text) :: values) (column :: columns) := by
  have position := columnOf_eq text named
  obtain ⟨inside, -⟩ := List.getElem?_eq_some_iff.mp named
  exact List.Forall₂.cons ⟨position, position.symm ▸ inside, position.symm ▸ accepted⟩ rest

theorem Fills.map_columnOf (fills : Fills platform values columns) : values.map columnOf = columns := by
  induction fills with
  | nil => rfl
  | cons first _ ih => rw [List.map_cons, first.1, ih]

theorem Fills.proper (fills : Fills platform values columns) : ∀ value ∈ values, Proper platform value := by
  induction fills with
  | nil => simp
  | cons first _ ih => exact List.forall_mem_cons.mpr ⟨first.2, ih⟩

theorem Fills.inside (fills : Fills platform values columns) (positive : ∀ column ∈ columns, 0 < column) :
    ∀ value ∈ values, 0 < columnOf value ∧ columnOf value < 34 := by
  intro value member
  have listed := List.mem_map_of_mem (f := columnOf) member
  rw [fills.map_columnOf] at listed
  exact ⟨positive _ listed, (fills.proper value member).inside⟩

theorem Entry.Holds.set {entry : Entry} {value : String × String} (proper : Proper platform value)
    (holds : entry.Holds platform column ∨ column = columnOf value) :
    Entry.Holds platform (entry.setIfInBounds (columnOf value) (some value.2)) column := by
  by_cases same : column = columnOf value
  · subst same
    exact ⟨value.2, get_set_self entry _ proper.inside, proper.accepted⟩
  · obtain ⟨text, held, accepted⟩ := holds.resolve_right same
    exact ⟨text, by rw [get_set_ne entry _ (Ne.symm same), held], accepted⟩

theorem Entry.Holds.update {entry : Entry} (proper : ∀ value ∈ values, Proper platform value)
    (holds : entry.Holds platform column ∨ column ∈ values.map columnOf) :
    (entry.update values).Holds platform column := by
  induction values generalizing entry with
  | nil => exact holds.resolve_right List.not_mem_nil
  | cons value values ih =>
    obtain ⟨first, later⟩ := List.forall_mem_cons.mp proper
    rw [Entry.update_cons]
    apply ih later
    rw [List.map_cons, List.mem_cons, ← or_assoc] at holds
    exact holds.imp_left (.set first)

namespace Phone

variable {platform : Platform} {phone next : Phone} {number other : BitVec 32}

theorem write_append (phone : Phone) (first second : List DatabaseCall) :
    phone.write (first ++ second) = (phone.write first).write second := by
  simp [write, List.append_assoc]

theorem store_write (platform : Platform) (phone : Phone) (call : DatabaseCall) :
    (phone.write [call]).store platform = call.perform platform.affinity (phone.store platform) :=
  databaseAfter_append _ _ _

theorem write_nil (phone : Phone) : phone.write [] = phone := by simp [write]

/-- A known column of an existing record is set; no other record changes. -/
theorem find_set (platform : Platform) (phone : Phone) (number : BitVec 32) {value : String × String}
    (inside : 0 < columnOf value ∧ columnOf value < 34) (key : Int) :
    ((phone.write (updates number [value])).store platform).experiments.find key =
      if key = number.toInt then
        ((phone.store platform).experiments.find key).map fun entry =>
          entry.setIfInBounds (columnOf value) (some value.2)
      else (phone.store platform).experiments.find key := by
  have known := columnOf_declared inside
  have found := (setValueInExpInfo_spec platform.affinity (phone.store platform) (some value.2)
    (DatabaseCall.unkeyed (DatabaseCall.setsKey_declared known (some value.2) number)) number).2.2 key
  have set : ExperimentStore.updated (some value.2) value.1 =
      fun entry => entry.setIfInBounds (columnOf value) (some value.2) :=
    funext (updated_declared (List.mem_of_mem_drop known) value.2)
  rw [updates, List.map_singleton, store_write, DatabaseCall.perform, found, set]

theorem find_updates (platform : Platform) (phone : Phone) (number : BitVec 32)
    (inside : ∀ value ∈ values, 0 < columnOf value ∧ columnOf value < 34) (key : Int) :
    ((phone.write (updates number values)).store platform).experiments.find key =
      if key = number.toInt then ((phone.store platform).experiments.find key).map (Entry.update values)
      else (phone.store platform).experiments.find key := by
  induction values generalizing phone with
  | nil =>
    rw [updates, List.map_nil, write_nil]
    split
    · exact Option.map_id'.symm
    · rfl
  | cons value values ih =>
    obtain ⟨first, later⟩ := List.forall_mem_cons.mp inside
    have split : updates number (value :: values) = updates number [value] ++ updates number values := rfl
    rw [split, write_append, ih _ later, find_set platform phone number first]
    by_cases same : key = number.toInt
    · simp only [same, if_true, Option.map_map]
      rfl
    · simp only [same, if_false]

theorem record_updates (platform : Platform) (phone : Phone) (number : BitVec 32)
    (inside : ∀ value ∈ values, 0 < columnOf value ∧ columnOf value < 34) (other : BitVec 32) :
    (phone.write (updates number values)).record platform other =
      if other = number then (phone.record platform other).map (Entry.update values)
      else phone.record platform other := by
  rw [record, ExperimentStore.getExperimentInfo, find_updates platform phone number inside]
  simp only [BitVec.toInt_inj]
  rfl

theorem updates_calls (number : BitVec 32)
    (inside : ∀ value ∈ values, 0 < columnOf value ∧ columnOf value < 34) :
    created (updates number values) = 0 ∧ ∀ call ∈ updates number values, call.setsKey = false := by
  refine ⟨by simp [created, updates, DatabaseCall.isCreate, List.countP_eq_zero], fun call member => ?_⟩
  obtain ⟨value, listed, rfl⟩ := List.mem_map.mp member
  exact DatabaseCall.setsKey_declared (columnOf_declared (inside value listed)) _ _

theorem updates_listed (platform : Platform) (phone : Phone) (number : BitVec 32)
    (inside : ∀ value ∈ values, 0 < columnOf value ∧ columnOf value < 34) :
    ((phone.write (updates number values)).store platform).getPrimaryColumn =
      (phone.store platform).getPrimaryColumn := by
  refine congrArg (List.map _) (Table.keys_congr fun key => ?_)
  rw [find_updates platform phone number inside]
  split <;> simp

theorem find_rows (platform : Platform) (phone : Phone) (number : BitVec 32)
    (rows : List (Entries String)) :
    ((phone.write (rows.map (.logReceivedTransmission number))).store platform).experiments =
      (phone.store platform).experiments := by
  induction rows generalizing phone with
  | nil => rw [List.map_nil, write_nil]
  | cons row rows ih =>
    have split : (row :: rows).map (DatabaseCall.logReceivedTransmission number) =
        [.logReceivedTransmission number row] ++ rows.map (.logReceivedTransmission number) := rfl
    rw [split, write_append, ih, store_write]
    rfl

end Phone

def Entry.IsReady (entry : Entry) : Prop := entry.get Column.state = some "ready"

def Entry.IsFinished (entry : Entry) : Prop := entry.get Column.state = some "finished"

theorem Entry.IsReady.not_finished {entry : Entry} (ready : entry.IsReady) : ¬ entry.IsFinished := by
  intro finished
  rw [Entry.IsReady, finished] at ready
  exact absurd ready (by decide)

/-- The two differences and the weather, which are entered after the end. -/
def computedColumns : List Nat := List.range' 26 6

def Entry.Summarised (entry : Entry) : Prop :=
  ∃ summary, initSummary entry = .ok summary ∧ entry.get 17 = some (toString summary.iterations.toInt) ∧
    entry.get 18 = some (toString summary.duration.toInt)

theorem initSummary_congr {old new : Entry}
    (stored : ∀ column < 17, column ≠ Column.state → new.get column = old.get column) :
    initSummary new = initSummary old := by
  have parse {α : Type} (parser : String → Except Java.Exception α) (column : Nat)
      (early : column < 17 ∧ column ≠ Column.state) : new.parse parser column = old.parse parser column := by
    rw [Entry.parse, stored column early.1 early.2, Entry.parse]
  simp only [initSummary, parse _ Column.numberOfMessages (by decide),
    parse _ Column.timeBetweenMsgs (by decide), parse _ Column.frequencies (by decide),
    parse _ Column.bandwidths (by decide), parse _ Column.spreadingFactors (by decide),
    parse _ Column.codingRates (by decide), parse _ Column.powers (by decide)]

/-- A later state of a record: what the form stored and the state are kept, and no column
is emptied. If the acknowledgements are `prompt`, then of a finished record only missing
positions and computed columns change. -/
structure Entry.Evolves (platform : Platform) (prompt : Prop) (old new : Entry) : Prop where
  stored : ∀ column < 17, new.get column = old.get column
  holds : ∀ column, old.Holds platform column → new.Holds platform column
  summarised : old.Summarised → new.Summarised
  kept : prompt → old.IsFinished → ∀ column, column ∉ computedColumns →
    new.get column = old.get column ∨ column ∈ positionColumns ∧ old.get column = some "-1"

theorem summaryValues_fills (platform : Platform) (summary : Summary) :
    Fills platform (summaryValues summary) [17, 18] :=
  .cons rfl (.free platform _ (by decide))
    (.cons rfl (.free platform _ (by decide)) .nil)

namespace Entry.Evolves

variable {platform : Platform} {prompt : Prop} {old between new : Entry}

theorem refl (entry : Entry) : entry.Evolves platform prompt entry :=
  ⟨fun _ _ => rfl, fun _ holds => holds, fun summarised => summarised, fun _ _ _ _ => .inl rfl⟩

theorem ready (evolves : old.Evolves platform prompt new) (ready : old.IsReady) : new.IsReady :=
  (evolves.stored Column.state (by decide)).trans ready

theorem finished (evolves : old.Evolves platform prompt new) (finished : old.IsFinished) : new.IsFinished :=
  (evolves.stored Column.state (by decide)).trans finished

theorem trans (first : old.Evolves platform prompt between) (second : between.Evolves platform prompt new) :
    old.Evolves platform prompt new := by
  refine ⟨fun column early => (second.stored column early).trans (first.stored column early),
    fun column holds => second.holds column (first.holds column holds),
    fun summarised => second.summarised (first.summarised summarised), fun prompt finished column other => ?_⟩
  rcases first.kept prompt finished column other with same | missing
  · rcases second.kept prompt (first.finished finished) column other with later | ⟨position, marker⟩
    · exact .inl (later.trans same)
    · exact .inr ⟨position, same.symm.trans marker⟩
  · exact .inr missing

/-- Updates behind the summary, on a finished record only where they are allowed. -/
theorem of_update (fills : Fills platform values columns) (behind : ∀ column ∈ columns, 19 ≤ column)
    (allowed : prompt → old.IsFinished → ∀ column ∈ columns, column ∈ computedColumns ∨
      column ∈ positionColumns ∧ old.get column = some "-1") :
    old.Evolves platform prompt (old.update values) := by
  have early (column : Nat) (front : column < 19) : (old.update values).get column = old.get column := by
    refine old.get_update fun member => ?_
    rw [fills.map_columnOf] at member
    have later := behind column member
    omega
  have stored (column : Nat) (front : column < 17) : (old.update values).get column = old.get column :=
    early column (by omega)
  refine ⟨stored, fun column holds => .update fills.proper (.inl holds), ?_,
    fun prompt finished column other => ?_⟩
  · rintro ⟨summary, read, iterations, duration⟩
    refine ⟨summary, (initSummary_congr fun column early _ => stored column early).trans read, ?_, ?_⟩
    · rw [early 17 (by decide), iterations]
    · rw [early 18 (by decide), duration]
  · by_cases touched : column ∈ columns
    · exact .inr ((allowed prompt finished column touched).resolve_left other)
    · exact .inl (old.get_update (by rwa [fills.map_columnOf]))

private theorem update_summary (entry : Entry) (summary : Summary) :
    (entry.update (summaryValues summary)).get 17 = some (toString summary.iterations.toInt) ∧
      (entry.update (summaryValues summary)).get 18 = some (toString summary.duration.toInt) := by
  rw [summaryValues, Entry.update_cons, Entry.update_cons, Entry.update_nil,
    columnOf_eq _ (show infoColumns[17]? = some "number_of_iterations" from rfl),
    columnOf_eq _ (show infoColumns[18]? = some "duration" from rfl)]
  refine ⟨?_, get_set_self _ _ (by decide)⟩
  rw [get_set_ne _ _ (by decide), get_set_self _ _ (by decide)]

/-- Storing the summary again changes nothing in a record that has it. -/
theorem of_summary (read : initSummary old = .ok summary) (known : old.IsFinished → old.Summarised) :
    old.Evolves platform prompt (old.update (summaryValues summary)) ∧
      (old.update (summaryValues summary)).Summarised := by
  have fills := summaryValues_fills platform summary
  obtain ⟨iterations, duration⟩ := update_summary old summary
  have others (column : Nat) (other : column ∉ [17, 18]) :
      (old.update (summaryValues summary)).get column = old.get column :=
    old.get_update (by rwa [fills.map_columnOf])
  have stored (column : Nat) (early : column < 17) :
      (old.update (summaryValues summary)).get column = old.get column := by
    refine others column ?_
    simp only [List.mem_cons, List.not_mem_nil, or_false, not_or]
    omega
  have complete : (old.update (summaryValues summary)).Summarised :=
    ⟨summary, (initSummary_congr fun column early _ => stored column early).trans read, iterations, duration⟩
  refine ⟨⟨stored, fun column holds => .update fills.proper (.inl holds), fun _ => complete,
    fun _ finished column _ => .inl ?_⟩, complete⟩
  obtain ⟨same, read', held, held'⟩ := known finished
  obtain rfl : summary = same := Except.ok.inj (read.symm.trans read')
  by_cases touched : column ∈ [17, 18]
  · obtain rfl | rfl : column = 17 ∨ column = 18 := by simpa using touched
    · rw [iterations, held]
    · rw [duration, held']
  · exact others column touched

end Entry.Evolves

/-- A later state of the phone, by calls that neither create nor delete an experiment. -/
structure Phone.Evolves (platform : Platform) (prompt : Prop) (phone next : Phone) : Prop where
  calls : ∃ more, next.calls = phone.calls ++ more ∧ created more = 0 ∧ ∀ call ∈ more, call.setsKey = false
  absent : ∀ number, phone.record platform number = none → next.record platform number = none
  records : ∀ number entry, phone.record platform number = some entry →
    ∃ new, next.record platform number = some new ∧ entry.Evolves platform prompt new
  listed : (next.store platform).getPrimaryColumn = (phone.store platform).getPrimaryColumn

namespace Phone.Evolves

variable {platform : Platform} {prompt : Prop} {phone between next : Phone} {number : BitVec 32}

theorem of_calls (same : next.calls = phone.calls) : Evolves platform prompt phone next := by
  have store : next.store platform = phone.store platform := by rw [store, same, store]
  refine ⟨⟨[], by simp [same], rfl, by simp⟩, fun number absent => ?_, fun number entry found => ?_, ?_⟩
  · rwa [record, store]
  · exact ⟨entry, by rwa [record, store], .refl entry⟩
  · rw [store]

theorem trans (first : Evolves platform prompt phone between)
    (second : Evolves platform prompt between next) :
    Evolves platform prompt phone next := by
  refine ⟨?_, fun number absent => second.absent number (first.absent number absent), ?_,
    second.listed.trans first.listed⟩
  · obtain ⟨some₁, calls₁, none₁, plain₁⟩ := first.calls
    obtain ⟨some₂, calls₂, none₂, plain₂⟩ := second.calls
    refine ⟨some₁ ++ some₂, by rw [calls₂, calls₁, List.append_assoc], ?_, ?_⟩
    · rw [created_append, none₁, none₂]
    · exact List.forall_mem_append.mpr ⟨plain₁, plain₂⟩
  · intro number entry found
    obtain ⟨old, stored, early⟩ := first.records number entry found
    obtain ⟨new, changed, late⟩ := second.records number old stored
    exact ⟨new, changed, early.trans late⟩

theorem created (evolves : Evolves platform prompt phone next) :
    created next.calls = created phone.calls := by
  obtain ⟨more, calls, none, -⟩ := evolves.calls
  rw [calls, created_append, none, Nat.add_zero]

theorem updates (phone : Phone) (number : BitVec 32)
    (inside : ∀ value ∈ values, 0 < columnOf value ∧ columnOf value < 34)
    (edits : ∀ entry, phone.record platform number = some entry →
      entry.Evolves platform prompt (entry.update values)) :
    Evolves platform prompt phone (phone.write (updates number values)) := by
  have found := record_updates platform phone number inside
  refine ⟨⟨_, rfl, updates_calls number inside⟩, fun other absent => ?_, fun other entry stored => ?_,
    updates_listed platform phone number inside⟩
  · rw [found, absent]
    split <;> rfl
  · rw [found, stored]
    split
    · rename_i same
      exact ⟨_, rfl, edits entry (same ▸ stored)⟩
    · exact ⟨entry, rfl, .refl entry⟩

theorem rows (phone : Phone) (number : BitVec 32) (rows : List (Entries String)) :
    Evolves platform prompt phone (phone.write (rows.map (.logReceivedTransmission number))) := by
  have same := find_rows platform phone number rows
  refine ⟨⟨_, rfl, ?_, ?_⟩, fun other absent => ?_, fun other entry stored => ?_, ?_⟩
  · simp [App.created, DatabaseCall.isCreate, List.countP_eq_zero]
  · simp [DatabaseCall.setsKey]
  · rwa [record, ExperimentStore.getExperimentInfo, same]
  · exact ⟨entry, by rwa [record, ExperimentStore.getExperimentInfo, same], .refl entry⟩
  · rw [ExperimentStore.getPrimaryColumn, same]
    rfl

end Phone.Evolves

end LoraEval.App

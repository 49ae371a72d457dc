import LoraEval.App.Database
import LoraEval.Core.Loop

/-! The positions of sender and receiver before the distance is computed. At the end of an
experiment they are checked by `allGPSDataExists`; from the button `createCsv` every
missing one is asked for in a dialog. -/

namespace LoraEval.App

open LoraEval.Core

namespace Column

def senderLatitude : Nat := 20
def receiverAltitude : Nat := 25

end Column

/-- The columns from `SENDER_LATITUDE` to `RECEIVER_ALTITUDE`. -/
def positionColumns : List Nat := List.range' Column.senderLatitude 6

/-- The resource `db_location_identifiers`. -/
def locationIdentifiers : List String :=
  ["sender_latitude", "sender_longitude", "sender_altitude", "receiver_latitude", "receiver_longitude",
    "receiver_altitude"]

/-- How `makeCSV` ends. Only an `IOException` is caught. -/
inductive CsvResult where
  | made
  | ioException
  | otherException
deriving DecidableEq, Repr

/-- Where a path to the distances is: given up, ended by an exception, in the dialog for
a column, or in `enterDiffValuesIntoDB`. -/
inductive PositionPath where
  | stopped
  | crashed
  | asking (column : Nat)
  | entersDiffValues
deriving DecidableEq, Repr

/-- The loop of `allGPSDataExists`. Calling `equals` on a null column is an exception. -/
def allGPSFrom (entry : Entry) : List Nat → Option Bool
  | [] => some true
  | _ :: rest => do
    let value ← entry.get Column.senderLatitude
    if value = "-1" then return false else allGPSFrom entry rest

def allGPSDataExists (entry : Entry) : Option Bool := allGPSFrom entry (List.range 6)

/-- The end of an experiment. An `IOException` of `makeCSV` is caught. -/
def automaticCsvAndUploadIfAllGPSExistsAndInternetConnection (online : Bool) (csv : CsvResult)
    (entry : Entry) : PositionPath :=
  if !online then .stopped
  else match allGPSDataExists entry with
    | none => .crashed
    | some false => .stopped
    | some true => match csv with
      | .made => .entersDiffValues
      | .ioException => .stopped
      | .otherException => .crashed

/-- `completeLocationValues` for the columns that are left. -/
def completeFrom (entry : Entry) : List Nat → PositionPath
  | [] => .entersDiffValues
  | column :: rest =>
    match entry.get column with
    | none => .crashed
    | some value => if value ≠ "-1" then completeFrom entry rest else .asking column

def completeLocationValues (column : Nat) (entry : Entry) : PositionPath :=
  completeFrom entry (List.range' column (Column.receiverAltitude + 1 - column))

structure PositionScreen where
  entry : Entry
  path : PositionPath

def createCsv (csv : CsvResult) (entry : Entry) : PositionScreen where
  entry := entry
  path := match csv with
    | .otherException => .crashed
    | _ => completeLocationValues Column.senderLatitude entry

/-- `onClick` of the dialog: the value is stored as it is, and the next column is checked. -/
def PositionScreen.confirm (loc : String) (screen : PositionScreen) : Option PositionScreen :=
  match screen.path with
  | .asking column => do
    let locationIdentifier ← locationIdentifiers[column - Column.senderLatitude]?
    let entry ← setValueInExpInfo loc locationIdentifier screen.entry
    return ⟨entry, completeLocationValues (column + 1) entry⟩
  | _ => none

/-- `createCsv` and the confirmed dialogs after it. -/
def completeByHand (csv : CsvResult) (entry : Entry) (locs : List String) : Option PositionScreen :=
  forEach locs PositionScreen.confirm (createCsv csv entry)

/-- The column holds a value other than the marker of a missing one. -/
def Entry.Known (entry : Entry) (column : Nat) : Prop := ∃ value, entry.get column = some value ∧ value ≠ "-1"

instance (entry : Entry) (column : Nat) : Decidable (entry.Known column) := by
  unfold Entry.Known
  infer_instance

def Entry.Complete (entry : Entry) : Prop := ∀ column ∈ positionColumns, entry.Known column

instance (entry : Entry) : Decidable entry.Complete := by
  unfold Entry.Complete
  infer_instance

def missingColumns (entry : Entry) (columns : List Nat) : List Nat :=
  columns.filter fun column => entry.get column = some "-1"

theorem allGPSFrom_eq_true {entry : Entry} {indices : List Nat} (nonempty : indices ≠ []) :
    allGPSFrom entry indices = some true ↔ entry.Known Column.senderLatitude := by
  induction indices with
  | nil => exact absurd rfl nonempty
  | cons index rest ih =>
    cases held : entry.get Column.senderLatitude with
    | none => simp [allGPSFrom, Entry.Known, held]
    | some value =>
      by_cases marker : value = "-1"
      · simp [allGPSFrom, Entry.Known, held, marker]
      · cases rest with
        | nil => simp [allGPSFrom, Entry.Known, held, marker]
        | cons next later =>
          rw [← ih (List.cons_ne_nil next later)]
          simp [allGPSFrom, held, marker]

/-- The loop reads one column six times. -/
theorem automaticCsv_enters_iff (online : Bool) (csv : CsvResult) (entry : Entry) :
    automaticCsvAndUploadIfAllGPSExistsAndInternetConnection online csv entry = .entersDiffValues ↔
      online = true ∧ csv = .made ∧ entry.Known Column.senderLatitude := by
  rw [← allGPSFrom_eq_true (show List.range 6 ≠ [] by decide)]
  unfold automaticCsvAndUploadIfAllGPSExistsAndInternetConnection allGPSDataExists
  cases online with
  | false => simp
  | true =>
    rcases allGPSFrom entry (List.range 6) with _ | _ | _ <;> cases csv <;> simp

private theorem setLocation (entry : Entry) (loc : String) {offset : Nat} (position : offset < 6) :
    (locationIdentifiers[offset]?.bind fun identifier => setValueInExpInfo loc identifier entry) =
      some (entry.setIfInBounds (Column.senderLatitude + offset) (some loc)) := by
  have named : ∀ offset < 6, ∃ identifier, locationIdentifiers[offset]? = some identifier ∧
      identifier ∈ infoColumns ∧ infoColumns.idxOf identifier = Column.senderLatitude + offset := by
    decide
  obtain ⟨identifier, listed, known, index⟩ := named offset position
  simp [listed, setValueInExpInfo_declared known, index]

theorem confirm_asking (entry : Entry) (loc : String) {offset : Nat} (position : offset < 6) :
    PositionScreen.confirm loc ⟨entry, .asking (Column.senderLatitude + offset)⟩ =
      some ⟨entry.setIfInBounds (Column.senderLatitude + offset) (some loc),
        completeLocationValues (Column.senderLatitude + offset + 1)
          (entry.setIfInBounds (Column.senderLatitude + offset) (some loc))⟩ := by
  have stored := setLocation entry loc position
  obtain ⟨identifier, listed, stored⟩ := Option.bind_eq_some_iff.mp stored
  simp [PositionScreen.confirm, listed, stored]

theorem get_set_self (entry : Entry) (value : Option String) {column : Nat} (inside : column < 34) :
    Entry.get (entry.setIfInBounds column value) column = value := by
  simp [Entry.get, Vector.getElem?_setIfInBounds_self_of_lt inside]

theorem get_set_ne (entry : Entry) (value : Option String) (other : column ≠ column') :
    Entry.get (entry.setIfInBounds column value) column' = entry.get column' := by
  simp [Entry.get, Vector.getElem?_setIfInBounds_ne other]

/-- What the dialogs for `columns` make of a record: other columns are kept, the distances
are reached after one text for each missing column, and are then complete unless the
marker itself was confirmed. -/
structure ByHand (before : Entry) (columns : List Nat) (locs : List String) (after : PositionScreen) :
    Prop where
  outside : ∀ column, column ∉ columns → after.entry.get column = before.get column
  enters : after.path = .entersDiffValues ↔
    (∀ column ∈ columns, before.get column ≠ none) ∧ locs.length = (missingColumns before columns).length
  filled : after.path = .entersDiffValues →
    ((∀ column ∈ columns, after.entry.Known column) ↔ "-1" ∉ locs)

theorem ByHand.known {before : Entry} {after : PositionScreen} (given : before.Known column)
    (fresh : column ∉ rest) (later : ByHand before rest locs after) :
    ByHand before (column :: rest) locs after := by
  obtain ⟨value, held, other⟩ := given
  have kept : after.entry.Known column := ⟨value, (later.outside column fresh).trans held, other⟩
  refine ⟨fun asked outside => later.outside asked fun inside => outside (List.mem_cons_of_mem _ inside),
    ?_, fun entered => ?_⟩
  · simpa [missingColumns, held, other] using later.enters
  · simpa [kept] using later.filled entered

theorem ByHand.confirmed {before : Entry} {after : PositionScreen} (missing : before.get column = some "-1")
    (inside : column < 34) (fresh : column ∉ rest)
    (later : ByHand (before.setIfInBounds column (some loc)) rest locs after) :
    ByHand before (column :: rest) (loc :: locs) after := by
  have kept : ∀ asked ∈ rest, Entry.get (before.setIfInBounds column (some loc)) asked = before.get asked :=
    fun asked among => get_set_ne before (some loc) fun same => fresh (same ▸ among)
  have stored : after.entry.get column = some loc :=
    (later.outside column fresh).trans (get_set_self before (some loc) inside)
  refine ⟨fun asked outside => ?_, ?_, fun entered => ?_⟩
  · rw [List.mem_cons, not_or] at outside
    exact (later.outside asked outside.2).trans (get_set_ne before (some loc) (Ne.symm outside.1))
  · have same : missingColumns (before.setIfInBounds column (some loc)) rest = missingColumns before rest :=
      List.filter_congr fun asked among => by rw [kept asked among]
    rw [later.enters, same]
    simp +contextual [missingColumns, missing, kept]
  · have known : after.entry.Known column ↔ loc ≠ "-1" := by
      simp [Entry.Known, stored]
    rw [List.forall_mem_cons, known, later.filled entered, List.mem_cons, not_or, ne_comm]

theorem ByHand.unfinished {before : Entry} {path : PositionPath} (ended : path ≠ .entersDiffValues)
    (among : column ∈ columns) (unknown : before.get column = none ∨ before.get column = some "-1") :
    ByHand before columns [] ⟨before, path⟩ := by
  refine ⟨fun _ _ => rfl, ⟨fun entered => absurd entered ended, ?_⟩, fun entered => absurd entered ended⟩
  rintro ⟨given, noneMissing⟩
  rcases unknown with null | missing
  · exact absurd null (given column among)
  · have listed : column ∈ missingColumns before columns := by simp [missingColumns, among, missing]
    rw [List.length_eq_zero_iff.mp noneMissing.symm] at listed
    exact absurd listed List.not_mem_nil

theorem forEach_confirm_closed {screen after : PositionScreen} {locs : List String}
    (closed : ∀ column, screen.path ≠ .asking column)
    (run : forEach locs PositionScreen.confirm screen = some after) : locs = [] ∧ after = screen := by
  cases locs with
  | nil => exact ⟨rfl, (Option.some.inj run).symm⟩
  | cons loc rest =>
    obtain ⟨entry, path⟩ := screen
    cases path with
    | asking column => exact absurd rfl (closed column)
    | stopped => cases run
    | crashed => cases run
    | entersDiffValues => cases run

theorem completeFrom_null {entry : Entry} (held : entry.get column = none) (rest : List Nat) :
    completeFrom entry (column :: rest) = .crashed := by
  simp [completeFrom, held]

theorem completeFrom_missing {entry : Entry} (held : entry.get column = some "-1") (rest : List Nat) :
    completeFrom entry (column :: rest) = .asking column := by
  simp [completeFrom, held]

theorem completeFrom_known {entry : Entry} (held : entry.get column = some value) (other : value ≠ "-1")
    (rest : List Nat) : completeFrom entry (column :: rest) = completeFrom entry rest := by
  simp [completeFrom, held, other]

theorem completeLocationValues_eq {remaining offset : Nat} (left : offset + remaining = 6) (entry : Entry) :
    completeLocationValues (Column.senderLatitude + offset) entry =
      completeFrom entry (List.range' (Column.senderLatitude + offset) remaining) := by
  have columns : Column.receiverAltitude + 1 - (Column.senderLatitude + offset) = remaining := by
    unfold Column.receiverAltitude Column.senderLatitude
    omega
  rw [completeLocationValues, columns]

/-- The dialogs from a column on, by induction on the number of columns left. -/
theorem byHand_of_run {remaining offset : Nat} (left : offset + remaining = 6) {entry : Entry}
    {locs : List String} {after : PositionScreen}
    (run : forEach locs PositionScreen.confirm
      ⟨entry, completeLocationValues (Column.senderLatitude + offset) entry⟩ = some after) :
    ByHand entry (List.range' (Column.senderLatitude + offset) remaining) locs after := by
  induction remaining generalizing offset entry locs with
  | zero =>
    rw [completeLocationValues_eq left] at run
    obtain ⟨rfl, rfl⟩ := forEach_confirm_closed (by simp [completeFrom]) run
    exact ⟨fun _ _ => rfl, by simp [completeFrom, missingColumns], by simp⟩
  | succ remaining ih =>
    have next : offset + 1 + remaining = 6 := by omega
    have position : offset < 6 := by omega
    have fresh : Column.senderLatitude + offset ∉
        List.range' (Column.senderLatitude + offset + 1) remaining := by
      rw [List.mem_range'_1]
      omega
    rw [completeLocationValues_eq left, List.range'_succ] at run
    rw [List.range'_succ]
    cases held : entry.get (Column.senderLatitude + offset) with
    | none =>
      rw [completeFrom_null held] at run
      obtain ⟨rfl, rfl⟩ := forEach_confirm_closed (by simp) run
      exact .unfinished (by simp) List.mem_cons_self (.inl held)
    | some value =>
      by_cases marker : value = "-1"
      · subst marker
        rw [completeFrom_missing held] at run
        cases locs with
        | nil =>
          obtain rfl := Option.some.inj run
          exact .unfinished (by simp) List.mem_cons_self (.inr held)
        | cons loc rest =>
          rw [forEach_cons, confirm_asking entry loc position] at run
          have inside : Column.senderLatitude + offset < 34 := by
            unfold Column.senderLatitude
            omega
          exact .confirmed held inside fresh (ih next run)
      · rw [completeFrom_known held marker] at run
        have later := completeLocationValues_eq next entry
        exact .known ⟨value, held, marker⟩ fresh (ih next (later ▸ run))

/-- The manual path, with every way `makeCSV` can end. -/
theorem completeByHand_run {csv : CsvResult} {entry : Entry} {locs : List String} {screen : PositionScreen}
    (run : completeByHand csv entry locs = some screen) :
    (csv = .otherException ∧ screen.path = .crashed) ∨
      (csv ≠ .otherException ∧ ByHand entry positionColumns locs screen) := by
  by_cases thrown : csv = .otherException
  · subst thrown
    obtain ⟨-, rfl⟩ := forEach_confirm_closed (by simp [createCsv]) run
    exact .inl ⟨rfl, rfl⟩
  · have started : createCsv csv entry =
        ⟨entry, completeLocationValues (Column.senderLatitude + 0) entry⟩ := by
      cases csv with
      | made => rfl
      | ioException => rfl
      | otherException => exact absurd rfl thrown
    rw [completeByHand, started] at run
    exact .inr ⟨thrown, byHand_of_run (Nat.zero_add 6) run⟩

/-- On the automatic path the distances are reached with complete positions exactly when a
known sender latitude comes with the other five; on the manual path exactly when no marker
is confirmed in a run of dialogs that reaches the distances. -/
theorem positions_complete_iff (online : Bool) (csv : CsvResult) (entry : Entry) (locs : List String)
    (screen : PositionScreen) (run : completeByHand csv entry locs = some screen) :
    ((automaticCsvAndUploadIfAllGPSExistsAndInternetConnection online csv entry = .entersDiffValues →
        entry.Complete) ↔
      (online = true → csv = .made → entry.Known Column.senderLatitude →
        ∀ column ∈ positionColumns.tail, entry.Known column)) ∧
    ((screen.path = .entersDiffValues → screen.entry.Complete) ↔
      (csv ≠ .otherException → (∀ column ∈ positionColumns, entry.get column ≠ none) →
        locs.length = (missingColumns entry positionColumns).length → "-1" ∉ locs)) := by
  constructor
  · have columns : positionColumns = Column.senderLatitude :: positionColumns.tail := rfl
    rw [automaticCsv_enters_iff, Entry.Complete, columns, List.forall_mem_cons, List.tail_cons]
    tauto
  · rcases completeByHand_run run with ⟨thrown, ended⟩ | ⟨caught, byHand⟩
    · simp [thrown, ended]
    · constructor
      · intro complete _ given enough
        have entered := byHand.enters.mpr ⟨given, enough⟩
        exact (byHand.filled entered).mp (complete entered)
      · intro unmarked entered
        obtain ⟨given, enough⟩ := byHand.enters.mp entered
        exact (byHand.filled entered).mpr (unmarked caught given enough)

def recordWithoutAltitude : Entry :=
  Vector.ofFn fun column => some (if column.val = Column.receiverAltitude then "-1" else "48")

theorem positions_complete_sample : ∃ screen,
    completeByHand .made recordWithoutAltitude ["512"] = some screen ∧ screen.path = .entersDiffValues ∧
      screen.entry.Complete := by
  refine ⟨_, rfl, rfl, ?_⟩
  refine (positions_complete_iff true .made recordWithoutAltitude ["512"] _ rfl).2.mpr ?_ rfl
  intro _ _ _
  decide

/-- The missing altitude passes the automatic check, and the dialog takes the marker as
a value. -/
theorem positions_marker_accepted :
    (automaticCsvAndUploadIfAllGPSExistsAndInternetConnection true .made recordWithoutAltitude =
      .entersDiffValues ∧
      ¬ recordWithoutAltitude.Complete) ∧
    ∃ screen, completeByHand .made recordWithoutAltitude ["-1"] = some screen ∧
      screen.path = .entersDiffValues ∧ ¬ screen.entry.Complete := by
  exact ⟨by decide, _, rfl, rfl, by decide⟩

end LoraEval.App

import LoraEval.App.Database
import LoraEval.App.ResultLog
import LoraEval.Core.Table
import Mathlib.Data.Int.Order.Basic

/-! The database of `DatabaseHandler`: the table of experiments with its automatic
ids, and a result table for each experiment, found by a name made of the number. A
statement on a table that does not exist is an exception; `insert` catches it. -/

namespace LoraEval.App

open LoraEval.Core

inductive DatabaseError where
  | malformed
  | noSuchTable
  | noSuchColumn
  | constraint
  | datatypeMismatch
  | cursorIndex
deriving DecidableEq, Repr

/-- The positions of the columns declared `NOT NULL`. -/
def notNullColumns : List Nat := List.range' 1 16

/-- The name in the statements on a result table. -/
def resultTable (expNumber : Int) : String := "Experiment" ++ toString expNumber

/-- A name that is one word to the database; a minus sign ends it. -/
def isIdentifier (name : String) : Bool := name.toList.all fun char => char.isAlphanum || char == '_'

def newEntry (rowId : Nat) (values : Vector String 16) : Entry :=
  logExperiment rowId values[0] values[1] values[2] values[3] values[4] values[5] values[6] values[7]
    values[8] values[9] values[10] values[11] values[12] values[13] values[14] values[15]

/-- The table of experiments, the largest id it ever gave out, and the rows of each
result table in the order of their ids. -/
structure ExperimentStore where
  experiments : Table Int Entry
  sequence : Nat
  tables : String → Option (List (Entries String))

namespace ExperimentStore

def empty : ExperimentStore := ⟨.empty, 0, fun _ => none⟩

/-- `AUTOINCREMENT`: above every id of the table and every id given out before. -/
def nextId (store : ExperimentStore) : Nat :=
  max store.sequence (store.experiments.lastKey.getD 0).toNat + 1

/-- `logExperiment`; without an id left the insertion fails and is caught. -/
def logExperiment (values : Vector String 16) (store : ExperimentStore) : ExperimentStore :=
  if 2 ^ 63 ≤ store.nextId then store
  else
    { store with
      experiments := store.experiments.insert store.nextId (newEntry store.nextId values)
      sequence := store.nextId }

/-- `getLastPos`: `getInt` keeps the low 32 bits of the last id; an empty table is an
exception. -/
def getLastPos (store : ExperimentStore) : Option (BitVec 32) :=
  store.experiments.lastKey.map (BitVec.ofInt 32)

/-- `createTableForIterations`, called with the text of a number. -/
def createTableForIterations (expNumber : BitVec 32) (store : ExperimentStore) :
    ExperimentStore × Option DatabaseError :=
  let name := resultTable expNumber.toInt
  if isIdentifier name then
    ({ store with tables := Function.update store.tables name (some ((store.tables name).getD [])) }, none)
  else (store, some .malformed)

/-- The end of `experimentReady`: log the experiment and create its result table. -/
def create (values : Vector String 16) (store : ExperimentStore) : ExperimentStore × Option DatabaseError :=
  let logged := store.logExperiment values
  match logged.getLastPos with
  | none => (logged, some .cursorIndex)
  | some lastPos => logged.createTableForIterations lastPos

/-- The new value of a column of an existing row, other than the key. -/
def setColumn (update : Option String) (index : Nat) (entry : Entry) : Option Entry :=
  if update = none ∧ index ∈ notNullColumns then none else some (entry.setIfInBounds index update)

/-- A new key for a row. The database converts the text with `affinity`, and refuses
what is no integer and a key that another row has. -/
def setKey (affinity : String → Option Int) (update : Option String) (experimentID : Int) (entry : Entry)
    (store : ExperimentStore) : ExperimentStore × Option DatabaseError :=
  match update.bind affinity with
  | none => (store, some .datatypeMismatch)
  | some key =>
    if key ≠ experimentID ∧ (store.experiments.find key).isSome then (store, some .constraint)
    else
      ({ store with
          experiments := (store.experiments.remove experimentID).insert key
            (entry.setIfInBounds 0 (some (toString key))) }, none)

/-- `setValueInExpInfo`: nothing is updated without a row of that id. A column that is no
single word would be pasted into the statement; such names are left out. -/
def setValueInExpInfo (affinity : String → Option Int) (update : Option String) (column : String)
    (experimentID : BitVec 32) (store : ExperimentStore) : ExperimentStore × Option DatabaseError :=
  match columnIndex column with
  | none => (store, some .noSuchColumn)
  | some index =>
    match store.experiments.find experimentID.toInt with
    | none => (store, none)
    | some entry =>
      if index = 0 then store.setKey affinity update experimentID.toInt entry
      else match setColumn update index entry with
        | none => (store, some .constraint)
        | some next =>
          ({ store with experiments := store.experiments.insert experimentID.toInt next }, none)

/-- What `setValueInExpInfo` leaves of the record, for a column other than the key. -/
def updated (update : Option String) (column : String) (entry : Entry) : Entry :=
  ((columnIndex column).bind fun index => setColumn update index entry).getD entry

/-- `logReceivedTransmission`: inserting into a table that does not exist is caught. -/
def logReceivedTransmission (expNumber : BitVec 32) (entries : Entries String) (store : ExperimentStore) :
    ExperimentStore :=
  let name := resultTable expNumber.toInt
  { store with tables := Function.update store.tables name ((store.tables name).map (· ++ [entries])) }

/-- `deleteExperiment`: the row goes, the result table is emptied but stays. -/
def deleteExperiment (absPos : BitVec 32) (store : ExperimentStore) :
    ExperimentStore × Option DatabaseError :=
  let name := resultTable absPos.toInt
  ({ store with
      experiments := store.experiments.remove absPos.toInt
      tables := Function.update store.tables name ((store.tables name).map fun _ => []) },
    if (store.tables name).isSome then none
    else if isIdentifier name then some .noSuchTable else some .malformed)

/-- `getExperimentInfo`; the columns of a missing row are an exception. -/
def getExperimentInfo (store : ExperimentStore) (absPos : BitVec 32) : Option Entry :=
  store.experiments.find absPos.toInt

/-- The rows `makeCSV` exports; selecting from a missing table is an exception. -/
def exportedRows (store : ExperimentStore) (experimentNumber : BitVec 32) :
    Option (List (Entries String)) :=
  store.tables (resultTable experimentNumber.toInt)

end ExperimentStore

inductive DatabaseCall where
  | create (values : Vector String 16)
  | setValueInExpInfo (update : Option String) (column : String) (experimentID : BitVec 32)
  | logReceivedTransmission (expNumber : BitVec 32) (entries : Entries String)
  | deleteExperiment (absPos : BitVec 32)

def DatabaseCall.perform (affinity : String → Option Int) (store : ExperimentStore) :
    DatabaseCall → ExperimentStore
  | .create values => (store.create values).1
  | .setValueInExpInfo update column experimentID =>
    (store.setValueInExpInfo affinity update column experimentID).1
  | .logReceivedTransmission expNumber entries => store.logReceivedTransmission expNumber entries
  | .deleteExperiment absPos => (store.deleteExperiment absPos).1

def databaseAfter (affinity : String → Option Int) (calls : List DatabaseCall) : ExperimentStore :=
  calls.foldl (DatabaseCall.perform affinity) .empty

theorem resultTable_inj : resultTable first = resultTable second ↔ first = second := by
  rw [resultTable, resultTable, String.append_right_inj, Java.toString_int_inj]

theorem resultTable_toInt_inj {first second : BitVec 32} :
    resultTable first.toInt = resultTable second.toInt ↔ first = second := by
  rw [resultTable_inj, BitVec.toInt_inj]

private theorem toString_symbols (number : Int) :
    ∀ char ∈ (toString number).toList, char = '-' ∨ char.isDigit = true :=
  fun _ member => decimal_symbols member

theorem resultTable_ne_experiments (number : Int) : resultTable number ≠ "Experiments" := by
  intro same
  have texts : "Experiment".toList ++ (toString number).toList = "Experiment".toList ++ ['s'] := by
    rw [← String.toList_append]
    exact congrArg String.toList same
  have letter : 's' ∈ (toString number).toList := by
    rw [List.append_cancel_left texts]
    exact List.mem_singleton_self 's'
  rcases toString_symbols number 's' letter with minus | digit
  · exact absurd minus (by decide)
  · exact absurd digit (by decide)

/-- The name for a number is one word unless the number is negative. -/
theorem isIdentifier_resultTable (number : Int) : isIdentifier (resultTable number) = true ↔ 0 ≤ number := by
  have word : ("Experiment".toList.all fun char => char.isAlphanum || char == '_') = true := by decide
  rw [isIdentifier, resultTable, String.toList_append, List.all_append, word, Bool.true_and]
  cases number with
  | ofNat number =>
    refine iff_of_true ?_ (Int.natCast_nonneg number)
    rw [List.all_eq_true]
    intro char member
    have digits : (toString (Int.ofNat number)).toList = Nat.toDigits 10 number := decimal_natCast number
    rw [digits] at member
    simp [Char.isAlphanum, Nat.isDigit_of_mem_toDigits (by decide) (by decide) member]
  | negSucc number =>
    have minus : (toString (Int.negSucc number)).toList = '-' :: Nat.toDigits 10 (number + 1) :=
      decimal_negSucc number
    refine iff_of_false ?_ (by simp)
    rw [minus]
    simp

theorem exportedRows_logReceivedTransmission (store : ExperimentStore) (expNumber : BitVec 32)
    (entries : Entries String) (number : BitVec 32) :
    (store.logReceivedTransmission expNumber entries).exportedRows number =
      if expNumber = number then (store.exportedRows number).map (· ++ [entries])
      else store.exportedRows number := by
  unfold ExperimentStore.exportedRows ExperimentStore.logReceivedTransmission
  by_cases same : expNumber = number
  · simp [same]
  · simp [same, resultTable_toInt_inj, Ne.symm same]

theorem getExperimentInfo_logReceivedTransmission (store : ExperimentStore) (expNumber : BitVec 32)
    (entries : Entries String) (number : BitVec 32) :
    (store.logReceivedTransmission expNumber entries).getExperimentInfo number =
      store.getExperimentInfo number := rfl

theorem exportedRows_deleteExperiment (store : ExperimentStore) (absPos number : BitVec 32) :
    (store.deleteExperiment absPos).1.exportedRows number =
      if absPos = number then (store.exportedRows number).map fun _ => []
      else store.exportedRows number := by
  unfold ExperimentStore.exportedRows ExperimentStore.deleteExperiment
  by_cases same : absPos = number
  · simp [same]
  · simp [same, resultTable_toInt_inj, Ne.symm same]

theorem getExperimentInfo_deleteExperiment (store : ExperimentStore) (absPos number : BitVec 32) :
    (store.deleteExperiment absPos).1.getExperimentInfo number =
      if absPos = number then none else store.getExperimentInfo number := by
  rw [ExperimentStore.getExperimentInfo, ExperimentStore.deleteExperiment, Table.find_remove]
  by_cases same : absPos = number
  · simp [same]
  · simp [same, BitVec.toInt_inj, Ne.symm same, ExperimentStore.getExperimentInfo]

theorem updated_declared (known : column ∈ infoColumns) (text : String) (entry : Entry) :
    ExperimentStore.updated (some text) column entry =
      entry.setIfInBounds (infoColumns.idxOf column) (some text) := by
  rw [ExperimentStore.updated, columnIndex_declared known]
  simp [ExperimentStore.setColumn]

/-- A new value for a column other than the key changes one record and nothing else. -/
theorem setValueInExpInfo_spec (affinity : String → Option Int) (store : ExperimentStore)
    (update : Option String) (other : columnIndex column ≠ some 0) (experimentID : BitVec 32) :
    let next := (store.setValueInExpInfo affinity update column experimentID).1
    next.tables = store.tables ∧ next.sequence = store.sequence ∧
      ∀ key, next.experiments.find key =
        if key = experimentID.toInt then
          (store.experiments.find key).map (ExperimentStore.updated update column)
        else store.experiments.find key := by
  unfold ExperimentStore.setValueInExpInfo ExperimentStore.updated
  cases known : columnIndex column with
  | none =>
    refine ⟨rfl, rfl, fun key => ?_⟩
    simp
  | some index =>
    have unkeyed : index ≠ 0 := fun zero => other (zero ▸ known)
    cases found : store.experiments.find experimentID.toInt with
    | none =>
      refine ⟨rfl, rfl, fun key => ?_⟩
      by_cases same : key = experimentID.toInt <;> simp [same, found]
    | some entry =>
      cases set : ExperimentStore.setColumn update index entry with
      | none =>
        refine ⟨by simp [unkeyed, set], by simp [unkeyed, set], fun key => ?_⟩
        by_cases same : key = experimentID.toInt <;> simp [unkeyed, same, found, set]
      | some next =>
        refine ⟨by simp [unkeyed, set], by simp [unkeyed, set], fun key => ?_⟩
        by_cases same : key = experimentID.toInt <;>
          simp [unkeyed, same, found, set, Table.find_insert]

theorem create_experiments (store : ExperimentStore) (values : Vector String 16) :
    (store.create values).1.experiments = (store.logExperiment values).experiments ∧
      (store.create values).1.sequence = (store.logExperiment values).sequence := by
  unfold ExperimentStore.create
  dsimp only
  split
  · exact ⟨rfl, rfl⟩
  · unfold ExperimentStore.createTableForIterations
    dsimp only
    split <;> exact ⟨rfl, rfl⟩

end LoraEval.App

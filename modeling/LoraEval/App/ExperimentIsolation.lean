import LoraEval.App.ExperimentStore
import Mathlib.Data.List.Induction

namespace LoraEval.App

open LoraEval.Core

/-- What the database holds for one number. -/
structure Slot where
  record : Option Entry
  rows : Option (List (Entries String))

def Slot.empty : Slot := ⟨none, none⟩

def ExperimentStore.slot (store : ExperimentStore) (number : BitVec 32) : Slot :=
  ⟨store.getExperimentInfo number, store.exportedRows number⟩

namespace DatabaseCall

def isCreate : DatabaseCall → Bool
  | .create _ => true
  | _ => false

/-- The call may change the key of a row: its column is a name of the key, or no single
word, which the statement would take as it is. -/
def setsKey : DatabaseCall → Bool
  | .setValueInExpInfo _ column _ => !isIdentifier column || columnIndex column == some 0
  | _ => false

/-- The call names the number, after as many creations. A creation names the number
of the experiment it creates. -/
def names (created : Nat) (number : BitVec 32) : DatabaseCall → Bool
  | .create _ => number.toInt == created + 1
  | .setValueInExpInfo _ _ experimentID => experimentID == number
  | .logReceivedTransmission expNumber _ => expNumber == number
  | .deleteExperiment absPos => absPos == number

def act (number : BitVec 32) (slot : Slot) : DatabaseCall → Slot
  | .create values => ⟨some (newEntry number.toInt.toNat values), some []⟩
  | .setValueInExpInfo update column _ =>
    { slot with record := slot.record.map (ExperimentStore.updated update column) }
  | .logReceivedTransmission _ entries => { slot with rows := slot.rows.map (· ++ [entries]) }
  | .deleteExperiment _ => ⟨none, slot.rows.map fun _ => []⟩

theorem unkeyed {update : Option String} {experimentID : BitVec 32}
    (plain : (DatabaseCall.setValueInExpInfo update column experimentID).setsKey = false) :
    columnIndex column ≠ some 0 := by
  simp only [setsKey, Bool.or_eq_false_iff, beq_eq_false_iff_ne] at plain
  exact plain.2

theorem setsKey_declared (known : column ∈ infoColumns.drop 1) (update : Option String)
    (experimentID : BitVec 32) :
    (DatabaseCall.setValueInExpInfo update column experimentID).setsKey = false := by
  have all : ∀ column ∈ infoColumns.drop 1,
      (!isIdentifier column || columnIndex column == some 0) = false := by decide
  exact all column known

end DatabaseCall

def created (calls : List DatabaseCall) : Nat := calls.countP DatabaseCall.isCreate

def namedFrom (number : BitVec 32) : Nat → List DatabaseCall → List DatabaseCall
  | _, [] => []
  | count, call :: rest =>
    (if call.names count number then [call] else []) ++ namedFrom number (count + created [call]) rest

def named (number : BitVec 32) (calls : List DatabaseCall) : List DatabaseCall := namedFrom number 0 calls

/-- The experiments after the calls are isolated from each other. -/
structure Isolated (affinity : String → Option Int) (calls : List DatabaseCall) : Prop where
  /-- After a creation the last position is the id of the row that was added. -/
  lastPos : ∀ before values, calls = before ++ [.create values] →
    (databaseAfter affinity calls).experiments.rows = (databaseAfter affinity before).experiments.rows ++
        [(((databaseAfter affinity before).nextId : Int),
          newEntry (databaseAfter affinity before).nextId values)] ∧
      (databaseAfter affinity calls).getLastPos.map BitVec.toInt =
        some ((databaseAfter affinity before).nextId : Int)
  /-- That id was never listed before. -/
  neverReused : ∀ before values, calls = before ++ [.create values] → ∀ earlier, earlier <+: before →
    ((databaseAfter affinity before).nextId : Int) ∉ (databaseAfter affinity earlier).experiments.keys
  /-- Every listed experiment has a result table that no other table is. -/
  ownTable : ∀ id ∈ (databaseAfter affinity calls).experiments.keys,
    ((databaseAfter affinity calls).tables (resultTable id)).isSome ∧
      resultTable id ≠ "Experiments" ∧ ∀ other, resultTable other = resultTable id → other = id
  /-- The record and the exported rows come from the calls that named the number. -/
  independent : ∀ number, (databaseAfter affinity calls).slot number =
    (named number calls).foldl (DatabaseCall.act number) .empty
  /-- A deletion leaves every other experiment as it is. -/
  undisturbed : ∀ gone number, number ≠ gone →
    (databaseAfter affinity (calls ++ [.deleteExperiment gone])).slot number =
      (databaseAfter affinity calls).slot number
  /-- An experiment exports only rows that were logged for it since it was created. -/
  ownRows : ∀ before values after, calls = before ++ .create values :: after → ∀ number : BitVec 32,
    number.toInt = (databaseAfter affinity before).nextId → ∀ rows,
      (databaseAfter affinity calls).exportedRows number = some rows →
        ∀ entries ∈ rows, .logReceivedTransmission number entries ∈ after

/-- A smaller id is kept by the conversion to `int`. -/
private theorem toInt_small {id : Int} (least : 0 ≤ id) (small : id < 2 ^ 31) :
    (BitVec.ofInt 32 id).toInt = id := by
  rw [BitVec.toInt_ofInt, Int.bmod_eq_of_le (by omega) (by omega)]

theorem databaseAfter_append (affinity : String → Option Int) (calls : List DatabaseCall)
    (call : DatabaseCall) :
    databaseAfter affinity (calls ++ [call]) = call.perform affinity (databaseAfter affinity calls) := by
  rw [databaseAfter, List.foldl_append]
  rfl

theorem created_append (first second : List DatabaseCall) :
    created (first ++ second) = created first + created second := List.countP_append

theorem created_before {calls rest : List DatabaseCall} (few : created (calls ++ rest) < bound) :
    created calls < bound := by
  rw [created_append] at few
  omega

theorem plain_before {calls rest : List DatabaseCall}
    (plain : ∀ call ∈ calls ++ rest, call.setsKey = false) : ∀ call ∈ calls, call.setsKey = false :=
  fun call member => plain call (List.mem_append_left rest member)

private theorem namedFrom_append (number : BitVec 32) (first second : List DatabaseCall) (count : Nat) :
    namedFrom number count (first ++ second) =
      namedFrom number count first ++ namedFrom number (count + created first) second := by
  induction first generalizing count with
  | nil => rfl
  | cons call rest ih =>
    have total : created (call :: rest) = created [call] + created rest := created_append [call] rest
    rw [List.cons_append, namedFrom, namedFrom, ih, List.append_assoc, total, Nat.add_assoc]

theorem named_append (number : BitVec 32) (calls : List DatabaseCall) (call : DatabaseCall) :
    named number (calls ++ [call]) =
      named number calls ++ if call.names (created calls) number then [call] else [] := by
  rw [named, namedFrom_append, Nat.zero_add]
  simp [namedFrom, named]

/-- The ids that were given out are the numbers of creations. -/
structure Numbered (calls : List DatabaseCall) (store : ExperimentStore) : Prop where
  sequence : store.sequence = created calls
  bounded : ∀ id ∈ store.experiments.keys, 0 < id ∧ id ≤ created calls

namespace Numbered

variable {calls : List DatabaseCall} {store : ExperimentStore}

theorem nextId (numbered : Numbered calls store) : store.nextId = created calls + 1 := by
  have last : (store.experiments.lastKey.getD 0).toNat ≤ created calls := by
    cases shape : store.experiments.lastKey with
    | none => simp
    | some id =>
      have bound := (numbered.bounded id (List.mem_of_getLast? shape)).2
      simp only [Option.getD_some]
      omega
  rw [ExperimentStore.nextId, numbered.sequence, Nat.max_eq_left last]

theorem above (numbered : Numbered calls store) :
    ∀ id ∈ store.experiments.keys, id < (store.nextId : Int) := by
  intro id listed
  have bound := (numbered.bounded id listed).2
  rw [numbered.nextId]
  omega

theorem logExperiment (numbered : Numbered calls store) (room : created calls + 1 < 2 ^ 63)
    (values : Vector String 16) :
    store.logExperiment values =
      { store with
        experiments := store.experiments.insert store.nextId (newEntry store.nextId values)
        sequence := store.nextId } := by
  rw [ExperimentStore.logExperiment, if_neg (by rw [numbered.nextId]; omega)]

theorem getLastPos (numbered : Numbered calls store) (room : created calls + 1 < 2 ^ 63)
    (values : Vector String 16) :
    (store.logExperiment values).getLastPos = some (BitVec.ofInt 32 (created calls + 1 : Nat)) := by
  rw [numbered.logExperiment room, ExperimentStore.getLastPos,
    Table.lastKey_insert_above _ numbered.above, numbered.nextId]
  rfl

end Numbered

theorem Numbered.perform {calls : List DatabaseCall} {call : DatabaseCall} {store : ExperimentStore}
    (numbered : Numbered calls store)
    (affinity : String → Option Int) (plain : call.setsKey = false)
    (room : created (calls ++ [call]) < 2 ^ 63) :
    Numbered (calls ++ [call]) (call.perform affinity store) := by
  have kept (same : created [call] = 0) {next : ExperimentStore} (sequence : next.sequence = store.sequence)
      (keys : ∀ id, (next.experiments.find id).isSome → (store.experiments.find id).isSome) :
      Numbered (calls ++ [call]) next := by
    have total : created (calls ++ [call]) = created calls := by rw [created_append, same, Nat.add_zero]
    refine ⟨by rw [sequence, numbered.sequence, total], fun id listed => ?_⟩
    rw [total]
    exact numbered.bounded id ((Table.mem_keys_iff _ id).mpr (keys id ((Table.mem_keys_iff _ id).mp listed)))
  cases call with
  | create values =>
    have total : created (calls ++ [.create values]) = created calls + 1 := created_append calls _
    rw [total] at room
    obtain ⟨experiments, sequence⟩ := create_experiments store values
    rw [numbered.logExperiment room] at experiments sequence
    refine ⟨?_, fun id listed => ?_⟩
    · rw [total, ← numbered.nextId]
      exact sequence
    · rw [DatabaseCall.perform, experiments, Table.mem_keys_iff, Table.find_insert] at listed
      rw [total]
      split at listed
      · rename_i same
        rw [same, numbered.nextId]
        omega
      · have bound := numbered.bounded id ((Table.mem_keys_iff _ id).mpr listed)
        omega
  | setValueInExpInfo update column experimentID =>
    have other := DatabaseCall.unkeyed plain
    obtain ⟨-, sequence, found⟩ := setValueInExpInfo_spec affinity store update other experimentID
    refine kept rfl sequence fun id listed => ?_
    rw [DatabaseCall.perform, found] at listed
    split at listed
    · simpa using listed
    · exact listed
  | logReceivedTransmission expNumber entries => exact kept rfl rfl fun id listed => listed
  | deleteExperiment absPos =>
    refine kept rfl rfl fun id listed => ?_
    have removed : ((store.experiments.remove absPos.toInt).find id).isSome := listed
    rw [Table.find_remove] at removed
    split at removed
    · simp at removed
    · exact removed

theorem databaseAfter_numbered (affinity : String → Option Int) {calls : List DatabaseCall}
    (plain : ∀ call ∈ calls, call.setsKey = false) (room : created calls < 2 ^ 63) :
    Numbered calls (databaseAfter affinity calls) := by
  induction calls using List.reverseRecOn with
  | nil => exact ⟨rfl, by simp [databaseAfter, ExperimentStore.empty, Table.empty, Table.keys]⟩
  | append_singleton calls call ih =>
    rw [databaseAfter_append]
    exact (ih (plain_before plain) (created_before room)).perform affinity (plain call (by simp)) room

/-- Listed experiments have result tables, numbers not yet given out have none. -/
structure Separate (calls : List DatabaseCall) (store : ExperimentStore) : Prop extends
    Numbered calls store where
  tables : ∀ number, (store.getExperimentInfo number).isSome → (store.exportedRows number).isSome
  absent : ∀ number : BitVec 32, created calls < number.toInt → store.exportedRows number = none

namespace Separate

variable {calls : List DatabaseCall} {call : DatabaseCall} {store : ExperimentStore}

/-- A creation adds the empty result table of the new experiment. -/
theorem create_tables (separate : Separate calls store) (few : created calls + 1 < 2 ^ 31)
    (values : Vector String 16) :
    (store.create values).1.tables =
      Function.update store.tables (resultTable (created calls + 1 : Nat)) (some []) := by
  have last := separate.getLastPos (by omega) values
  have whole : (BitVec.ofInt 32 (created calls + 1 : Nat)).toInt = (created calls + 1 : Nat) :=
    toInt_small (by omega) (by omega)
  have word : isIdentifier (resultTable (created calls + 1 : Nat)) = true :=
    (isIdentifier_resultTable _).mpr (Int.natCast_nonneg _)
  have unused : store.tables (resultTable (created calls + 1 : Nat)) = none := by
    have none := separate.absent (BitVec.ofInt 32 (created calls + 1 : Nat)) (by omega)
    rwa [ExperimentStore.exportedRows, whole] at none
  rw [ExperimentStore.create, last, separate.logExperiment (by omega)]
  simp only [ExperimentStore.createTableForIterations, whole, word, unused, if_true, Option.getD_none]

/-- Result rows change only in the table of the number a call names. -/
theorem exportedRows (separate : Separate calls store) (affinity : String → Option Int)
    (plain : call.setsKey = false) (few : created (calls ++ [call]) < 2 ^ 31) (number : BitVec 32) :
    (call.perform affinity store).exportedRows number =
      if call.names (created calls) number then (call.act number (store.slot number)).rows
      else store.exportedRows number := by
  cases call with
  | create values =>
    rw [created_append] at few
    rw [DatabaseCall.perform, ExperimentStore.exportedRows, separate.create_tables few, Function.update_apply]
    simp [resultTable_inj, DatabaseCall.names, DatabaseCall.act, ExperimentStore.exportedRows]
  | setValueInExpInfo update column experimentID =>
    have other := DatabaseCall.unkeyed plain
    rw [DatabaseCall.perform, ExperimentStore.exportedRows,
      (setValueInExpInfo_spec affinity store update other experimentID).1]
    simp [DatabaseCall.act, ExperimentStore.slot, ExperimentStore.exportedRows]
  | logReceivedTransmission expNumber entries =>
    rw [DatabaseCall.perform, exportedRows_logReceivedTransmission]
    by_cases named : expNumber = number <;>
      simp [DatabaseCall.names, DatabaseCall.act, ExperimentStore.slot, named]
  | deleteExperiment absPos =>
    rw [DatabaseCall.perform, exportedRows_deleteExperiment]
    by_cases named : absPos = number <;>
      simp [DatabaseCall.names, DatabaseCall.act, ExperimentStore.slot, named]

theorem getExperimentInfo (separate : Separate calls store) (affinity : String → Option Int)
    (plain : call.setsKey = false) (few : created (calls ++ [call]) < 2 ^ 31) (number : BitVec 32) :
    (call.perform affinity store).getExperimentInfo number =
      if call.names (created calls) number then (call.act number (store.slot number)).record
      else store.getExperimentInfo number := by
  cases call with
  | create values =>
    rw [created_append] at few
    rw [DatabaseCall.perform, ExperimentStore.getExperimentInfo, (create_experiments store values).1,
      separate.logExperiment (by omega), Table.find_insert, separate.nextId, Nat.cast_add, Nat.cast_one]
    by_cases new : number.toInt = created calls + 1
    · have whole : ((created calls : Int) + 1).toNat = created calls + 1 := rfl
      simp [DatabaseCall.names, DatabaseCall.act, new, whole]
    · simp [DatabaseCall.names, ExperimentStore.getExperimentInfo, new]
  | setValueInExpInfo update column experimentID =>
    have other := DatabaseCall.unkeyed plain
    rw [DatabaseCall.perform, ExperimentStore.getExperimentInfo,
      (setValueInExpInfo_spec affinity store update other experimentID).2.2]
    by_cases named : experimentID = number
    · simp [DatabaseCall.names, DatabaseCall.act, ExperimentStore.slot, ExperimentStore.getExperimentInfo,
        named]
    · have different : number.toInt ≠ experimentID.toInt := fun same => named (BitVec.toInt_inj.mp same).symm
      simp [DatabaseCall.names, ExperimentStore.getExperimentInfo, named, different]
  | logReceivedTransmission expNumber entries =>
    rw [DatabaseCall.perform, getExperimentInfo_logReceivedTransmission]
    simp [DatabaseCall.act, ExperimentStore.slot]
  | deleteExperiment absPos =>
    rw [DatabaseCall.perform, getExperimentInfo_deleteExperiment]
    by_cases named : absPos = number <;> simp [DatabaseCall.names, DatabaseCall.act, named]

/-- One call acts on the slot of the number it names and on no other. -/
theorem slot (separate : Separate calls store) (affinity : String → Option Int)
    (plain : call.setsKey = false) (few : created (calls ++ [call]) < 2 ^ 31) (number : BitVec 32) :
    (call.perform affinity store).slot number =
      if call.names (created calls) number then call.act number (store.slot number)
      else store.slot number := by
  rw [ExperimentStore.slot, separate.getExperimentInfo affinity plain few,
    separate.exportedRows affinity plain few]
  split <;> rfl

/-- One call keeps listed experiments and result tables together. -/
theorem perform (separate : Separate calls store) (affinity : String → Option Int)
    (plain : call.setsKey = false) (few : created (calls ++ [call]) < 2 ^ 31) :
    Separate (calls ++ [call]) (call.perform affinity store) := by
  refine ⟨separate.toNumbered.perform affinity plain (by omega), fun number listed => ?_,
    fun number large => ?_⟩
  · rw [separate.getExperimentInfo affinity plain few] at listed
    rw [separate.exportedRows affinity plain few]
    have before := separate.tables number
    split at listed
    · rename_i named
      rw [if_pos named]
      cases call <;> simp_all [DatabaseCall.act, ExperimentStore.slot]
    · rename_i other
      rw [if_neg other]
      exact before listed
  · rw [created_append] at large
    have before := separate.absent number (by omega)
    rw [separate.exportedRows affinity plain few]
    split
    · rename_i named
      cases call with
      | create values =>
        have one : created [.create values] = 1 := rfl
        have next : number.toInt = created calls + 1 := by simpa [DatabaseCall.names] using named
        omega
      | setValueInExpInfo update column experimentID => exact before
      | logReceivedTransmission expNumber entries => simp [DatabaseCall.act, ExperimentStore.slot, before]
      | deleteExperiment absPos => simp [DatabaseCall.act, ExperimentStore.slot, before]
    · exact before

end Separate

section

variable {affinity : String → Option Int} {calls : List DatabaseCall}

theorem databaseAfter_separate (affinity : String → Option Int)
    (plain : ∀ call ∈ calls, call.setsKey = false) (few : created calls < 2 ^ 31) :
    Separate calls (databaseAfter affinity calls) := by
  induction calls using List.reverseRecOn with
  | nil =>
    refine ⟨databaseAfter_numbered affinity plain (by omega), fun number listed => ?_, fun _ _ => rfl⟩
    exact absurd listed (by simp [databaseAfter, ExperimentStore.empty, ExperimentStore.getExperimentInfo])
  | append_singleton calls call ih =>
    rw [databaseAfter_append]
    exact (ih (plain_before plain) (created_before few)).perform affinity (plain call (by simp)) few

/-- A number's slot is made by the calls that named it, one after another. -/
theorem databaseAfter_slot (affinity : String → Option Int)
    (plain : ∀ call ∈ calls, call.setsKey = false) (few : created calls < 2 ^ 31) (number : BitVec 32) :
    (databaseAfter affinity calls).slot number =
      (named number calls).foldl (DatabaseCall.act number) .empty := by
  induction calls using List.reverseRecOn with
  | nil => rfl
  | append_singleton calls call ih =>
    have separate := databaseAfter_separate affinity (plain_before plain) (created_before few)
    rw [databaseAfter_append, separate.slot affinity (plain call (by simp)) few, named_append,
      List.foldl_append, ih (plain_before plain) (created_before few)]
    split <;> rfl

theorem databaseAfter_create (numbered : Numbered calls (databaseAfter affinity calls))
    (room : created calls + 1 < 2 ^ 63) (values : Vector String 16) :
    (databaseAfter affinity (calls ++ [.create values])).experiments.rows =
        (databaseAfter affinity calls).experiments.rows ++
          [(((databaseAfter affinity calls).nextId : Int),
            newEntry (databaseAfter affinity calls).nextId values)] ∧
      (databaseAfter affinity (calls ++ [.create values])).getLastPos =
        some (BitVec.ofInt 32 (created calls + 1 : Nat)) := by
  obtain ⟨experiments, -⟩ := create_experiments (databaseAfter affinity calls) values
  rw [databaseAfter_append, DatabaseCall.perform]
  constructor
  · rw [experiments, numbered.logExperiment room]
    exact Table.insert_above _ numbered.above _
  · rw [← numbered.getLastPos room values, ExperimentStore.getLastPos, experiments]
    rfl

/-- The id of the next experiment is above all ids that were ever listed. -/
theorem nextId_fresh (plain : ∀ call ∈ before, call.setsKey = false) (room : created before < 2 ^ 63)
    (start : earlier <+: before) :
    ((databaseAfter affinity before).nextId : Int) ∉ (databaseAfter affinity earlier).experiments.keys := by
  intro listed
  obtain ⟨rest, rfl⟩ := start
  have now := (databaseAfter_numbered affinity plain room).nextId
  have past := databaseAfter_numbered affinity (plain_before plain) (created_before room)
  have bound := (past.bounded _ listed).2
  rw [created_append] at now
  omega

theorem ownTable_of_listed {key : Int} (plain : ∀ call ∈ calls, call.setsKey = false)
    (few : created calls < 2 ^ 31) (listed : key ∈ (databaseAfter affinity calls).experiments.keys) :
    ((databaseAfter affinity calls).tables (resultTable key)).isSome := by
  have separate := databaseAfter_separate affinity plain few
  obtain ⟨positive, bound⟩ := separate.bounded key listed
  have whole : (BitVec.ofInt 32 key).toInt = key := toInt_small (by omega) (by omega)
  have row := (Table.mem_keys_iff _ key).mp listed
  have table := separate.tables (BitVec.ofInt 32 key) (by rwa [ExperimentStore.getExperimentInfo, whole])
  rwa [ExperimentStore.exportedRows, whole] at table

/-- The result rows of an experiment after its creation, by induction on the calls since. -/
theorem exportedRows_logged {number : BitVec 32}
    (plain : ∀ call ∈ before ++ .create values :: after, call.setsKey = false)
    (few : created (before ++ .create values :: after) < 2 ^ 31)
    (new : number.toInt = (databaseAfter affinity before).nextId)
    (exported : (databaseAfter affinity (before ++ .create values :: after)).exportedRows number = some rows)
    (member : entries ∈ rows) : .logReceivedTransmission number entries ∈ after := by
  induction after using List.reverseRecOn generalizing rows with
  | nil =>
    have separate := databaseAfter_separate affinity (plain_before plain) (created_before few)
    rw [databaseAfter_append, separate.exportedRows affinity (plain _ (by simp)) few,
      if_pos (by simp [DatabaseCall.names, new, separate.nextId])] at exported
    have none : rows = [] := (Option.some.inj exported).symm
    simp [none] at member
  | append_singleton after call ih =>
    have regroup : before ++ .create values :: (after ++ [call]) =
        (before ++ .create values :: after) ++ [call] := by simp
    rw [regroup] at plain few exported
    have earlier := plain_before plain
    have least := created_before few
    have separate := databaseAfter_separate affinity earlier least
    rw [databaseAfter_append, separate.exportedRows affinity (plain call (by simp)) few] at exported
    refine List.mem_append.mpr ?_
    split at exported
    · rename_i named
      cases call with
      | create values =>
        have none : rows = [] := (Option.some.inj exported).symm
        simp [none] at member
      | setValueInExpInfo update column experimentID => exact .inl (ih earlier least exported member)
      | logReceivedTransmission expNumber added =>
        obtain rfl : expNumber = number := by simpa [DatabaseCall.names] using named
        obtain ⟨older, held, rfl⟩ := Option.map_eq_some_iff.mp exported
        rcases List.mem_append.mp member with old | last
        · exact .inl (ih earlier least held old)
        · obtain rfl := List.mem_singleton.mp last
          exact .inr (List.mem_singleton_self _)
      | deleteExperiment absPos =>
        obtain ⟨older, held, rfl⟩ := Option.map_eq_some_iff.mp exported
        simp at member
    · exact .inl (ih earlier least exported member)

end

/-- As long as fewer than 2 ^ 31 experiments were created and no call changed a key,
the experiments are isolated. -/
theorem experiments_isolated (affinity : String → Option Int) (calls : List DatabaseCall)
    (few : created calls < 2 ^ 31) (plain : ∀ call ∈ calls, call.setsKey = false) :
    Isolated affinity calls where
  lastPos := by
    rintro before values rfl
    have least : created before + 1 < 2 ^ 31 := by rwa [created_append] at few
    have numbered := databaseAfter_numbered affinity (plain_before plain)
      (show created before < 2 ^ 63 by omega)
    obtain ⟨rows, last⟩ := databaseAfter_create numbered (by omega) values
    refine ⟨rows, ?_⟩
    rw [last, numbered.nextId, Option.map_some, toInt_small (by omega) (by omega)]
  neverReused := by
    rintro before values rfl earlier start
    have least := created_before few
    exact nextId_fresh (plain_before plain) (by omega) start
  ownTable := by
    intro id listed
    exact ⟨ownTable_of_listed plain few listed, resultTable_ne_experiments id,
      fun other same => resultTable_inj.mp same⟩
  independent := databaseAfter_slot affinity plain few
  undisturbed := by
    intro gone number different
    have deletion : created (calls ++ [.deleteExperiment gone]) = created calls := created_append calls _
    rw [databaseAfter_append, (databaseAfter_separate affinity plain few).slot affinity rfl
      (by rwa [deletion]), if_neg (by simpa [DatabaseCall.names] using Ne.symm different)]
  ownRows := by
    rintro before values after rfl number new rows exported entries member
    exact exportedRows_logged plain few new exported member

theorem experiments_isolated_sample :
    Isolated (fun _ => none) [.create (.replicate 16 "1"), .create (.replicate 16 "2"),
      .logReceivedTransmission 1 (.replicate 5 (some "0")), .setValueInExpInfo (some "ready") "state" 2,
      .deleteExperiment 1, .create (.replicate 16 "3"), .logReceivedTransmission 3 (.replicate 5 none)] :=
  experiments_isolated _ _ (by decide) (by decide)

/-- After creations only, the last position is right while the conversion to `int` is. -/
private theorem creations_lastPos {n : Nat} (room : n + 1 < 2 ^ 63)
    (isolated : Isolated affinity (List.replicate n (.create values) ++ [.create values])) :
    (BitVec.ofInt 32 (n + 1 : Nat)).toInt = (n + 1 : Nat) := by
  have count : created (List.replicate n (.create values)) = n := by
    rw [created, List.countP_replicate]
    rfl
  have numbered := databaseAfter_numbered affinity
    (fun call (member : call ∈ List.replicate n (.create values)) => by
      rw [List.eq_of_mem_replicate member]
      rfl) (by omega)
  have last := (isolated.lastPos _ values rfl).2
  rw [(databaseAfter_create numbered (by omega) values).2, numbered.nextId, count] at last
  exact Option.some.inj last

private theorem record_moved (five : affinity "5" = some 5) (values : Vector String 16) :
    (databaseAfter affinity
      ([.create values] ++ [.setValueInExpInfo (some "5") "_id" 1])).getExperimentInfo 5 =
      some ((newEntry 1 values).setIfInBounds 0 (some "5")) := by
  have plain : ∀ call ∈ [DatabaseCall.create values], call.setsKey = false := by simp [DatabaseCall.setsKey]
  have numbered := databaseAfter_numbered affinity plain (show 1 < 2 ^ 63 by decide)
  have slot := databaseAfter_slot affinity plain (show 1 < 2 ^ 31 by decide) 1
  have first : (1 : BitVec 32).toInt = 1 := rfl
  have own : named 1 [.create values] = [.create values] := by simp [named, namedFrom, DatabaseCall.names]
  have record : (databaseAfter affinity [.create values]).experiments.find 1 = some (newEntry 1 values) := by
    rw [own, ExperimentStore.slot, ExperimentStore.getExperimentInfo, List.foldl_cons, List.foldl_nil,
      DatabaseCall.act, first] at slot
    exact (Slot.mk.inj slot).1
  have free : (databaseAfter affinity [.create values]).experiments.find 5 = none := by
    rw [← Option.not_isSome_iff_eq_none, ← Table.mem_keys_iff]
    intro listed
    exact absurd (numbered.bounded 5 listed).2 (by simp [created, DatabaseCall.isCreate])
  have known : columnIndex "_id" = some 0 := by decide
  rw [databaseAfter_append, DatabaseCall.perform, ExperimentStore.setValueInExpInfo, known, first]
  simp only [record, if_true, ExperimentStore.setKey, Option.bind_some, five, free, Option.isSome_none,
    Bool.false_eq_true, and_false, if_false, ExperimentStore.getExperimentInfo]
  rw [Table.find_insert, if_pos (by decide)]
  rfl

/-- The experiment number 2 ^ 31 is not where `getLastPos` says. Giving experiment 1
the key 5 makes a record for 5 that no call named. -/
theorem isolation_lost :
    ¬ Isolated (fun text => readSigned Java.digit '-' '+' text.toList)
        (List.replicate (2 ^ 31 - 1) (.create (.replicate 16 "1")) ++ [.create (.replicate 16 "1")]) ∧
      ¬ Isolated (fun text => readSigned Java.digit '-' '+' text.toList)
        ([.create (.replicate 16 "1")] ++ [.setValueInExpInfo (some "5") "_id" 1]) := by
  constructor
  · intro isolated
    exact absurd (creations_lastPos (by decide) isolated) (by decide)
  · intro isolated
    have five : readSigned Java.digit '-' '+' "5".toList = some 5 := readSigned_decimal Java.digit_ascii 5
    have unnamed :
        named 5 ([.create (.replicate 16 "1")] ++ [.setValueInExpInfo (some "5") "_id" 1]) = [] := by
      simp [named, namedFrom, DatabaseCall.names]
    have slot := isolated.independent 5
    rw [unnamed, ExperimentStore.slot, record_moved five] at slot
    simp [Slot.empty] at slot

end LoraEval.App

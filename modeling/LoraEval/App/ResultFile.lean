import LoraEval.App.ResultLog
import LoraEval.Core.Csv

namespace LoraEval.App

open LoraEval.Core LoraEval.Core.Csv

/-- A text of Java: characters, and surrogates that `substring` has cut from their
other half. -/
inductive JavaChar where
  | code (char : Char)
  | unpaired (unit : Fin 2048)
deriving DecidableEq, Repr

abbrev JavaText := List JavaChar

/-- The number of `char`s. -/
def JavaChar.size : JavaChar → Nat
  | .code char => if char.val < 0x10000 then 1 else 2
  | .unpaired _ => 1

/-- `getBytes` writes a question mark for what it cannot encode. -/
def JavaChar.written : JavaChar → Char
  | .code char => char
  | .unpaired _ => '?'

def javaText (text : String) : JavaText := text.toList.map .code

/-- A row as `logReceivedTransmission` stores it when no field is null. The
identifier is `substring(0, 10)` of a received text. -/
structure LoggedRow where
  totalNumber : BitVec 32
  identifier : JavaText
  rssi : Byte
  snr : Byte
  bitErrors : Byte
  ten : (identifier.map JavaChar.size).sum = 10

def LoggedRow.columns (row : LoggedRow) : List JavaText :=
  [javaText (toString row.totalNumber.toInt), row.identifier, javaText ("-" ++ toString row.rssi.toNat),
    javaText (Java.byteToString row.snr), javaText (toString row.bitErrors.toNat)]

def resultColumns : List String := ["totalnumber", "identifier", "rssi", "snr", "biterrors"]

def makeCSV (rows : List (List JavaText)) : List Char :=
  (resultColumns.map javaText :: rows).flatMap fun row => writeRecord (row.map (·.map JavaChar.written))

def ColumnText (column : Nat) (text : String) : Prop :=
  match column with
  | 0 => ∃ total : BitVec 32, text = toString total.toInt
  | 1 => ((javaText text).map JavaChar.size).sum = 10
  | 2 => ∃ rssi : Byte, text = "-" ++ toString rssi.toNat
  | 3 => ∃ snr : Byte, text = Java.byteToString snr
  | 4 => ∃ bitErrors : Byte, text = toString bitErrors.toNat
  | _ => False

def Shaped (entries : Entries String) : Prop :=
  ∀ column text, entries[column]? = some (some text) → ColumnText column text

theorem shaped_empty : Shaped (Vector.replicate 5 none) := by
  intro column text found
  simp [Vector.getElem?_replicate] at found

theorem Shaped.set (shaped : Shaped entries) (fits : ColumnText column text) :
    Shaped (entries.setIfInBounds column (some text)) := by
  intro other value found
  by_cases same : column = other
  · subst same
    by_cases inside : column < 5
    · rw [Vector.getElem?_setIfInBounds_self_of_lt inside] at found
      cases found
      exact fits
    · rw [Vector.getElem?_eq_none (by omega)] at found
      cases found
  · rw [Vector.getElem?_setIfInBounds_ne same] at found
    exact shaped other value found

def Fields.Shaped : Fields String → Prop
  | .statistics rssi snr bitErrors => ColumnText 2 rssi ∧ ColumnText 3 snr ∧ ColumnText 4 bitErrors
  | .message totalNumber identifier => ColumnText 0 totalNumber ∧ ColumnText 1 identifier

theorem Shaped.fill (shaped : Shaped entries) {fields : Fields String} (fits : fields.Shaped) :
    Shaped (fields.fill entries) := by
  cases fields with
  | statistics rssi snr bitErrors =>
    obtain ⟨rssi, snr, bitErrors⟩ := fits
    exact ((shaped.set rssi).set snr).set bitErrors
  | message totalNumber identifier =>
    obtain ⟨totalNumber, identifier⟩ := fits
    exact (shaped.set totalNumber).set identifier

theorem shaped_run {events : List (Option (Fields String))}
    (fits : ∀ fields, some fields ∈ events → fields.Shaped)
    (started : ∀ entries ∈ log.dbEntries, Shaped entries) (logged : ∀ row ∈ log.rows, Shaped row) :
    ∀ row ∈ (ResultLog.run events log).rows, Shaped row := by
  induction events generalizing log with
  | nil => exact logged
  | cons event rest ih =>
    have later : ∀ fields, some fields ∈ rest → fields.Shaped :=
      fun fields member => fits fields (List.mem_cons_of_mem _ member)
    cases event with
    | none => exact logged
    | some fields =>
      have fit := fits fields List.mem_cons_self
      rw [ResultLog.run, ResultLog.receive]
      cases half : log.dbEntries with
      | none =>
        apply ih later
        · intro entries found
          cases found
          exact shaped_empty.fill fit
        · exact logged
      | some entries =>
        apply ih later
        · simp
        · intro row member
          rcases List.mem_append.mp member with old | new
          · exact logged row old
          · rw [List.mem_singleton.mp new]
            exact (started entries half).fill fit

theorem statisticsFields_shaped (read : statisticsFields bytes = some fields) : fields.Shaped := by
  simp only [statisticsFields, Option.bind_eq_bind, Option.bind_eq_some_iff] at read
  obtain ⟨rssi, -, snr, -, bitErrors, -, same⟩ := read
  cases same
  rw [makeByteUnsigned_eq, makeByteUnsigned_eq]
  exact ⟨⟨rssi, rfl⟩, ⟨snr, rfl⟩, ⟨bitErrors, rfl⟩⟩

section

variable {decode : List Byte → Option String}
  (ten : ∀ content text, decode content = some text → ColumnText 1 text)

include ten

theorem messageFields_shaped {messages : BitVec 32}
    (read : messageFields decode messages content = some fields) : fields.Shaped := by
  simp only [messageFields, totalNumber, Option.bind_eq_bind, Option.bind_eq_some_iff] at read
  obtain ⟨total, ⟨number, -, iteration, -, sum⟩, identifier, decoded, same⟩ := read
  cases sum
  cases same
  exact ⟨⟨_, rfl⟩, ten content _ decoded⟩

theorem resultEvent_shaped {messages : BitVec 32}
    (event : resultEvent decode messages bytes = some (some fields)) : fields.Shaped := by
  unfold resultEvent at event
  split at event
  · exact statisticsFields_shaped (Option.some.inj event)
  · exact messageFields_shaped ten (Option.some.inj event)
  · cases event
  · cases event

/-- Every row that is logged with all its fields is one of these rows. -/
theorem loggedRow_of_entries {messages : BitVec 32}
    (logged : row ∈ resultEntries decode messages notifications)
    (full : ∀ column < 5, ∃ text, row[column]? = some (some text)) :
    ∃ stored : LoggedRow, ∀ column < 5, ∃ text, row[column]? = some (some text) ∧
      stored.columns[column]? = some (javaText text) := by
  have shaped : Shaped row := by
    refine shaped_run ?_ (by simp) (by simp) row logged
    intro fields member
    obtain ⟨bytes, -, event⟩ := List.mem_filterMap.mp member
    exact resultEvent_shaped ten event
  obtain ⟨number, total⟩ := full 0 (by decide)
  obtain ⟨identifier, named⟩ := full 1 (by decide)
  obtain ⟨strength, received⟩ := full 2 (by decide)
  obtain ⟨ratio, noise⟩ := full 3 (by decide)
  obtain ⟨errors, counted⟩ := full 4 (by decide)
  obtain ⟨totalNumber, rfl⟩ := shaped 0 _ total
  obtain ⟨rssi, rfl⟩ := shaped 2 _ received
  obtain ⟨snr, rfl⟩ := shaped 3 _ noise
  obtain ⟨bitErrors, rfl⟩ := shaped 4 _ counted
  refine ⟨⟨totalNumber, javaText identifier, rssi, snr, bitErrors, shaped 1 _ named⟩, ?_⟩
  intro column inside
  interval_cases column
  · exact ⟨_, total, rfl⟩
  · exact ⟨_, named, rfl⟩
  · exact ⟨_, received, rfl⟩
  · exact ⟨_, noise, rfl⟩
  · exact ⟨_, counted, rfl⟩

end

end LoraEval.App

import LoraEval.App.Number

namespace LoraEval.App

open LoraEval.Core

namespace Column

def numberOfMessages : Nat := 1
def timeBetweenMsgs : Nat := 2
def msgLength : Nat := 3
def autoIncrement : Nat := 5
def frequencies : Nat := 12
def bandwidths : Nat := 13
def spreadingFactors : Nat := 14
def codingRates : Nat := 15
def powers : Nat := 16

end Column

/-- One row of the table: 34 columns with the row id, a null column being `none`. -/
abbrev Entry := Vector (Option String) 34

def Entry.get (entry : Entry) (column : Nat) : Option String := entry[column]?.join

/-- Parse one column; a null column has no number format. -/
def Entry.parse (parser : String → Except Java.Exception α) (entry : Entry) (column : Nat) :
    Except Java.Exception α :=
  match entry.get column with
  | some text => parser text
  | none => .error .numberFormat

theorem Entry.parse_column {entry : Entry} (found : entry.get column = some text)
    (parser : String → Except Java.Exception α) : entry.parse parser column = parser text := by
  rw [Entry.parse, found]

/-- `logExperiment`: the columns known at creation; the others stay null. -/
def logExperiment (rowId : Nat) (numberOfMessages timeBetweenMsgs msgLength payloadSeed autoIncrement
    description targetDistance senderHeight receiverHeight environment state
    frequencies bandwidths spreadingFactors codingRates powers : String) : Entry :=
  #v[some (toString rowId), some numberOfMessages, some timeBetweenMsgs, some msgLength,
    some payloadSeed, some autoIncrement, some description, some targetDistance, some senderHeight,
    some receiverHeight, some environment, some state, some frequencies, some bandwidths,
    some spreadingFactors, some codingRates, some powers, none, none, none, none, none, none, none,
    none, none, none, none, none, none, none, none, none, none]

def infoColumns : List String :=
  ["_id", "number_of_messages", "time_between_msgs", "msg_length", "payload_seed", "auto_increment",
    "description", "target_distance", "sender_height", "receiver_height", "environment", "state",
    "frequencies", "bandwidths", "spreading_factors", "coding_rates", "powers", "number_of_iterations",
    "duration", "start_time", "sender_latitude", "sender_longitude", "sender_altitude",
    "receiver_latitude", "receiver_longitude", "receiver_altitude", "actual_distance",
    "altitude_difference", "temperature_values", "humidity_values", "pressure_values",
    "weather_descriptions", "sender_orientation", "receiver_orientation"]

/-- The column a word names in a statement. SQLite ignores the case of letters, and the
key of a table has three names more. -/
def columnIndex (name : String) : Option Nat :=
  let word := name.toList.map Char.toLower
  if word ∈ ["rowid", "oid", "_rowid_"].map String.toList then some 0
  else (infoColumns.map String.toList).idxOf? word

theorem columnIndex_declared (known : column ∈ infoColumns) :
    columnIndex column = some (infoColumns.idxOf column) := by
  have all : ∀ column ∈ infoColumns, columnIndex column = some (infoColumns.idxOf column) := by decide
  exact all column known

/-- `setValueInExpInfo`: an unknown column is a database error. -/
def setValueInExpInfo (update column : String) (entry : Entry) : Option Entry :=
  (columnIndex column).map fun index => entry.setIfInBounds index (some update)

theorem setValueInExpInfo_declared (known : column ∈ infoColumns) (update : String) (entry : Entry) :
    setValueInExpInfo update column entry =
      some (entry.setIfInBounds (infoColumns.idxOf column) (some update)) := by
  rw [setValueInExpInfo, columnIndex_declared known, Option.map_some]

/-- `makeExpInfoText`: one column a line; Java writes a null column as a word. -/
def makeExpInfoText (entry : Entry) : List Char :=
  entry.toList.flatMap fun column => (column.getD "null").toList ++ ['\n']

end LoraEval.App

import LoraEval.Graphs.InputFiles
import LoraEval.Graphs.OrderedRows

namespace LoraEval.Graphs

open LoraEval.Core LoraEval.Core.Csv

/-- `row[name]`. A name or a field that is missing is an exception. -/
def field (name : String) (row : DictRow (List Char)) : Option String :=
  (row.values.find? fun value => value.1 = name.toList) >>= fun value => value.2.map String.ofList

/-- The extraction loop: rows with the total number text of the row before are skipped. -/
def readRows : Option String → List (DictRow (List Char)) → Option (List KeptRow)
  | _, [] => some []
  | last, row :: rest => do
    let totalnumber ← field "totalnumber" row
    if some totalnumber = last then readRows last rest
    else do
      let identifier ← field "identifier" row
      let rssi ← field "rssi" row >>= int
      let snr ← field "snr" row >>= int
      let biterrors ← field "biterrors" row >>= int
      let others ← readRows (some totalnumber) rest
      return ⟨totalnumber, identifier, rssi, snr, biterrors⟩ :: others

def resultRows (file : List Char) : Option (List KeptRow) := readResults file >>= readRows none

/-- `exp_params` by position. -/
def expParam (params : List (List Char)) (position : Nat) : Option String :=
  params[position]?.map String.ofList

/-- `process_data` from the two files of an experiment to the iterations. -/
def processFiles (converts : Nat → List Char → Bool) (toDistance : String → Option Int)
    (info results : List Char) : Option (List IterationData) := do
  let params ← readInfo converts info
  let rows ← resultRows results
  processData toDistance (expParam params) rows

def ResultRow.record (row : ResultRow) : DictRow (List Char) :=
  .ofRecord (["totalnumber", "identifier", "rssi", "snr", "biterrors"].map String.toList)
    ([row.totalnumber, row.identifier, row.rssi, row.snr, row.biterrors].map String.toList)

theorem readRows_eq (last : Option String) (rows : List ResultRow) :
    readRows last (rows.map ResultRow.record) = extractRows last rows := by
  induction rows generalizing last with
  | nil => rfl
  | cons row rest ih =>
    have text (name : String) (value : String)
        (found : (row.record.values.find? fun entry => entry.1 = name.toList) =
          some (name.toList, some value.toList)) : field name row.record = some value := by
      simp [field, found]
    have totalnumber := text "totalnumber" row.totalnumber rfl
    have identifier := text "identifier" row.identifier rfl
    have rssi := text "rssi" row.rssi rfl
    have snr := text "snr" row.snr rfl
    have biterrors := text "biterrors" row.biterrors rfl
    simp only [List.map_cons, readRows, extractRows, totalnumber, identifier, rssi, snr, biterrors,
      Option.bind_eq_bind, Option.bind_some, ih]

end LoraEval.Graphs

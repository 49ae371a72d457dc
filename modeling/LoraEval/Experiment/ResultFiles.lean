import LoraEval.App.ResultFile
import LoraEval.Graphs.InputFiles

namespace LoraEval.Experiment

open LoraEval.Core LoraEval.Core.Csv LoraEval.App LoraEval.Graphs

def removeNuls (text : JavaText) : JavaText := text.filter (· ≠ .code '\x00')

def storedRow (row : LoggedRow) : DictRow JavaText :=
  .ofRecord (resultColumns.map String.toList) (row.columns.map removeNuls)

def ResultsRoundTrip (rows : List LoggedRow) : Prop :=
  (readResults (makeCSV (rows.map LoggedRow.columns))).map (List.map (DictRow.map (List.map JavaChar.code))) =
    some (rows.map storedRow)

/-- An identifier that is read as it is: it can be encoded, has no separator, and
does not start with a quote once its NULs are removed. -/
structure ReadAsIs (identifier : JavaText) : Prop where
  encodable : ∀ unit, .unpaired unit ∉ identifier
  comma : .code ',' ∉ identifier
  lineFeed : .code '\n' ∉ identifier
  carriageReturn : .code '\r' ∉ identifier
  quote : (removeNuls identifier).head? ≠ some (.code '"')

def texts (row : LoggedRow) : Record :=
  row.columns.map fun column => (column.map JavaChar.written).filter (· ≠ '\x00')

def Numeric (text : List Char) : Prop := ∀ symbol ∈ text, symbol = '-' ∨ symbol.isDigit = true

theorem Numeric.absent (numeric : Numeric text) (other : symbol ≠ '-' ∧ symbol.isDigit = false) :
    symbol ∉ text := by
  intro member
  rcases numeric symbol member with minus | digit
  · exact other.1 minus
  · rw [other.2] at digit
    cases digit

theorem Numeric.plain (numeric : Numeric text) : Plain text := by
  refine ⟨numeric.absent (by decide), numeric.absent (by decide), numeric.absent (by decide), ?_⟩
  intro found
  have absent : '"' ∉ text := numeric.absent (by decide)
  exact absent (List.mem_of_mem_head? found)

theorem Numeric.filter (numeric : Numeric text) : text.filter (· ≠ '\x00') = text := by
  rw [List.filter_eq_self]
  intro symbol member
  have nul : symbol ≠ '\x00' := by
    rintro rfl
    exact numeric.absent (by decide) member
  simpa using nul

structure Numbers (total rssi snr bitErrors : List Char) : Prop where
  numeric : ∀ text ∈ [total, rssi, snr, bitErrors], Numeric text ∧ text ≠ [] ∧ text.length ≤ fieldLimit
  minus : 2 ≤ rssi.length

def identifierText (row : LoggedRow) : List Char := (row.identifier.map JavaChar.written).filter (· ≠ '\x00')

theorem decimal_numeric (number : Int) : Numeric (decimal number) := fun _ => decimal_symbols

theorem written_numeric (text : String) (numeric : Numeric text.toList) :
    ((javaText text).map JavaChar.written).filter (· ≠ '\x00') = text.toList := by
  rw [javaText, List.map_map]
  exact (congrArg _ (List.map_id _)).trans numeric.filter

theorem decimal_short (bound : number.natAbs < 10 ^ 10) : (decimal number).length ≤ fieldLimit := by
  have short := decimal_length_le bound (by decide)
  simp only [fieldLimit]
  omega

theorem texts_eq (row : LoggedRow) : ∃ total rssi snr bitErrors,
    texts row = [total, identifierText row, rssi, snr, bitErrors] ∧ Numbers total rssi snr bitErrors := by
  have numbered (number : Int) (bound : number.natAbs < 10 ^ 10) : Numeric (decimal number) ∧
      decimal number ≠ [] ∧ (decimal number).length ≤ fieldLimit :=
    ⟨decimal_numeric number, decimal_ne_nil number, decimal_short bound⟩
  have total := numbered row.totalNumber.toInt (by
    have := row.totalNumber.toInt_lt
    have := row.totalNumber.le_toInt
    omega)
  have strength := numbered row.rssi.toNat (by omega)
  have ratio := numbered row.snr.toInt (by
    have := row.snr.toInt_lt
    have := row.snr.le_toInt
    omega)
  have errors := numbered row.bitErrors.toNat (by omega)
  have negative : Numeric ('-' :: decimal row.rssi.toNat) := by
    intro symbol member
    rcases List.mem_cons.mp member with minus | digit
    · exact .inl minus
    · exact strength.1 symbol digit
  have signed : ("-" ++ toString row.rssi.toNat).toList = '-' :: decimal row.rssi.toNat :=
    String.toList_append
  refine ⟨decimal row.totalNumber.toInt, '-' :: decimal row.rssi.toNat, decimal row.snr.toInt,
    decimal row.bitErrors.toNat, ?_, ?_, ?_⟩
  · simp only [texts, LoggedRow.columns, List.map_cons, List.map_nil]
    rw [written_numeric _ total.1, written_numeric _ (signed ▸ negative), signed,
      written_numeric (Java.byteToString row.snr) ratio.1,
      written_numeric (toString row.bitErrors.toNat) errors.1]
    rfl
  · intro text member
    simp only [List.mem_cons, List.not_mem_nil, or_false] at member
    rcases member with rfl | rfl | rfl | rfl
    · exact total
    · have short := decimal_length_le (show (row.rssi.toNat : Int).natAbs < 10 ^ 3 by omega) (by decide)
      exact ⟨negative, List.cons_ne_nil _ _, by simp only [List.length_cons, fieldLimit]; omega⟩
    · exact ratio
    · exact errors
  · have digits := List.length_pos_iff.mpr strength.2.1
    simp only [List.length_cons]
    omega

theorem identifierText_length (row : LoggedRow) : (identifierText row).length ≤ 10 := by
  have sizes : row.identifier.length ≤ (row.identifier.map JavaChar.size).sum := by
    induction row.identifier with
    | nil => simp
    | cons unit rest ih =>
      have one : 1 ≤ unit.size := by
        cases unit with
        | code char =>
          rw [JavaChar.size]
          split <;> decide
        | unpaired => exact Nat.le_refl _
      simp only [List.length_cons, List.map_cons, List.sum_cons]
      omega
  have kept := List.length_filter_le (· ≠ '\x00') (row.identifier.map JavaChar.written)
  rw [List.length_map] at kept
  exact kept.trans (sizes.trans row.ten.le)

theorem texts_plain (plain : Plain (identifierText row)) :
    (texts row).headD [] ≠ [] ∧ ∀ text ∈ texts row, Plain text ∧ text.length ≤ fieldLimit := by
  obtain ⟨total, rssi, snr, bitErrors, columns, numbers⟩ := texts_eq row
  rw [columns]
  refine ⟨(numbers.numeric total (by simp)).2.1, ?_⟩
  intro text member
  by_cases identifier : text = identifierText row
  · subst identifier
    have short := identifierText_length row
    exact ⟨plain, by simp only [fieldLimit]; omega⟩
  · have number := numbers.numeric text (by simp_all)
    exact ⟨number.1.plain, number.2.2⟩

theorem tail_text (numbers : Numbers total rssi snr bitErrors) :
    '"' ∉ writeRecord [rssi, snr, bitErrors] ∧ 7 ≤ (writeRecord [rssi, snr, bitErrors]).length := by
  have strength := numbers.numeric rssi (by simp)
  have ratio := numbers.numeric snr (by simp)
  have errors := numbers.numeric bitErrors (by simp)
  constructor
  · intro member
    rcases mem_writeRecord member with comma | line | ⟨field, known, found⟩
    · exact absurd comma (by decide)
    · exact absurd line (by decide)
    · exact (numbers.numeric field (List.mem_cons_of_mem _ known)).1.absent (by decide) found
  · have two := numbers.minus
    have one := List.length_pos_iff.mpr ratio.2.1
    have last := List.length_pos_iff.mpr errors.2.1
    simp only [writeRecord, List.length_append, List.length_cons, List.length_nil]
    omega

theorem unplain_not_read (bad : ¬ Plain (identifierText row)) (returns : '\r' ∉ identifierText row)
    (run : forEach (writeRecord (texts row) ++ more) Stream.processChar ⟨.fresh, records⟩ = some final)
    (line : final.AtLine) : ∃ record others, final.finish = records ++ record :: others ∧ record ≠ [] ∧
      record ≠ texts row := by
  obtain ⟨total, rssi, snr, bitErrors, columns, numbers⟩ := texts_eq row
  obtain ⟨quotes, long⟩ := tail_text numbers
  have first := numbers.numeric total (by simp)
  have short := identifierText_length row
  have shape : writeRecord (texts row) ++ more = (total ++ [',']) ++
      (identifierText row ++ ',' :: writeRecord [rssi, snr, bitErrors] ++ more) := by
    rw [columns, writeRecord, writeRecord]
    · simp
    · simp
    · simp
  rw [shape, forEach_append,
    (plain_run first.1.plain first.2.2 (.inr ⟨rfl, rfl, first.2.1⟩) records).1] at run
  obtain ⟨field, record, others, finished, part, different⟩ :=
    unplain_field_differs bad returns (by simp only [fieldLimit]; omega) quotes (by omega) run line
  refine ⟨record, others, finished, ?_, ?_⟩
  · rintro rfl
    simp at part
  · rintro rfl
    rw [columns] at part
    obtain ⟨after, same⟩ := part
    simp only [List.nil_append, List.cons_append, List.cons.injEq] at same
    exact different same.2.1

/-- Rows that are read back have plain identifiers. The induction is on the rows:
up to the first identifier that is not plain the reader is in step with the file. -/
theorem plain_of_read (rows : List LoggedRow) (returns : ∀ row ∈ rows, '\r' ∉ identifierText row)
    (run : forEach ((rows.map texts).flatMap writeRecord) Stream.processChar ⟨.fresh, records⟩ = some final)
    (finished : final.finish = records ++ rest) (same : rest.filter (· ≠ []) = rows.map texts) :
    ∀ row ∈ rows, Plain (identifierText row) := by
  induction rows generalizing records rest with
  | nil => simp
  | cons row rows ih =>
    rw [List.map_cons, List.flatMap_cons] at run
    have plain : Plain (identifierText row) := by
      by_contra bad
      have ends := writeRecords_last (texts row) (rows.map texts)
      obtain ⟨record, others, finished', some, different⟩ :=
        unplain_not_read bad (returns row List.mem_cons_self) run (atLine_of_newline run ends)
      rw [finished] at finished'
      rw [List.append_cancel_left finished', List.filter_cons_of_pos (by simpa using some),
        List.map_cons] at same
      exact different (List.cons.inj same).1
    have fields := texts_plain plain
    have nonempty : texts row ≠ [] := by
      intro none
      rw [none] at fields
      exact fields.1 rfl
    rw [forEach_append, plain_record_run (texts row) nonempty fields.2 (.inr ⟨rfl, rfl, fields.1⟩) records,
      List.nil_append] at run
    obtain ⟨later, finished'⟩ := records_run run
    have split : rest = texts row :: later := by
      rw [finished, List.append_assoc] at finished'
      exact (List.append_cancel_left finished').symm
    rw [split, List.filter_cons_of_pos (by simpa using nonempty), List.map_cons] at same
    intro other member
    rcases List.mem_cons.mp member with rfl | further
    · exact plain
    · exact ih (fun other found => returns other (List.mem_cons_of_mem _ found)) run finished'.symm
        (List.cons.inj same).2 other further

def header : Record := resultColumns.map String.toList

theorem header_run :
    forEach (writeRecord header) Stream.processChar ⟨.fresh, []⟩ = some ⟨.fresh, [header]⟩ := rfl

theorem filter_makeCSV (rows : List LoggedRow) : (makeCSV (rows.map LoggedRow.columns)).filter (· ≠ '\x00') =
    writeRecord header ++ (rows.map texts).flatMap writeRecord := by
  have each (row : List JavaText) : (writeRecord (row.map (·.map JavaChar.written))).filter (· ≠ '\x00') =
      writeRecord (row.map fun column => (column.map JavaChar.written).filter (· ≠ '\x00')) := by
    rw [filter_writeRecord (by decide) (by decide), List.map_map]
    rfl
  rw [makeCSV, List.flatMap_cons, List.filter_append, each, List.filter_flatMap]
  congr 1
  rw [List.flatMap_map, List.flatMap_map]
  exact List.flatMap_congr fun row _ => each row.columns

theorem readResults_eq (ends : ∀ last ∈ file.getLast?, last = '\n') :
    readResults file = (forEach ((universalNewlines file).filter (· ≠ '\x00')) Stream.processChar
      ⟨.fresh, []⟩).map fun final => dictRows final.finish := by
  have read := readLines_textLines (· ≠ '\x00') (by decide) (universalNewlines_last ends) .fresh []
  simp only [List.nil_append, Option.map_id'] at read
  rw [readResults, read, Option.map_map]
  rfl

theorem coded {text : JavaText} (encodable : ∀ unit, .unpaired unit ∉ text) :
    (text.map JavaChar.written).map .code = text := by
  rw [List.map_map]
  refine (List.map_congr_left ?_).trans (List.map_id text)
  intro symbol member
  cases symbol with
  | code char => rfl
  | unpaired unit => exact absurd member (encodable unit)

theorem removeNuls_coded (chars : List Char) :
    removeNuls (chars.map .code) = (chars.filter (· ≠ '\x00')).map .code := by
  rw [removeNuls, List.filter_map]
  congr 2
  funext char
  simp

theorem removeNuls_eq (encodable : ∀ unit, .unpaired unit ∉ text) :
    removeNuls text = ((text.map JavaChar.written).filter (· ≠ '\x00')).map .code := by
  rw [← removeNuls_coded, coded encodable]

theorem columns_eq (encodable : ∀ unit, .unpaired unit ∉ row.identifier) :
    row.columns.map removeNuls = (texts row).map (List.map .code) := by
  have ascii (text : String) (unit : Fin 2048) : .unpaired unit ∉ javaText text := by simp [javaText]
  rw [texts, List.map_map]
  apply List.map_congr_left
  intro column member
  simp only [LoggedRow.columns, List.mem_cons, List.not_mem_nil, or_false] at member
  apply removeNuls_eq
  rcases member with rfl | rfl | rfl | rfl | rfl
  · exact ascii _
  · exact encodable
  · exact ascii _
  · exact ascii _
  · exact ascii _

theorem readAsIs_iff (row : LoggedRow) : ReadAsIs row.identifier ↔
    (∀ unit, .unpaired unit ∉ row.identifier) ∧ Plain (identifierText row) := by
  have separator (encodable : ∀ unit, .unpaired unit ∉ row.identifier) (char : Char) (nul : char ≠ '\x00') :
      .code char ∈ row.identifier ↔ char ∈ identifierText row := by
    have member := congrArg (.code char ∈ ·) (coded encodable)
    rw [identifierText, List.mem_filter, ← member]
    simp [nul]
  have start (encodable : ∀ unit, .unpaired unit ∉ row.identifier) :
      (removeNuls row.identifier).head? = (identifierText row).head?.map .code := by
    rw [removeNuls_eq encodable, List.head?_map]
    rfl
  constructor
  · intro asIs
    refine ⟨asIs.encodable, ?_, ?_, ?_, ?_⟩
    · rw [← separator asIs.encodable _ (by decide)]
      exact asIs.comma
    · rw [← separator asIs.encodable _ (by decide)]
      exact asIs.lineFeed
    · rw [← separator asIs.encodable _ (by decide)]
      exact asIs.carriageReturn
    · intro quote
      apply asIs.quote
      rw [start asIs.encodable, quote]
      rfl
  · rintro ⟨encodable, plain⟩
    refine ⟨encodable, ?_, ?_, ?_, ?_⟩
    · rw [separator encodable _ (by decide)]
      exact plain.comma
    · rw [separator encodable _ (by decide)]
      exact plain.lineFeed
    · rw [separator encodable _ (by decide)]
      exact plain.carriageReturn
    · intro quote
      rw [start encodable] at quote
      obtain ⟨char, found, same⟩ := Option.map_eq_some_iff.mp quote
      cases same
      exact plain.quote found

theorem makeCSV_last (rows : List (List JavaText)) : ∀ last ∈ (makeCSV rows).getLast?, last = '\n' := by
  intro last member
  rw [makeCSV, ← List.flatMap_map, List.map_cons, writeRecords_last] at member
  exact (Option.some.inj member).symm

/-- Nothing but identifiers can bring a carriage return into the file. -/
theorem makeCSV_returns {rows : List LoggedRow} (plain : ∀ row ∈ rows, '\r' ∉ identifierText row) :
    '\r' ∉ makeCSV (rows.map LoggedRow.columns) := by
  intro member
  have kept : '\r' ∈ (makeCSV (rows.map LoggedRow.columns)).filter (· ≠ '\x00') :=
    List.mem_filter.mpr ⟨member, by decide⟩
  rw [filter_makeCSV, List.mem_append] at kept
  rcases kept with first | later
  · exact absurd first (by decide)
  · obtain ⟨_, known, found⟩ := List.mem_flatMap.mp later
    obtain ⟨row, rowKnown, rfl⟩ := List.mem_map.mp known
    obtain ⟨total, rssi, snr, bitErrors, columns, numbers⟩ := texts_eq row
    rcases mem_writeRecord found with comma | line | ⟨field, column, inside⟩
    · exact absurd comma (by decide)
    · exact absurd line (by decide)
    · by_cases identifier : field = identifierText row
      · exact plain row rowKnown (identifier ▸ inside)
      · rw [columns] at column
        exact (numbers.numeric field (by simp_all)).1.absent (by decide) inside

theorem header_read (run : forEach ((universalNewlines (makeCSV rows)).filter (· ≠ '\x00'))
    Stream.processChar ⟨.fresh, []⟩ = some final) : ∃ rest, final.finish = header :: rest := by
  have plain : '\r' ∉ writeRecord header := by decide
  have kept : (writeRecord header).filter (· ≠ '\x00') = writeRecord header := by decide
  have headed : makeCSV rows = writeRecord header ++ rows.flatMap fun row =>
    writeRecord (row.map (·.map JavaChar.written)) := rfl
  rw [headed, universalNewlines_append plain, List.filter_append, kept, forEach_append, header_run] at run
  obtain ⟨rest, finished⟩ := records_run run
  exact ⟨rest, finished.symm⟩

theorem records_of_roundTrip (roundTrip : ResultsRoundTrip rows) :
    ∃ final rest, forEach ((universalNewlines (makeCSV (rows.map LoggedRow.columns))).filter (· ≠ '\x00'))
        Stream.processChar ⟨.fresh, []⟩ = some final ∧ final.finish = header :: rest ∧
      (rest.filter (· ≠ [])).map (List.map (List.map .code)) =
        rows.map fun row => row.columns.map removeNuls := by
  obtain ⟨dicts, read, same⟩ := Option.map_eq_some_iff.mp roundTrip
  rw [readResults_eq (makeCSV_last _)] at read
  obtain ⟨final, run, rfl⟩ := Option.map_eq_some_iff.mp read
  obtain ⟨rest, finished⟩ := header_read run
  refine ⟨final, rest, run, finished, ?_⟩
  rw [finished, dictRows, List.map_map] at same
  have injective : Function.Injective (DictRow.ofRecord header : List JavaText → DictRow JavaText) :=
    fun _ _ => ofRecord_injective
  apply injective.list_map
  rw [List.map_map, List.map_map]
  refine Eq.trans ?_ same
  apply List.map_congr_left
  intro record _
  exact (ofRecord_map _ header record).symm

/-- A field that was read is encodable and has no carriage return. -/
theorem identifier_of_read (roundTrip : ResultsRoundTrip rows) (member : row ∈ rows) :
    (∀ unit, .unpaired unit ∉ row.identifier) ∧ '\r' ∉ identifierText row := by
  obtain ⟨final, rest, run, finished, same⟩ := records_of_roundTrip roundTrip
  have column : row.columns.map removeNuls ∈ (rest.filter (· ≠ [])).map (List.map (List.map .code)) := by
    rw [same]
    exact List.mem_map_of_mem member
  obtain ⟨record, recordRead, columns⟩ := List.mem_map.mp column
  have identifier : removeNuls row.identifier ∈ record.map (List.map .code) := by
    rw [columns]
    exact List.mem_map_of_mem (by simp [LoggedRow.columns])
  obtain ⟨field, fieldRead, coded⟩ := List.mem_map.mp identifier
  have returns : '\r' ∉ field := by
    intro found
    have read := mem_text_of_read run record
      (finished ▸ List.mem_cons_of_mem _ (List.mem_filter.mp recordRead).1)
      field fieldRead _ found
    exact not_mem_universalNewlines _ (List.mem_filter.mp read).1
  have encodable : ∀ unit, .unpaired unit ∉ row.identifier := by
    intro unit found
    have kept : .unpaired unit ∈ removeNuls row.identifier := List.mem_filter.mpr ⟨found, by simp⟩
    rw [← coded] at kept
    simp at kept
  refine ⟨encodable, ?_⟩
  rw [removeNuls_eq encodable] at coded
  have same : field = identifierText row :=
    List.map_injective_iff.mpr (fun _ _ => JavaChar.code.inj) coded
  rwa [← same]

/-- A result file is read back exactly if every identifier is read as it is. -/
theorem resultsRoundTrip_iff (rows : List LoggedRow) :
    ResultsRoundTrip rows ↔ ∀ row ∈ rows, ReadAsIs row.identifier := by
  constructor
  · intro roundTrip
    have read (row : LoggedRow) (member : row ∈ rows) := identifier_of_read roundTrip member
    obtain ⟨final, rest, run, finished, same⟩ := records_of_roundTrip roundTrip
    rw [universalNewlines_of_plain (makeCSV_returns fun row member => (read row member).2), filter_makeCSV,
      forEach_append, header_run] at run
    have records : rest.filter (· ≠ []) = rows.map texts := by
      have coded : (rows.map fun row => row.columns.map removeNuls) =
          (rows.map texts).map (List.map (List.map .code)) := by
        rw [List.map_map]
        exact List.map_congr_left fun row member => columns_eq (read row member).1
      rw [coded] at same
      exact (List.map_injective_iff.mpr (List.map_injective_iff.mpr (List.map_injective_iff.mpr
        fun _ _ => JavaChar.code.inj))) same
    have plain := plain_of_read rows (fun row member => (read row member).2) run finished records
    exact fun row member => (readAsIs_iff row).mpr ⟨(read row member).1, plain row member⟩
  · intro asIs
    have plain (row : LoggedRow) (member : row ∈ rows) := (readAsIs_iff row).mp (asIs row member)
    have fields : ∀ row ∈ rows.map texts,
        row.headD [] ≠ [] ∧ ∀ text ∈ row, Plain text ∧ text.length ≤ fieldLimit := by
      intro _ member
      obtain ⟨row, known, rfl⟩ := List.mem_map.mp member
      exact texts_plain (plain row known).2
    have nonempty : (rows.map texts).filter (· ≠ []) = rows.map texts := by
      rw [List.filter_eq_self]
      intro record member
      have := (fields record member).1
      cases record with
      | nil => exact absurd rfl this
      | cons => rfl
    rw [ResultsRoundTrip, readResults_eq (makeCSV_last _),
      universalNewlines_of_plain (makeCSV_returns fun row member => (plain row member).2.carriageReturn),
      filter_makeCSV, forEach_append, header_run, Option.bind_eq_bind, Option.bind_some,
      plain_records_run _ fields, Option.map_some, Option.map_some]
    have finished : Stream.finish ⟨.fresh, [header] ++ rows.map texts⟩ = header :: rows.map texts := by
      simp [Stream.finish, Reader.rest, Reader.fresh]
    rw [finished, dictRows, nonempty, List.map_map, List.map_map]
    refine congrArg some (List.map_congr_left fun row member => ?_)
    rw [Function.comp_apply, Function.comp_apply, ofRecord_map, ← columns_eq (plain row member).1]
    rfl

def commaRow : LoggedRow := ⟨3, javaText "0,000_003f", 100, 5, 1, by decide +kernel⟩

theorem commaRow_not_read : ¬ ResultsRoundTrip [commaRow] := by
  unfold ResultsRoundTrip
  decide +kernel

end LoraEval.Experiment

import LoraEval.Core.Loop
import LoraEval.Core.TextFile

/-! Reading comma separated values as Python's `csv` module does in its default
dialect: commas, double quotes, doubled quotes inside quotes, not strict. Beside
the reader of lines stands one of characters, for which the results are proved. -/

namespace LoraEval.Core.Csv

inductive Mode where
  | startRecord
  | startField
  | inField
  | inQuotedField
  | quoteInQuotedField
  | eatNewline
deriving DecidableEq, Repr

abbrev Record := List (List Char)

structure Reader where
  mode : Mode
  field : List Char
  fields : Record
deriving DecidableEq, Repr

def fieldLimit : Nat := 131072

def isNewline (char : Char) : Bool := char == '\n' || char == '\r'

namespace Reader

def fresh : Reader := ⟨.startRecord, [], []⟩

def save (mode : Mode) (reader : Reader) : Reader := ⟨mode, [], reader.fields ++ [reader.field]⟩

/-- Add a character to the field; a field over the limit is an error. -/
def add (mode : Mode) (char : Char) (reader : Reader) : Option Reader :=
  if fieldLimit ≤ reader.field.length then none
  else some ⟨mode, reader.field ++ [char], reader.fields⟩

def startField (char : Char) (reader : Reader) : Option Reader :=
  if isNewline char then some (reader.save .eatNewline)
  else if char = '"' then some { reader with mode := .inQuotedField }
  else if char = ',' then some (reader.save .startField)
  else reader.add .inField char

def processChar (char : Char) (reader : Reader) : Option Reader :=
  match reader.mode with
  | .startRecord =>
    if isNewline char then some { reader with mode := .eatNewline } else reader.startField char
  | .startField => reader.startField char
  | .inField =>
    if isNewline char then some (reader.save .eatNewline)
    else if char = ',' then some (reader.save .startField)
    else reader.add .inField char
  | .inQuotedField =>
    if char = '"' then some { reader with mode := .quoteInQuotedField }
    else reader.add .inQuotedField char
  | .quoteInQuotedField =>
    if char = '"' then reader.add .inQuotedField char
    else if char = ',' then some (reader.save .startField)
    else if isNewline char then some (reader.save .eatNewline)
    else reader.add .inField char
  | .eatNewline => if isNewline char then some reader else none

def endLine (reader : Reader) : Reader :=
  match reader.mode with
  | .startRecord | .inQuotedField => reader
  | .startField | .inField | .quoteInQuotedField => reader.save .startRecord
  | .eatNewline => { reader with mode := .startRecord }

def rest (reader : Reader) : List Record :=
  if reader.field ≠ [] ∨ reader.mode = .inQuotedField then [reader.fields ++ [reader.field]] else []

end Reader

def readLines : List (List Char) → Reader → Option (List Record)
  | [], reader => some reader.rest
  | line :: lines, reader => do
    let read ← forEach line Reader.processChar reader
    if read.endLine.mode = .startRecord then
      let records ← readLines lines .fresh
      return read.endLine.fields :: records
    else readLines lines read.endLine

/-- A row of `DictReader`: the values under the names of the first record, null
where the record is too short, and what it has beyond them. -/
structure DictRow (α : Type u) where
  values : List (List Char × Option α)
  others : List α
deriving DecidableEq, Repr

def DictRow.ofRecord : List (List Char) → List α → DictRow α
  | [], fields => ⟨[], fields⟩
  | name :: names, [] => ⟨(name, none) :: (ofRecord names ([] : List α)).values, []⟩
  | name :: names, field :: fields =>
    ⟨(name, some field) :: (ofRecord names fields).values, (ofRecord names fields).others⟩

def DictRow.map (f : α → β) (row : DictRow α) : DictRow β :=
  ⟨row.values.map fun (name, value) => (name, value.map f), row.others.map f⟩

/-- The rows of `DictReader`; empty records are skipped. -/
def dictRows : List Record → List (DictRow (List Char))
  | [] => []
  | names :: records => (records.filter (· ≠ [])).map (DictRow.ofRecord names)

theorem ofRecord_map (f : α → β) (names : List (List Char)) (fields : List α) :
    (DictRow.ofRecord names fields).map f = DictRow.ofRecord names (fields.map f) := by
  induction names generalizing fields with
  | nil => rfl
  | cons name names ih =>
    cases fields with
    | nil =>
      have rest := congrArg DictRow.values (ih [])
      simp only [DictRow.map, List.map_nil] at rest
      simp [DictRow.ofRecord, DictRow.map, rest]
    | cons field fields =>
      have values := congrArg DictRow.values (ih fields)
      have others := congrArg DictRow.others (ih fields)
      simp only [DictRow.map] at values others
      simp [DictRow.ofRecord, DictRow.map, values, others]

theorem ofRecord_injective {first second : List α}
    (same : DictRow.ofRecord names first = DictRow.ofRecord names second) : first = second := by
  induction names generalizing first second with
  | nil => exact congrArg DictRow.others same
  | cons name names ih =>
    cases first <;> cases second
    · rfl
    · simp [DictRow.ofRecord] at same
    · simp [DictRow.ofRecord] at same
    · simp only [DictRow.ofRecord, DictRow.mk.injEq, List.cons.injEq, Prod.mk.injEq, true_and,
        Option.some.injEq] at same
      obtain ⟨⟨rfl, values⟩, others⟩ := same
      exact congrArg _ (ih (congrArg₂ DictRow.mk values others))

/-- The reader of characters, with the records so far. -/
structure Stream where
  reader : Reader
  records : List Record

namespace Stream

def processChar (char : Char) (stream : Stream) : Option Stream := do
  let read ← stream.reader.processChar char
  if char = '\n' then
    if read.endLine.mode = .startRecord then return ⟨.fresh, stream.records ++ [read.endLine.fields]⟩
    else return ⟨read.endLine, stream.records⟩
  else return ⟨read, stream.records⟩

def finish (stream : Stream) : List Record := stream.records ++ stream.reader.rest

end Stream

theorem readLines_cons (char : Char) (line : List Char) (lines : List (List Char)) (reader : Reader) :
    readLines ((char :: line) :: lines) reader =
      (reader.processChar char).bind fun read => readLines (line :: lines) read := by
  cases taken : reader.processChar char <;> simp [readLines, forEach_cons, taken]

theorem Stream.processChar_other {char : Char} (different : char ≠ '\n') (reader : Reader)
    (records : List Record) : Stream.processChar char ⟨reader, records⟩ =
      (reader.processChar char).map fun read => ⟨read, records⟩ := by
  cases taken : reader.processChar char <;> simp [Stream.processChar, taken, different]

theorem Stream.processChar_newline (reader : Reader) (records : List Record) :
    Stream.processChar '\n' ⟨reader, records⟩ = (reader.processChar '\n').map fun read =>
      if read.endLine.mode = .startRecord then ⟨.fresh, records ++ [read.endLine.fields]⟩
      else ⟨read.endLine, records⟩ := by
  cases taken : reader.processChar '\n' with
  | none => simp [Stream.processChar, taken]
  | some read =>
    simp only [Stream.processChar, taken, if_true, Option.bind_eq_bind, Option.bind_some, Option.map_some]
    split <;> rfl

/-- Reading the lines of a text that ends with a line feed, some characters left
out, is reading the characters. -/
theorem readLines_textLines (keep : Char → Bool) (newline : keep '\n' = true)
    (ends : ∀ last ∈ text.getLast?, last = '\n') (reader : Reader) (records : List Record) :
    (readLines ((textLines text).map (List.filter keep)) reader).map (records ++ ·) =
      (forEach (text.filter keep) Stream.processChar ⟨reader, records⟩).map Stream.finish := by
  induction text generalizing reader records with
  | nil => rfl
  | cons char text ih =>
    by_cases line : char = '\n'
    · subst line
      have later : ∀ last ∈ text.getLast?, last = '\n' := by
        intro last member
        exact ends last (mem_getLast?_cons.mpr (.inr member))
      rw [textLines, if_pos rfl, List.map_cons, List.filter_cons_of_pos newline,
        List.filter_cons_of_pos newline, List.filter_nil, forEach_cons, Stream.processChar_newline,
        readLines, forEach_cons]
      cases taken : reader.processChar '\n' with
      | none => rfl
      | some read =>
        by_cases complete : read.endLine.mode = .startRecord
        · have rest := ih later .fresh (records ++ [read.endLine.fields])
          simp only [forEach_nil, complete, if_true, Option.bind_eq_bind, Option.bind_some, Option.map_some,
            ← rest]
          cases readLines ((textLines text).map (List.filter keep)) .fresh <;> simp
        · have rest := ih later read.endLine records
          simp [forEach_nil, complete, ← rest]
    · cases text with
      | nil =>
        have last := ends char rfl
        exact absurd last line
      | cons next text =>
        have rest := ih (fun last member => ends last (mem_getLast?_cons.mpr (.inr member)))
        obtain ⟨first, others, shape⟩ :=
          List.exists_cons_of_ne_nil (textLines_ne_nil (List.cons_ne_nil next text))
        rw [textLines, if_neg line, shape]
        rw [shape] at rest
        by_cases kept : keep char = true
        · rw [List.map_cons, List.filter_cons_of_pos kept, List.filter_cons_of_pos kept, readLines_cons,
            forEach_cons, Stream.processChar_other line]
          cases taken : reader.processChar char with
          | none => rfl
          | some read => exact rest read records
        · rw [List.map_cons, List.filter_cons_of_neg kept, List.filter_cons_of_neg kept]
          exact rest reader records

/-- A field that is read as it is: no separator, no quote at its start. -/
structure Plain (field : List Char) : Prop where
  comma : ',' ∉ field
  lineFeed : '\n' ∉ field
  carriageReturn : '\r' ∉ field
  quote : field.head? ≠ some '"'

theorem isNewline_eq_false (lineFeed : char ≠ '\n') (carriageReturn : char ≠ '\r') :
    isNewline char = false := by
  simp [isNewline, lineFeed, carriageReturn]

theorem processChar_inField (comma : char ≠ ',') (lineFeed : char ≠ '\n')
    (carriageReturn : char ≠ '\r') (room : field.length < fieldLimit) (fields : Record) :
    Reader.processChar char ⟨.inField, field, fields⟩ = some ⟨.inField, field ++ [char], fields⟩ := by
  have short : ¬ fieldLimit ≤ field.length := by omega
  simp [Reader.processChar, isNewline_eq_false lineFeed carriageReturn, comma, Reader.add, short]

theorem inField_run (comma : ',' ∉ text) (lineFeed : '\n' ∉ text) (carriageReturn : '\r' ∉ text)
    (room : (field ++ text).length ≤ fieldLimit) (fields : Record) (records : List Record) :
    forEach text Stream.processChar ⟨⟨.inField, field, fields⟩, records⟩ =
      some ⟨⟨.inField, field ++ text, fields⟩, records⟩ := by
  induction text generalizing field with
  | nil => rw [forEach_nil, List.append_nil]
  | cons char text ih =>
    obtain ⟨comma₁, comma⟩ := List.ne_and_not_mem_of_not_mem_cons comma
    obtain ⟨lineFeed₁, lineFeed⟩ := List.ne_and_not_mem_of_not_mem_cons lineFeed
    obtain ⟨carriageReturn₁, carriageReturn⟩ := List.ne_and_not_mem_of_not_mem_cons carriageReturn
    rw [List.append_cons] at room ⊢
    have added := processChar_inField comma₁.symm lineFeed₁.symm carriageReturn₁.symm
      (show field.length < fieldLimit by simp at room; omega) fields
    rw [forEach_cons, Stream.processChar_other lineFeed₁.symm, added]
    exact ih comma lineFeed carriageReturn room

/-- Where a field with the given text begins: after a comma, or with a record
unless the text is empty. -/
def Begins (fields : Record) (text : List Char) (reader : Reader) : Prop :=
  reader = ⟨.startField, [], fields⟩ ∨ reader = .fresh ∧ fields = [] ∧ text ≠ []

theorem Begins.processChar (begins : Begins fields text reader) (lineFeed : char ≠ '\n')
    (carriageReturn : char ≠ '\r') :
    reader.processChar char = Reader.startField char ⟨.startField, [], fields⟩ := by
  rcases begins with rfl | ⟨rfl, rfl, -⟩
  · rfl
  · simp [Reader.processChar, Reader.fresh, isNewline_eq_false lineFeed carriageReturn, Reader.startField,
      Reader.save, Reader.add]

theorem plain_run (plain : Plain text) (short : text.length ≤ fieldLimit)
    (begins : Begins fields text reader) (records : List Record) :
    (forEach (text ++ [',']) Stream.processChar ⟨reader, records⟩ =
        some ⟨⟨.startField, [], fields ++ [text]⟩, records⟩) ∧
      forEach (text ++ ['\n']) Stream.processChar ⟨reader, records⟩ =
        some ⟨.fresh, records ++ [fields ++ [text]]⟩ := by
  cases text with
  | nil =>
    rcases begins with rfl | ⟨-, -, nonempty⟩
    · constructor <;> rfl
    · exact absurd rfl nonempty
  | cons char text =>
    obtain ⟨comma₁, comma⟩ := List.ne_and_not_mem_of_not_mem_cons plain.comma
    obtain ⟨lineFeed₁, lineFeed⟩ := List.ne_and_not_mem_of_not_mem_cons plain.lineFeed
    obtain ⟨carriageReturn₁, carriageReturn⟩ := List.ne_and_not_mem_of_not_mem_cons plain.carriageReturn
    have quote : char ≠ '"' := fun same => plain.quote (by rw [same]; rfl)
    have started : Stream.processChar char ⟨reader, records⟩ =
        some ⟨⟨.inField, [char], fields⟩, records⟩ := by
      rw [Stream.processChar_other lineFeed₁.symm,
        begins.processChar lineFeed₁.symm carriageReturn₁.symm]
      simp [Reader.startField, isNewline_eq_false lineFeed₁.symm carriageReturn₁.symm, quote, comma₁.symm,
        Reader.add, fieldLimit]
    have run := inField_run comma lineFeed carriageReturn
      (show ([char] ++ text).length ≤ fieldLimit from short)
      fields records
    simp only [List.cons_append, forEach_cons, started, forEach_append, Option.bind_eq_bind, Option.bind_some,
      run]
    constructor <;> rfl

def writeRecord : Record → List Char
  | [] => ['\n']
  | [field] => field ++ ['\n']
  | field :: fields => field ++ ',' :: writeRecord fields

theorem writeRecord_last (fields : Record) : (writeRecord fields).getLast? = some '\n' := by
  fun_induction writeRecord fields with
  | case1 => rfl
  | case2 field => simp
  | case3 field fields _ ih => simp [List.getLast?_append, List.getLast?_cons, ih]

theorem writeRecords_last (row : Record) (rows : List Record) :
    ((row :: rows).flatMap writeRecord).getLast? = some '\n' := by
  induction rows generalizing row with
  | nil => simpa using writeRecord_last row
  | cons next rows ih => rw [List.flatMap_cons, List.getLast?_append, ih, Option.some_or]

theorem mem_writeRecord (member : char ∈ writeRecord fields) :
    char = ',' ∨ char = '\n' ∨ ∃ field ∈ fields, char ∈ field := by
  fun_induction writeRecord fields with
  | case1 => simp_all
  | case2 field => exact .inr (by simpa [or_comm] using member)
  | case3 field fields _ ih =>
    rcases List.mem_append.mp member with here | later
    · exact .inr (.inr ⟨field, List.mem_cons_self, here⟩)
    · rcases List.mem_cons.mp later with comma | rest
      · exact .inl comma
      · rcases ih rest with comma | line | ⟨other, known, found⟩
        · exact .inl comma
        · exact .inr (.inl line)
        · exact .inr (.inr ⟨other, List.mem_cons_of_mem _ known, found⟩)

theorem filter_writeRecord {keep : Char → Bool} (comma : keep ',' = true) (line : keep '\n' = true)
    (fields : Record) : (writeRecord fields).filter keep = writeRecord (fields.map (List.filter keep)) := by
  fun_induction writeRecord fields with
  | case1 => simp [writeRecord, line]
  | case2 field => simp [writeRecord, line]
  | case3 field fields some ih =>
    obtain ⟨next, rest, rfl⟩ := List.exists_cons_of_ne_nil some
    simp [writeRecord, comma, ih]

theorem plain_record_run (texts : Record) (some : texts ≠ [])
    (plain : ∀ text ∈ texts, Plain text ∧ text.length ≤ fieldLimit)
    (begins : Begins fields (texts.headD []) reader) (records : List Record) :
    forEach (writeRecord texts) Stream.processChar ⟨reader, records⟩ =
      Option.some ⟨.fresh, records ++ [fields ++ texts]⟩ := by
  induction texts generalizing reader fields with
  | nil => exact absurd rfl some
  | cons text texts ih =>
    have first := plain text (by simp)
    obtain ⟨separated, ended⟩ := plain_run first.1 first.2 begins records
    cases texts with
    | nil => exact ended
    | cons next texts =>
      have rest := ih (by simp) (fun other member => plain other (List.mem_cons_of_mem _ member))
        (.inl rfl : Begins (fields ++ [text]) next _)
      rw [writeRecord, List.append_cons, forEach_append, separated, Option.bind_eq_bind, Option.bind_some,
        rest, List.append_assoc, List.singleton_append]
      exact List.cons_ne_nil _ _

theorem plain_records_run (rows : List Record)
    (plain : ∀ row ∈ rows, row.headD [] ≠ [] ∧ ∀ text ∈ row, Plain text ∧ text.length ≤ fieldLimit)
    (records : List Record) :
    forEach (rows.flatMap writeRecord) Stream.processChar ⟨.fresh, records⟩ =
      some ⟨.fresh, records ++ rows⟩ := by
  induction rows generalizing records with
  | nil => simp [forEach_nil]
  | cons row rows ih =>
    obtain ⟨named, fields⟩ := plain row (by simp)
    have nonempty : row ≠ [] := by
      rintro rfl
      exact named rfl
    rw [List.flatMap_cons, forEach_append,
      plain_record_run row nonempty fields (.inr ⟨rfl, rfl, named⟩) records, Option.bind_eq_bind,
      Option.bind_some, ih (fun other member => plain other (List.mem_cons_of_mem _ member)), List.nil_append,
      List.append_assoc, List.singleton_append]

theorem add_eq_some {reader next : Reader} : reader.add mode char = some next ↔
    reader.field.length < fieldLimit ∧ ⟨mode, reader.field ++ [char], reader.fields⟩ = next := by
  unfold Reader.add
  split
  · simp only [reduceCtorEq, false_iff]
    omega
  · rename_i room
    rw [Option.some.injEq]
    exact ⟨fun same => ⟨Nat.lt_of_not_le room, same⟩, And.right⟩

def Mode.Open (mode : Mode) : Prop := mode ≠ .startRecord ∧ mode ≠ .eatNewline

/-- What a character can do: complete the field, extend it, or nothing to it. -/
theorem processChar_cases {reader next : Reader} (taken : reader.processChar char = some next) :
    (∃ mode, next = reader.save mode) ∨
      next.fields = reader.fields ∧ (reader.mode.Open → next.mode.Open) ∧
        (next.field = reader.field ∨ next.field = reader.field ++ [char]) := by
  have added {mode : Mode} (opens : mode.Open) (result : reader.add mode char = some next) :
      next.fields = reader.fields ∧ (reader.mode.Open → next.mode.Open) ∧
        (next.field = reader.field ∨ next.field = reader.field ++ [char]) := by
    obtain ⟨-, rfl⟩ := add_eq_some.mp result
    exact ⟨rfl, fun _ => opens, .inr rfl⟩
  have entered (result : reader.startField char = some next) : (∃ mode, next = reader.save mode) ∨
      next.fields = reader.fields ∧ (reader.mode.Open → next.mode.Open) ∧
        (next.field = reader.field ∨ next.field = reader.field ++ [char]) := by
    unfold Reader.startField at result
    split_ifs at result
    · exact .inl ⟨_, (Option.some.inj result).symm⟩
    · cases result
      exact .inr ⟨rfl, fun _ => ⟨by simp, by simp⟩, .inl rfl⟩
    · exact .inl ⟨_, (Option.some.inj result).symm⟩
    · exact .inr (added ⟨by simp, by simp⟩ result)
  unfold Reader.processChar at taken
  split at taken
  · rename_i mode
    split at taken
    · cases taken
      exact .inr ⟨rfl, fun opens => absurd mode opens.1, .inl rfl⟩
    · exact entered taken
  · exact entered taken
  · split_ifs at taken
    · exact .inl ⟨_, (Option.some.inj taken).symm⟩
    · exact .inl ⟨_, (Option.some.inj taken).symm⟩
    · exact .inr (added ⟨by simp, by simp⟩ taken)
  · split at taken
    · cases taken
      exact .inr ⟨rfl, fun _ => ⟨by simp, by simp⟩, .inl rfl⟩
    · exact .inr (added ⟨by simp, by simp⟩ taken)
  · split_ifs at taken
    · exact .inr (added ⟨by simp, by simp⟩ taken)
    · exact .inl ⟨_, (Option.some.inj taken).symm⟩
    · exact .inl ⟨_, (Option.some.inj taken).symm⟩
    · exact .inr (added ⟨by simp, by simp⟩ taken)
  · rename_i mode
    split at taken
    · cases taken
      exact .inr ⟨rfl, id, .inl rfl⟩
    · cases taken

theorem endLine_cases (reader : Reader) : reader.endLine = reader.save .startRecord ∨
    reader.endLine.fields = reader.fields ∧ reader.endLine.field = reader.field ∧
      (reader.mode.Open → reader.endLine = reader ∧ reader.mode = .inQuotedField) := by
  unfold Reader.endLine Mode.Open
  split
  case h_3 | h_4 | h_5 => exact .inl rfl
  all_goals simp_all

/-- After a line: either the record is complete, or a quoted field goes on. -/
theorem endLine_mode (reader : Reader) :
    reader.endLine.mode = .startRecord ∨ reader.endLine.mode = .inQuotedField := by
  unfold Reader.endLine
  split <;> simp_all [Reader.save]

/-- The record after `records` begins with `fields`, whether it is complete or not. -/
def Commits (records : List Record) (fields : Record) (stream : Stream) : Prop :=
  stream.records = records ∧ fields <+: stream.reader.fields ∨
    ∃ record others, stream.records = records ++ record :: others ∧ fields <+: record

theorem endLine_fields (reader : Reader) : reader.fields <+: reader.endLine.fields := by
  rcases endLine_cases reader with saved | ⟨same, -⟩
  · rw [saved]
    exact List.prefix_append _ _
  · exact same ▸ List.prefix_refl _

theorem processChar_fields {reader next : Reader} (taken : reader.processChar char = some next) :
    reader.fields <+: next.fields := by
  rcases processChar_cases taken with ⟨mode, rfl⟩ | ⟨same, -⟩
  · exact List.prefix_append _ _
  · exact same ▸ List.prefix_refl _

/-- What becomes of a record once the reader has taken a character. -/
inductive Delivered (records : List Record) (read : Reader) : Stream → Prop where
  | sameLine : Delivered records read ⟨read, records⟩
  | complete (ended : read.endLine.mode = .startRecord) :
      Delivered records read ⟨.fresh, records ++ [read.endLine.fields]⟩
  | quoted (ended : read.endLine.mode = .inQuotedField) : Delivered records read ⟨read.endLine, records⟩

theorem delivered_of_processChar (taken : Stream.processChar char stream = some next) :
    ∃ read, stream.reader.processChar char = some read ∧ Delivered stream.records read next := by
  by_cases newline : char = '\n'
  · subst newline
    rw [Stream.processChar_newline] at taken
    obtain ⟨read, done, same⟩ := Option.map_eq_some_iff.mp taken
    refine ⟨read, done, ?_⟩
    rcases endLine_mode read with complete | quoted
    · rw [if_pos complete] at same
      exact same ▸ .complete complete
    · rw [if_neg (by simp [quoted])] at same
      exact same ▸ .quoted quoted
  · rw [Stream.processChar_other newline] at taken
    obtain ⟨read, done, same⟩ := Option.map_eq_some_iff.mp taken
    exact ⟨read, done, same ▸ .sameLine⟩

theorem Delivered.commits {read : Reader} (delivered : Delivered records read next)
    (part : fields <+: read.fields) :
    Commits records fields next := by
  cases delivered with
  | sameLine => exact .inl ⟨rfl, part⟩
  | complete => exact .inr ⟨_, [], rfl, part.trans (endLine_fields read)⟩
  | quoted => exact .inl ⟨rfl, part.trans (endLine_fields read)⟩

theorem Commits.processChar (commits : Commits records fields stream)
    (taken : Stream.processChar char stream = some next) : Commits records fields next := by
  obtain ⟨read, done, delivered⟩ := delivered_of_processChar taken
  rcases commits with ⟨rfl, part⟩ | ⟨record, others, complete, part⟩
  · exact delivered.commits (part.trans (processChar_fields done))
  · cases delivered with
    | sameLine => exact .inr ⟨record, others, complete, part⟩
    | complete =>
      refine .inr ⟨record, others ++ [read.endLine.fields], ?_, part⟩
      rw [complete, List.append_assoc, List.cons_append]
    | quoted => exact .inr ⟨record, others, complete, part⟩

theorem Commits.run (commits : Commits records fields stream)
    (run : forEach text Stream.processChar stream = some final) : Commits records fields final :=
  forEach_keeps (Commits records fields) (fun _ _ _ _ taken holds => holds.processChar taken) run commits

theorem records_run (run : forEach text Stream.processChar ⟨reader, records⟩ = some final) :
    records <+: final.finish := by
  have kept : records <+: final.records := by
    refine forEach_keeps (fun stream => records <+: stream.records) ?_ run (List.prefix_refl _)
    intro char _ stream next taken part
    obtain ⟨read, -, delivered⟩ := delivered_of_processChar taken
    cases delivered with
    | sameLine => exact part
    | complete => exact part.trans (List.prefix_append _ _)
    | quoted => exact part
  exact kept.trans (List.prefix_append _ _)

/-- The record after `records` begins with `fields` and a field that begins with `part`. -/
def Pending (records : List Record) (fields : Record) (part : List Char) (stream : Stream) : Prop :=
  (stream.records = records ∧ stream.reader.fields = fields ∧ part <+: stream.reader.field ∧
      stream.reader.mode.Open) ∨
    ∃ field, part <+: field ∧ Commits records (fields ++ [field]) stream

theorem Pending.processChar (pending : Pending records fields part stream)
    (taken : Stream.processChar char stream = some next) : Pending records fields part next := by
  rcases pending with ⟨rfl, rfl, begun, opens⟩ | ⟨field, begun, commits⟩
  · obtain ⟨read, done, delivered⟩ := delivered_of_processChar taken
    rcases processChar_cases done with ⟨mode, rfl⟩ | ⟨same, stays, grown⟩
    · exact .inr ⟨_, begun, delivered.commits (List.prefix_refl _)⟩
    · have longer : part <+: read.field := by
        rcases grown with unchanged | added
        · rwa [unchanged]
        · rw [added]
          exact begun.trans (List.prefix_append _ _)
      have saved : read.endLine = read.save .startRecord ∨
          read.endLine = read ∧ read.mode = .inQuotedField := by
        rcases endLine_cases read with ended | ⟨-, -, goes⟩
        · exact .inl ended
        · exact .inr (goes (stays opens))
      cases delivered with
      | sameLine => exact .inl ⟨rfl, same, longer, stays opens⟩
      | complete ended =>
        rcases saved with complete | ⟨kept, quoted⟩
        · refine .inr ⟨_, longer, .inr ⟨_, [], rfl, ?_⟩⟩
          rw [complete, ← same]
          exact List.prefix_refl _
        · rw [kept, quoted] at ended
          cases ended
      | quoted ended =>
        rcases saved with complete | ⟨kept, -⟩
        · rw [complete] at ended
          cases ended
        · rw [kept]
          exact .inl ⟨rfl, same, longer, stays opens⟩
  · exact .inr ⟨field, begun, commits.processChar taken⟩

theorem Pending.run (pending : Pending records fields part stream)
    (run : forEach text Stream.processChar stream = some final) : Pending records fields part final :=
  forEach_keeps (Pending records fields part) (fun _ _ _ _ taken holds => holds.processChar taken) run pending

/-- At the end of a line the reader is between records or inside quotes. -/
def Stream.AtLine (stream : Stream) : Prop := stream.reader = .fresh ∨ stream.reader.mode = .inQuotedField

theorem atLine_of_newline (run : forEach text Stream.processChar stream = some final)
    (ends : text.getLast? = some '\n') : final.AtLine := by
  obtain ⟨front, rfl⟩ := List.getLast?_eq_some_iff.mp ends
  rw [forEach_append] at run
  obtain ⟨between, -, last⟩ := Option.bind_eq_some_iff.mp run
  rw [forEach_cons, Stream.processChar_newline] at last
  obtain ⟨next, taken, same⟩ := Option.bind_eq_some_iff.mp last
  cases same
  obtain ⟨read, -, ended⟩ := Option.map_eq_some_iff.mp taken
  rcases endLine_mode read with complete | quoted
  · rw [if_pos complete] at ended
    exact .inl (congrArg Stream.reader ended.symm)
  · rw [if_neg (by simp [quoted])] at ended
    rw [← ended]
    exact .inr quoted

theorem Commits.finish (commits : Commits records fields stream) (some : fields ≠ [])
    (line : stream.AtLine) :
    ∃ record others, stream.finish = records ++ record :: others ∧ fields <+: record := by
  rcases commits with ⟨rfl, part⟩ | ⟨record, others, complete, part⟩
  · rcases line with fresh | quoted
    · rw [fresh] at part
      exact absurd (List.prefix_nil.mp part) some
    · refine ⟨stream.reader.fields ++ [stream.reader.field], [], ?_, part.trans (List.prefix_append _ _)⟩
      simp [Stream.finish, Reader.rest, quoted]
  · exact ⟨record, others ++ stream.reader.rest, by simp [Stream.finish, complete], part⟩

theorem Pending.finish (pending : Pending records fields part stream) (line : stream.AtLine) :
    ∃ field record others, stream.finish = records ++ record :: others ∧ part <+: field ∧
      fields ++ [field] <+: record := by
  rcases pending with ⟨rfl, rfl, begun, opens⟩ | ⟨field, begun, commits⟩
  · rcases line with fresh | quoted
    · rw [fresh] at opens
      exact absurd rfl opens.1
    · refine ⟨_, stream.reader.fields ++ [stream.reader.field], [], ?_, begun, List.prefix_refl _⟩
      simp [Stream.finish, Reader.rest, quoted]
  · obtain ⟨record, others, finished, part⟩ := commits.finish (by simp) line
    exact ⟨field, record, others, finished, begun, part⟩

theorem processChar_stays {read : Reader} (taken : Stream.processChar char stream = some next)
    (done : stream.reader.processChar char = some read)
    (stays : char ≠ '\n' ∨ read.mode = .inQuotedField) : next = ⟨read, stream.records⟩ := by
  by_cases newline : char = '\n'
  · have quoted : read.mode = .inQuotedField := stays.resolve_left (absurd newline)
    have same : read.endLine = read := by rw [Reader.endLine, quoted]
    subst newline
    rw [Stream.processChar_newline, done, Option.map_some, same, if_neg (by simp [quoted])] at taken
    exact (Option.some.inj taken).symm
  · rw [Stream.processChar_other newline, done] at taken
    exact (Option.some.inj taken).symm

/-- How the field goes on after its opening quote. -/
inductive Continues (char : Char) (reader read : Reader) : Prop where
  | saved (mode : Mode) (same : read = reader.save mode)
  | quote (before : reader.mode = .inQuotedField)
      (after : read = { reader with mode := .quoteInQuotedField }) (quote : char = '"')
  | inside (before : reader.mode ≠ .inField)
      (after : read = ⟨.inQuotedField, reader.field ++ [char], reader.fields⟩)
  | outside (after : read = ⟨.inField, reader.field ++ [char], reader.fields⟩) (line : char ≠ '\n')

theorem continues_of_processChar {reader read : Reader} (taken : reader.processChar char = some read)
    (mode : reader.mode = .inQuotedField ∨ reader.mode = .quoteInQuotedField ∨ reader.mode = .inField) :
    Continues char reader read := by
  have newline : isNewline '\n' = true := by decide
  unfold Reader.processChar at taken
  rcases mode with quoted | closing | plain
  · rw [quoted] at taken
    dsimp only at taken
    split_ifs at taken with quote
    · exact .quote quoted (Option.some.inj taken).symm quote
    · exact .inside (by simp [quoted]) (add_eq_some.mp taken).2.symm
  · rw [closing] at taken
    dsimp only at taken
    split_ifs at taken with quote comma line
    · exact .inside (by simp [closing]) (add_eq_some.mp taken).2.symm
    · exact .saved _ (Option.some.inj taken).symm
    · exact .saved _ (Option.some.inj taken).symm
    · exact .outside (add_eq_some.mp taken).2.symm (fun same => line (same ▸ newline))
  · rw [plain] at taken
    dsimp only at taken
    split_ifs at taken with line comma
    · exact .saved _ (Option.some.inj taken).symm
    · exact .saved _ (Option.some.inj taken).symm
    · exact .outside (add_eq_some.mp taken).2.symm (fun same => line (same ▸ newline))

/-- `count` characters after an opening quote: the field has lost at most every
second one, or it is complete and shorter. -/
def Quoted (records : List Record) (fields : Record) (count : Nat) (stream : Stream) : Prop :=
  (stream.records = records ∧ stream.reader.fields = fields ∧ stream.reader.field.length ≤ count ∧
      (stream.reader.mode = .inQuotedField ∧ count ≤ 2 * stream.reader.field.length ∨
        stream.reader.mode = .quoteInQuotedField ∧ count ≤ 2 * stream.reader.field.length + 1 ∨
        stream.reader.mode = .inField)) ∨
    ∃ field, field.length < count ∧ Commits records (fields ++ [field]) stream

theorem Quoted.processChar (quoted : Quoted records fields count stream)
    (taken : Stream.processChar char stream = some next) : Quoted records fields (count + 1) next := by
  rcases quoted with ⟨rfl, rfl, short, modes⟩ | ⟨field, short, commits⟩
  · obtain ⟨read, done, delivered⟩ := delivered_of_processChar taken
    have continues := continues_of_processChar done (by tauto)
    cases continues with
    | saved mode same =>
      subst same
      exact .inr ⟨stream.reader.field, by omega, delivered.commits (List.prefix_refl _)⟩
    | quote before after quote =>
      rw [processChar_stays taken done (.inl (by simp [quote])), after]
      rw [before] at modes
      refine .inl ⟨rfl, rfl, Nat.le_succ_of_le short, .inr (.inl ⟨rfl, ?_⟩)⟩
      simp at modes
      exact Nat.succ_le_succ modes
    | inside before after =>
      have same : next = ⟨read, stream.records⟩ := processChar_stays taken done (.inr (by rw [after]))
      rw [same, after]
      refine .inl ⟨rfl, rfl, ?_, .inl ⟨rfl, ?_⟩⟩
      · simpa using short
      · rw [List.length_append, List.length_singleton]
        rcases modes with ⟨-, low⟩ | ⟨-, low⟩ | plain
        · omega
        · omega
        · exact absurd plain before
    | outside after line =>
      rw [processChar_stays taken done (.inl line), after]
      exact .inl ⟨rfl, rfl, by simpa using short, .inr (.inr rfl)⟩
  · exact .inr ⟨field, by omega, commits.processChar taken⟩

theorem Quoted.run (quoted : Quoted records fields count stream)
    (run : forEach text Stream.processChar stream = some final) :
    Quoted records fields (count + text.length) final := by
  induction text generalizing stream count with
  | nil =>
    cases run
    exact quoted
  | cons char text ih =>
    obtain ⟨next, taken, rest⟩ := Option.bind_eq_some_iff.mp run
    rw [List.length_cons, Nat.add_comm text.length, ← Nat.add_assoc]
    exact ih (quoted.processChar taken) rest

theorem quoted_text (quotes : '"' ∉ text)
    (run : forEach text Stream.processChar ⟨⟨.inQuotedField, field, fields⟩, records⟩ = some final) :
    final = ⟨⟨.inQuotedField, field ++ text, fields⟩, records⟩ := by
  induction text generalizing field with
  | nil =>
    cases run
    rw [List.append_nil]
  | cons char text ih =>
    obtain ⟨different, quotes⟩ := List.ne_and_not_mem_of_not_mem_cons quotes
    obtain ⟨next, taken, rest⟩ := Option.bind_eq_some_iff.mp run
    obtain ⟨read, done, -⟩ := delivered_of_processChar taken
    have added : read = ⟨.inQuotedField, field ++ [char], fields⟩ := by
      rw [Reader.processChar, if_neg different.symm] at done
      exact (add_eq_some.mp done).2.symm
    rw [processChar_stays taken done (.inr (by rw [added])), added] at rest
    rw [ih quotes rest, List.append_assoc, List.singleton_append]

/-- A field that begins with a quote is not read as it is, if a long enough text
without quotes follows it. -/
theorem quoted_field_differs (quotes : '"' ∉ tail) (short : text.length < 2 * tail.length)
    (run : forEach ('"' :: text ++ ',' :: tail ++ rest) Stream.processChar
      ⟨⟨.startField, [], fields⟩, records⟩ = some final) (line : final.AtLine) :
    ∃ field record others, final.finish = records ++ record :: others ∧ fields ++ [field] <+: record ∧
      field.length ≠ text.length + 1 := by
  have opened : Stream.processChar '"' ⟨⟨.startField, [], fields⟩, records⟩ =
      some ⟨⟨.inQuotedField, [], fields⟩, records⟩ := rfl
  have shape : '"' :: text ++ ',' :: tail ++ rest = '"' :: (text ++ [','] ++ tail ++ rest) := by simp
  rw [shape, forEach_cons, opened, Option.bind_eq_bind, Option.bind_some, forEach_append, forEach_append,
    forEach_append] at run
  obtain ⟨tailed, run, last⟩ := Option.bind_eq_some_iff.mp run
  obtain ⟨separated, run, tailRun⟩ := Option.bind_eq_some_iff.mp run
  obtain ⟨⟨⟨mode, field, kept⟩, before⟩, run, comma⟩ := Option.bind_eq_some_iff.mp run
  have begun : Quoted records fields 0 ⟨⟨.inQuotedField, [], fields⟩, records⟩ :=
    .inl ⟨rfl, rfl, Nat.le_refl _, .inl ⟨rfl, Nat.zero_le _⟩⟩
  have quoted := begun.run run
  rw [Nat.zero_add] at quoted
  have committed {field : List Char} (few : field.length ≤ text.length)
      (commits : Commits records (fields ++ [field]) separated) :
      ∃ field record others, final.finish = records ++ record :: others ∧ fields ++ [field] <+: record ∧
        field.length ≠ text.length + 1 := by
    obtain ⟨record, others, finished, part⟩ := ((commits.run tailRun).run last).finish (by simp) line
    exact ⟨field, record, others, finished, part, by omega⟩
  rcases quoted with ⟨same, rest, high, modes⟩ | ⟨field, few, commits⟩
  · dsimp only at same rest high modes
    subst same rest
    rcases modes with ⟨rfl, low⟩ | ⟨rfl, -⟩ | rfl
    · rw [quoted_text (by simp) comma] at tailRun
      rw [quoted_text quotes tailRun] at last
      have pending : Pending before kept (field ++ [','] ++ tail)
          ⟨⟨.inQuotedField, field ++ [','] ++ tail, kept⟩, before⟩ :=
        .inl ⟨rfl, rfl, List.prefix_refl _, by simp [Mode.Open]⟩
      obtain ⟨longer, record, others, finished, part, prefixed⟩ := (pending.run last).finish line
      refine ⟨longer, record, others, finished, prefixed, ?_⟩
      have grown := part.length_le
      simp only [List.length_append, List.length_singleton] at grown
      omega
    · cases comma
      exact committed high (.inl ⟨rfl, List.prefix_refl _⟩)
    · cases comma
      exact committed high (.inl ⟨rfl, List.prefix_refl _⟩)
  · exact committed (by omega) (commits.run comma)

theorem exists_separator (separated : ',' ∈ text ∨ '\n' ∈ text) :
    ∃ front separator back, text = front ++ separator :: back ∧ ',' ∉ front ∧ '\n' ∉ front ∧
      (separator = ',' ∨ separator = '\n') := by
  induction text with
  | nil => simp at separated
  | cons char text ih =>
    by_cases first : char = ',' ∨ char = '\n'
    · exact ⟨[], char, text, rfl, by simp, by simp, first⟩
    · obtain ⟨comma, lineFeed⟩ := not_or.mp first
      obtain ⟨front, separator, back, rfl, noComma, noLine, possible⟩ := ih (by
        simpa [Ne.symm comma, Ne.symm lineFeed] using separated)
      exact ⟨char :: front, separator, back, rfl, by simp [Ne.symm comma, noComma],
        by simp [Ne.symm lineFeed, noLine], possible⟩

/-- A field that is not plain is not read as it is, if a long enough text without
quotes follows it. -/
theorem unplain_field_differs (bad : ¬ Plain text) (carriageReturn : '\r' ∉ text)
    (limit : text.length ≤ fieldLimit) (quotes : '"' ∉ tail) (short : text.length < 2 * tail.length)
    (run : forEach (text ++ ',' :: tail ++ rest) Stream.processChar
      ⟨⟨.startField, [], fields⟩, records⟩ = some final) (line : final.AtLine) :
    ∃ field record others, final.finish = records ++ record :: others ∧ fields ++ [field] <+: record ∧
      field ≠ text := by
  by_cases quote : text.head? = some '"'
  · obtain ⟨body, rfl⟩ := List.head?_eq_some_iff.mp quote
    rw [List.length_cons] at short
    obtain ⟨field, record, others, finished, part, different⟩ :=
      quoted_field_differs quotes (by omega) run line
    exact ⟨field, record, others, finished, part, fun same => different (congrArg List.length same)⟩
  · have separated : ',' ∈ text ∨ '\n' ∈ text := by
      by_contra none
      obtain ⟨comma, lineFeed⟩ := not_or.mp none
      exact bad ⟨comma, lineFeed, carriageReturn, quote⟩
    obtain ⟨front, separator, back, rfl, comma, lineFeed, possible⟩ := exists_separator separated
    have plain : Plain front := by
      refine ⟨comma, lineFeed, fun found => carriageReturn (by simp [found]), fun found => quote ?_⟩
      rw [List.head?_append, found]
      rfl
    obtain ⟨commaRun, lineRun⟩ := plain_run plain (by simp at limit; omega)
      (.inl rfl : Begins fields front _) records
    have shape : front ++ separator :: back ++ ',' :: tail ++ rest =
        (front ++ [separator]) ++ (back ++ ',' :: tail ++ rest) := by simp
    rw [shape, forEach_append] at run
    obtain ⟨between, first, run⟩ := Option.bind_eq_some_iff.mp run
    have commits : Commits records (fields ++ [front]) between := by
      rcases possible with rfl | rfl
      · cases first.symm.trans commaRun
        exact .inl ⟨rfl, List.prefix_refl _⟩
      · cases first.symm.trans lineRun
        exact .inr ⟨_, [], rfl, List.prefix_refl _⟩
    obtain ⟨record, others, finished, part⟩ := (commits.run run).finish (by simp) line
    exact ⟨front, record, others, finished, part, by simp⟩

/-- All characters read so far are allowed. -/
structure Within (allowed : Char → Prop) (stream : Stream) : Prop where
  records : ∀ record ∈ stream.records, ∀ field ∈ record, ∀ char ∈ field, allowed char
  fields : ∀ field ∈ stream.reader.fields, ∀ char ∈ field, allowed char
  field : ∀ char ∈ stream.reader.field, allowed char

theorem Within.save (within : Within allowed ⟨reader, before⟩) (mode : Mode) :
    Within allowed ⟨reader.save mode, before⟩ := by
  refine ⟨within.records, ?_, nofun⟩
  intro field member
  rcases List.mem_append.mp member with old | last
  · exact within.fields field old
  · rw [List.mem_singleton.mp last]
    exact within.field

theorem Within.endLine (within : Within allowed ⟨reader, before⟩) :
    Within allowed ⟨reader.endLine, before⟩ := by
  rcases endLine_cases reader with saved | ⟨fields, field, -⟩
  · rw [saved]
    exact within.save _
  · exact ⟨within.records, fun _ member => within.fields _ (fields ▸ member),
      fun _ member => within.field _ (field ▸ member)⟩

theorem Within.processChar (within : Within allowed stream) (fine : allowed char)
    (taken : Stream.processChar char stream = some next) : Within allowed next := by
  obtain ⟨read, done, delivered⟩ := delivered_of_processChar taken
  have after : Within allowed ⟨read, stream.records⟩ := by
    rcases processChar_cases done with ⟨mode, rfl⟩ | ⟨fields, -, unchanged | added⟩
    · exact within.save mode
    · exact ⟨within.records, fun _ member => within.fields _ (fields ▸ member),
        fun _ member => within.field _ (unchanged ▸ member)⟩
    · refine ⟨within.records, fun _ member => within.fields _ (fields ▸ member), ?_⟩
      intro symbol member
      rcases List.mem_append.mp (added ▸ member) with old | last
      · exact within.field symbol old
      · rw [List.mem_singleton.mp last]
        exact fine
  cases delivered with
  | sameLine => exact after
  | complete =>
    refine ⟨?_, nofun, nofun⟩
    intro record member
    rcases List.mem_append.mp member with old | last
    · exact within.records record old
    · rw [List.mem_singleton.mp last]
      exact after.endLine.fields
  | quoted => exact after.endLine

theorem mem_text_of_read (run : forEach text Stream.processChar ⟨.fresh, []⟩ = some final) :
    ∀ record ∈ final.finish, ∀ field ∈ record, ∀ char ∈ field, char ∈ text := by
  have within : Within (· ∈ text) final :=
    forEach_keeps (Within (· ∈ text))
      (fun char member _ _ taken within => within.processChar member taken) run ⟨nofun, nofun, nofun⟩
  intro record member
  rcases List.mem_append.mp member with complete | last
  · exact within.records record complete
  · unfold Reader.rest at last
    split at last
    · rw [List.mem_singleton.mp last]
      exact (within.save .startRecord).fields
    · simp at last

end LoraEval.Core.Csv

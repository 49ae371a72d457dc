import LoraEval.App.Form

namespace LoraEval.App

open LoraEval.Core

/-- `Boolean.parseBoolean`: null and every text other than "true" are false. -/
def parseBoolean (text : Option String) : Bool :=
  match text with
  | some text => text.toLower == "true"
  | none => false

/-- The delay suffix `Long.toString(total / 1000).getBytes()`. -/
def delayBytes (total : Int) : List Byte := Java.numeralBytes (total.tdiv 1000)

/-- `createSettingsBytes`: the three message settings, the obsolete
auto-increment flag, the five parameter codes, and the delay in decimal. -/
def createSettingsBytes (entry : Entry) (total : Int) : Except Java.Exception (List Byte) := do
  let delay := delayBytes total
  let msgSettings ← (List.range 3).mapM fun i =>
    entry.parse Java.parseByte (i + Column.numberOfMessages)
  let autoIncrement : Byte := if parseBoolean (entry.get Column.autoIncrement) then 1 else 0
  let loraSettings ← (List.range' 4 5).mapM fun i =>
    entry.parse Java.parseByte (i + Column.frequencies - 4)
  return msgSettings ++ [autoIncrement] ++ loraSettings ++ delay

/-- `(hoursD * 3600 + minutesD * 60 + secondsD) * 1000` in 32-bit arithmetic,
widened to a long afterwards. -/
def delayTotal (hoursD minutesD secondsD : Int) : Int :=
  ((BitVec.ofInt 32 hoursD * 3600#32 + BitVec.ofInt 32 minutesD * 60#32 + BitVec.ofInt 32 secondsD)
    * 1000#32).toInt

/-- The range check of `startExperiment` on the three delay fields. -/
def delayRejected (hoursD minutesD secondsD : Int) : Bool :=
  minutesD > 59 || secondsD > 59 || minutesD < 0 || secondsD < 0 || hoursD < 0

/-- The delay `startExperiment` encodes: high power settings (positions below 4
of the power spinner) add the 17 seconds of a reconnection. -/
def encodedTotal (power : Byte) (total : Int) : Int :=
  if power.toInt < 4 then total + 17000 else total

/-- `startExperiment` up to the write of the settings; `none` is the toast on a
delay out of range. -/
def startExperiment (entry : Entry) (power : Byte) (hours minutes seconds : String) :
    Except Java.Exception (Option (List Byte)) := do
  let hoursD ← Java.parseInt hours
  let minutesD ← Java.parseInt minutes
  let secondsD ← Java.parseInt seconds
  if delayRejected hoursD minutesD secondsD then return none
  let expSettings ← createSettingsBytes entry (encodedTotal power (delayTotal hoursD minutesD secondsD))
  return some expSettings

/-- The nine bytes in front of the delay, for a form whose three numbers are
encoded as the given bytes. -/
def Form.header (form : Form) (messages time length : Byte) : List Byte :=
  [messages, time, length, if parseBoolean (some (toString form.autoIncrement)) then 1 else 0,
    encodeParamByte form.boxes.frequencies.toList, encodeParamByte form.boxes.bandwidths.toList,
    encodeParamByte form.boxes.spreadingFactors.toList,
    encodeParamByte form.boxes.codingRates.toList, encodeParamByte form.boxes.powers.toList]

private theorem record_numbers (form : Form) (rowId : Nat) :
    (List.range 3).mapM (fun i =>
      (form.record rowId).parse Java.parseByte (i + Column.numberOfMessages)) = (do
        let messages ← Java.parseByte form.noMsgs
        let time ← Java.parseByte form.timeBetween
        let length ← Java.parseByte form.msgLength
        return [messages, time, length]) := by
  have messages : (form.record rowId).parse Java.parseByte 1 = _ := Entry.parse_column rfl _
  have time : (form.record rowId).parse Java.parseByte 2 = _ := Entry.parse_column rfl _
  have length : (form.record rowId).parse Java.parseByte 3 = _ := Entry.parse_column rfl _
  rw [← messages, ← time, ← length]
  simp [List.range_succ, Column.numberOfMessages]

private theorem record_codes (form : Form) (rowId : Nat) :
    (List.range' 4 5).mapM (fun i =>
      (form.record rowId).parse Java.parseByte (i + Column.frequencies - 4)) =
        .ok (form.boxes.lists.map encodeParamByte) := by
  have fr := form.record_code rowId 0 (by simp [CheckBoxes.lists])
  have bw := form.record_code rowId 1 (by simp [CheckBoxes.lists])
  have sf := form.record_code rowId 2 (by simp [CheckBoxes.lists])
  have cr := form.record_code rowId 3 (by simp [CheckBoxes.lists])
  have pw := form.record_code rowId 4 (by simp [CheckBoxes.lists])
  simp only [Column.frequencies] at fr bw sf cr pw
  simp [List.range'_succ, Column.frequencies, fr, bw, sf, cr, pw, CheckBoxes.lists, bind,
    Except.bind, pure, Except.pure]

/-- The parameter codes of a stored form are read back as they were encoded, so
only the three numbers can fail. -/
theorem createSettingsBytes_record (form : Form) (rowId : Nat) (total : Int) :
    createSettingsBytes (form.record rowId) total = (do
      let messages ← Java.parseByte form.noMsgs
      let time ← Java.parseByte form.timeBetween
      let length ← Java.parseByte form.msgLength
      return form.header messages time length ++ delayBytes total) := by
  rw [createSettingsBytes, record_numbers, record_codes]
  have flag : (form.record rowId).get Column.autoIncrement = some (toString form.autoIncrement) := by
    simp [Entry.get, Form.record, logExperiment, Column.autoIncrement]
  simp only [flag, Form.header, CheckBoxes.lists]
  cases Java.parseByte form.noMsgs with
  | error failure => rfl
  | ok messages =>
    cases Java.parseByte form.timeBetween with
    | error failure => rfl
    | ok time =>
      cases Java.parseByte form.msgLength with
      | error failure => rfl
      | ok length => rfl

theorem createSettingsBytes_record_eq_ok (form : Form) (rowId : Nat) (total : Int) :
    createSettingsBytes (form.record rowId) total = .ok settings ↔
      ∃ messages time length, Java.parseByte form.noMsgs = .ok messages ∧
        Java.parseByte form.timeBetween = .ok time ∧ Java.parseByte form.msgLength = .ok length ∧
        settings = form.header messages time length ++ delayBytes total := by
  rw [createSettingsBytes_record]
  simp only [Java.bind_eq_ok, pure, Except.pure, Except.ok.injEq]
  constructor
  · rintro ⟨messages, parsed, time, timed, length, measured, same⟩
    exact ⟨messages, time, length, parsed, timed, measured, same.symm⟩
  · rintro ⟨messages, time, length, parsed, timed, measured, same⟩
    exact ⟨messages, parsed, time, timed, length, measured, same.symm⟩

/-- What `startExperiment` writes: the settings for the encoded delay of fields
that pass the range check. -/
theorem startExperiment_eq_some : startExperiment entry power hours minutes seconds = .ok (some settings) ↔
    ∃ hoursD minutesD secondsD, Java.parseInt hours = .ok hoursD ∧ Java.parseInt minutes = .ok minutesD ∧
      Java.parseInt seconds = .ok secondsD ∧ delayRejected hoursD minutesD secondsD = false ∧
      createSettingsBytes entry (encodedTotal power (delayTotal hoursD minutesD secondsD)) =
        .ok settings := by
  simp only [startExperiment, Java.bind_eq_ok]
  constructor
  · rintro ⟨hoursD, parsedHours, minutesD, parsedMinutes, secondsD, parsedSeconds, rest⟩
    refine ⟨hoursD, minutesD, secondsD, parsedHours, parsedMinutes, parsedSeconds, ?_⟩
    split at rest
    · cases rest
    · rename_i inRange
      obtain ⟨bytes, built, same⟩ := Java.bind_eq_ok.mp rest
      obtain rfl : bytes = settings := Option.some.inj (Except.ok.inj same)
      exact ⟨by simpa using inRange, built⟩
  · rintro ⟨hoursD, minutesD, secondsD, parsedHours, parsedMinutes, parsedSeconds, inRange, built⟩
    refine ⟨hoursD, parsedHours, minutesD, parsedMinutes, secondsD, parsedSeconds, ?_⟩
    rw [inRange, built]
    rfl

theorem delayTotal_bounds (hoursD minutesD secondsD : Int) :
    -2 ^ 31 ≤ delayTotal hoursD minutesD secondsD ∧ delayTotal hoursD minutesD secondsD < 2 ^ 31 :=
  ⟨BitVec.le_toInt _, BitVec.toInt_lt⟩

/-- The delay takes one to eight characters, whatever the 32-bit total wraps to. -/
theorem delayBytes_length (power : Byte) (hoursD minutesD secondsD : Int) :
    1 ≤ (delayBytes (encodedTotal power (delayTotal hoursD minutesD secondsD))).length ∧
      (delayBytes (encodedTotal power (delayTotal hoursD minutesD secondsD))).length ≤ 8 := by
  obtain ⟨low, high⟩ := delayTotal_bounds hoursD minutesD secondsD
  generalize delayTotal hoursD minutesD secondsD = total at low high ⊢
  have range : -2 ^ 31 ≤ encodedTotal power total ∧ encodedTotal power total < 2 ^ 31 + 17000 := by
    unfold encodedTotal
    split <;> omega
  constructor
  · exact List.length_pos_iff.mpr (Java.numeralBytes_ne_nil _)
  · have small : ((encodedTotal power total).tdiv 1000).natAbs < 10 ^ 7 := by
      rw [Int.natAbs_tdiv]
      show (encodedTotal power total).natAbs / 1000 < 10 ^ 7
      omega
    simpa [delayBytes, Java.numeralBytes] using decimal_length_le small (by decide)

theorem createSettingsBytes_length (built : createSettingsBytes entry total = .ok settings) :
    settings.length = 9 + (delayBytes total).length := by
  obtain ⟨msgSettings, numbers, built⟩ := Java.bind_eq_ok.mp built
  obtain ⟨loraSettings, codes, same⟩ := Java.bind_eq_ok.mp built
  have three : msgSettings.length = 3 := Java.mapM_length numbers
  have five : loraSettings.length = 5 := Java.mapM_length codes
  rw [← Except.ok.inj same]
  simp only [List.length_append, List.length_singleton, three, five]

theorem startExperiment_length
    (started : startExperiment entry power hours minutes seconds = .ok (some settings)) :
    10 ≤ settings.length ∧ settings.length ≤ 17 := by
  obtain ⟨hoursD, minutesD, secondsD, -, -, -, -, built⟩ := startExperiment_eq_some.mp started
  obtain ⟨one, eight⟩ := delayBytes_length power hoursD minutesD secondsD
  rw [createSettingsBytes_length built]
  omega

theorem sampleForm_encoded {messages time : Byte} (numbered : Java.parseByte noMsgs = .ok messages)
    (timed : Java.parseByte timeBetween = .ok time) (rowId : Nat) (total : Int) :
    createSettingsBytes ((sampleForm noMsgs timeBetween).record rowId) total =
      .ok ((sampleForm noMsgs timeBetween).header messages time 30 ++ delayBytes total) := by
  have length : Java.parseByte "30" = .ok 30 := by decide
  exact (createSettingsBytes_record_eq_ok (sampleForm noMsgs timeBetween) rowId total).mpr
    ⟨messages, time, 30, numbered, timed, length, rfl⟩

theorem sampleForm_started (noMsgs timeBetween : String) (messages time : Byte)
    (numbered : Java.parseByte noMsgs = .ok messages) (timed : Java.parseByte timeBetween = .ok time)
    (rowId : Nat) :
    startExperiment ((sampleForm noMsgs timeBetween).record rowId) 5 "0" "0" "10" =
      .ok (some ((sampleForm noMsgs timeBetween).header messages time 30 ++ delayBytes 10000)) := by
  have total : encodedTotal 5 (delayTotal 0 0 10) = 10000 := by decide
  refine startExperiment_eq_some.mpr ⟨0, 0, 10, by decide, by decide, by decide, by decide, ?_⟩
  rw [total]
  exact sampleForm_encoded numbered timed rowId 10000

theorem sampleForm_fifty_encoded :
    createSettingsBytes ((sampleForm "50" "4").record 1) 5000 =
      .ok ((sampleForm "50" "4").header 50 4 30 ++ delayBytes 5000) :=
  sampleForm_encoded (by decide) (by decide) 1 5000

theorem sampleForm_fifty_started :
    startExperiment ((sampleForm "50" "4").record 1) 5 "0" "0" "10" =
      .ok (some ((sampleForm "50" "4").header 50 4 30 ++ delayBytes 10000)) :=
  sampleForm_started "50" "4" 50 4 (by decide) (by decide) 1

end LoraEval.App

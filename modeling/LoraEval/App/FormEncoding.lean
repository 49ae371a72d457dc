import LoraEval.App.Settings
import LoraEval.App.Summary

/-! Which stored forms survive the encoding to settings bytes. The form bounds
neither the seconds between messages nor, by a miscopied test, the message
length from above; the encoder reads every number as a signed byte. -/

namespace LoraEval.App

open LoraEval.Core

def StoredAs (entry : Entry) (column : Nat) (byte : Option Byte) : Prop :=
  ∃ number value, entry.parse Java.parseInt column = .ok number ∧ byte = some value ∧
    (value.toNat : Int) = number

/-- Summary and settings of a stored experiment are computed without exception,
the three numbers arrive unchanged, and the length is the promised one. -/
structure SurvivesEncoding (entry : Entry) : Prop where
  summary : ∃ summary, initSummary entry = .ok summary
  settings : ∀ total, ∃ bytes, createSettingsBytes entry total = .ok bytes ∧
    StoredAs entry Column.numberOfMessages bytes[0]? ∧
    StoredAs entry Column.timeBetweenMsgs bytes[1]? ∧ StoredAs entry Column.msgLength bytes[2]?
  length : ∃ length, entry.parse Java.parseInt Column.msgLength = .ok length ∧
    11 ≤ length ∧ length ≤ 100

/-- The checks the form is missing: seconds in the range of a non-negative byte
and a message length of at most 100. -/
structure InByteRange (form : Form) : Prop where
  time : ∃ seconds, Java.parseInt form.timeBetween = .ok seconds ∧ 0 ≤ seconds ∧ seconds ≤ 127
  length : ∃ length, Java.parseInt form.msgLength = .ok length ∧ length ≤ 100

private theorem survives_of_range (accepted : Accepted form) (range : InByteRange form)
    (rowId : Nat) : SurvivesEncoding (form.record rowId) := by
  obtain ⟨number, messages, one, hundred⟩ := accepted.messages
  obtain ⟨seconds, time, positive, byteSized⟩ := range.time
  obtain ⟨length, measured, long⟩ := accepted.length
  obtain ⟨same, measured', short⟩ := range.length
  have identical : length = same := Except.ok.inj (measured.symm.trans measured')
  subst same
  obtain ⟨messagesByte, messagesParsed, messagesRead⟩ :=
    Java.parseByte_of_range messages (by omega) (by omega)
  obtain ⟨timeByte, timeParsed, timeRead⟩ := Java.parseByte_of_range time positive byteSized
  obtain ⟨lengthByte, lengthParsed, lengthRead⟩ := Java.parseByte_of_range measured (by omega) (by omega)
  have messagesRow : (form.record rowId).parse Java.parseInt Column.numberOfMessages = .ok number :=
    (Entry.parse_column rfl _).trans messages
  have timeRow : (form.record rowId).parse Java.parseInt Column.timeBetweenMsgs = .ok seconds :=
    (Entry.parse_column rfl _).trans time
  have lengthRow : (form.record rowId).parse Java.parseInt Column.msgLength = .ok length :=
    (Entry.parse_column rfl _).trans measured
  refine ⟨?_, ?_, ⟨length, lengthRow, long, short⟩⟩
  · obtain ⟨texts, computed⟩ := initSummary_record form rowId accepted.boxes messages time
    exact ⟨_, computed⟩
  · intro total
    refine ⟨_, (createSettingsBytes_record_eq_ok form rowId total).mpr
      ⟨messagesByte, timeByte, lengthByte, messagesParsed, timeParsed, lengthParsed, rfl⟩, ?_, ?_, ?_⟩
    · exact ⟨number, messagesByte, messagesRow, rfl, messagesRead⟩
    · exact ⟨seconds, timeByte, timeRow, rfl, timeRead⟩
    · exact ⟨length, lengthByte, lengthRow, rfl, lengthRead⟩

private theorem range_of_survives (survives : SurvivesEncoding (form.record rowId)) :
    InByteRange form := by
  obtain ⟨bytes, built, -, ⟨seconds, value, time, second, read⟩, -⟩ := survives.settings 0
  obtain ⟨length, measured, long, short⟩ := survives.length
  replace time := (Entry.parse_column rfl _).symm.trans time
  replace measured := (Entry.parse_column rfl _).symm.trans measured
  obtain ⟨messagesByte, timeByte, lengthByte, -, timeParsed, -, settings⟩ :=
    (createSettingsBytes_record_eq_ok form rowId 0).mp built
  have byte : timeByte = value := by
    rw [settings] at second
    exact Option.some.inj second
  subst byte
  obtain ⟨same, parsed, low, high, -⟩ := Java.parseByte_eq_ok.mp timeParsed
  have identical : seconds = same := Except.ok.inj (time.symm.trans parsed)
  subst same
  have positive : 0 ≤ seconds := (Java.toNat_of_parseByte timeParsed time).mp read
  exact ⟨⟨seconds, time, positive, high⟩, ⟨length, measured, short⟩⟩

/-- A stored form survives the encoding exactly when its seconds and its message
length lie in the ranges `experimentReady` fails to check. -/
theorem survivesEncoding_iff (stored : experimentReady form rowId = .ok (.stored entry)) :
    SurvivesEncoding entry ↔ InByteRange form := by
  obtain ⟨accepted, rfl⟩ := (experimentReady_eq_stored rowId).mp stored
  exact ⟨range_of_survives, fun range => survives_of_range accepted range rowId⟩

theorem survivesEncoding_sample :
    experimentReady (sampleForm "50" "4") 1 = .ok (.stored ((sampleForm "50" "4").record 1)) ∧
      (SurvivesEncoding ((sampleForm "50" "4").record 1) ↔ InByteRange (sampleForm "50" "4")) := by
  have stored := sampleForm_fifty_stored
  exact ⟨stored, survivesEncoding_iff stored⟩

/-- Two hundred seconds between messages are accepted and stored, but no
settings can be built from them. -/
theorem two_hundred_seconds_not_encoded :
    experimentReady (sampleForm "50" "200") 1 = .ok (.stored ((sampleForm "50" "200").record 1)) ∧
      ¬ SurvivesEncoding ((sampleForm "50" "200").record 1) := by
  refine ⟨sampleForm_stored "50" "200" 50 (by decide) (by decide) (by decide) (by decide) 1, ?_⟩
  intro survives
  obtain ⟨seconds, time, -, high⟩ := (range_of_survives survives).time
  have parsed : Java.parseInt "200" = .ok 200 := by decide
  have same : 200 = seconds := Except.ok.inj (parsed.symm.trans time)
  omega

end LoraEval.App

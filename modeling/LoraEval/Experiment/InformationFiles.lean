import LoraEval.App.Form
import LoraEval.Graphs.InputFiles

namespace LoraEval.Experiment

open LoraEval.Core LoraEval.App LoraEval.Graphs

def columnText (column : Option String) : List Char := (column.getD "null").toList

/-- `exp_params` holds the texts of the 34 columns and nothing else. -/
def InfoRoundTrips (converts : Nat → List Char → Bool) (entry : Entry) : Prop :=
  readInfo converts (makeExpInfoText entry) = some (entry.toList.map columnText)

/-- `exp_params` holds the 34 columns, where the text of a null column is no column. -/
def ColumnsRoundTrip (converts : Nat → List Char → Bool) (entry : Entry) : Prop :=
  ∃ params, readInfo converts (makeExpInfoText entry) = some params ∧
    params.map some = entry.toList.map (Option.map String.toList)

def SingleLine (text : List Char) : Prop := '\n' ∉ text ∧ '\r' ∉ text

/-- The columns the script can read: every one on its line, and a start time and a
temperature that it can convert. -/
def LineByLine (converts : Nat → List Char → Bool) (entry : Entry) : Prop :=
  (∀ column ∈ entry.toList, SingleLine (columnText column)) ∧
    ∀ position ∈ convertedLines, ∀ column, entry[position]? = some column →
      converts position (columnText column) = true

theorem infoLines (lines : ∀ column ∈ entry.toList, SingleLine (columnText column)) :
    textLines (universalNewlines (makeExpInfoText entry)) =
      (entry.toList.map columnText).map (· ++ ['\n']) := by
  have shape : makeExpInfoText entry = (entry.toList.map columnText).flatMap (· ++ ['\n']) := by
    rw [makeExpInfoText, List.flatMap_map]
    rfl
  have returns : '\r' ∉ makeExpInfoText entry := by
    rw [shape]
    intro member
    obtain ⟨text, known, found⟩ := List.mem_flatMap.mp member
    obtain ⟨column, stored, rfl⟩ := List.mem_map.mp known
    rcases List.mem_append.mp found with inside | newline
    · exact (lines column stored).2 inside
    · simp at newline
  rw [universalNewlines_of_plain returns, shape]
  apply textLines_flatMap
  intro text known
  obtain ⟨column, stored, rfl⟩ := List.mem_map.mp known
  exact (lines column stored).1

theorem stripped (lines : ∀ column ∈ entry.toList, SingleLine (columnText column)) :
    (textLines (universalNewlines (makeExpInfoText entry))).map stripNewlines =
      entry.toList.map columnText := by
  rw [infoLines lines, List.map_map, List.map_map]
  apply List.map_congr_left
  intro column stored
  exact (stripNewlines_body (lines column stored).1).2

theorem singleLine_of_read (read : readInfo converts file = some params) (member : text ∈ params) :
    SingleLine text := by
  obtain ⟨-, rfl⟩ := (readInfo_eq_some converts file).mp read
  obtain ⟨line, known, rfl⟩ := List.mem_map.mp member
  refine ⟨stripNewlines_line known, fun found => ?_⟩
  exact not_mem_universalNewlines file (mem_of_mem_textLines known (mem_of_mem_stripNewlines found))

theorem readable_iff (entry : Entry) (converts : Nat → List Char → Bool)
    (lines : ∀ column ∈ entry.toList, SingleLine (columnText column)) :
    (∀ line ∈ (textLines (universalNewlines (makeExpInfoText entry))).zipIdx,
      Readable converts line.2 (stripNewlines line.1)) ↔
      ∀ position ∈ convertedLines, ∀ column, entry[position]? = some column →
        converts position (columnText column) = true := by
  have line (position : Nat) : (textLines (universalNewlines (makeExpInfoText entry)))[position]? =
      entry[position]?.map fun column => columnText column ++ ['\n'] := by
    rw [infoLines lines, List.map_map, List.getElem?_map, Vector.getElem?_toList]
    rfl
  have text {position : Nat} {column : Option String} (found : entry[position]? = some column) :
      stripNewlines (columnText column ++ ['\n']) = columnText column :=
    (stripNewlines_body (lines column (by simpa using Vector.mem_of_getElem? found)).1).2
  constructor
  · intro readable position converted column found
    have member : (columnText column ++ ['\n'], position) ∈
        (textLines (universalNewlines (makeExpInfoText entry))).zipIdx := by
      rw [List.mk_mem_zipIdx_iff_getElem?, line, found]
      rfl
    have converts := (readable _ member).2 converted
    rwa [text found] at converts
  · rintro converts ⟨read, position⟩ member
    rw [List.mk_mem_zipIdx_iff_getElem?, line] at member
    obtain ⟨column, found, rfl⟩ := Option.map_eq_some_iff.mp member
    refine ⟨(Vector.getElem?_eq_some_iff.mp found).1, fun converted => ?_⟩
    rw [text found]
    exact converts position converted column found

theorem infoRoundTrips_texts (converts : Nat → List Char → Bool) (entry : Entry) :
    InfoRoundTrips converts entry ↔ LineByLine converts entry := by
  constructor
  · intro roundTrip
    have lines : ∀ column ∈ entry.toList, SingleLine (columnText column) :=
      fun column stored => singleLine_of_read roundTrip (List.mem_map_of_mem stored)
    have read := (readInfo_eq_some converts _).mp roundTrip
    exact ⟨lines, (readable_iff entry converts lines).mp read.1⟩
  · intro fine
    exact (readInfo_eq_some converts _).mpr
      ⟨(readable_iff entry converts fine.1).mpr fine.2, stripped fine.1⟩

theorem columnsRoundTrip_texts (converts : Nat → List Char → Bool) (entry : Entry) :
    ColumnsRoundTrip converts entry ↔
      InfoRoundTrips converts entry ∧ ∀ column ∈ entry.toList, column ≠ none := by
  have written (stored : ∀ column ∈ entry.toList, column ≠ none) :
      (entry.toList.map columnText).map some = entry.toList.map (Option.map String.toList) := by
    rw [List.map_map]
    apply List.map_congr_left
    intro column member
    cases column with
    | none => exact absurd rfl (stored none member)
    | some text => rfl
  constructor
  · rintro ⟨params, read, same⟩
    have stored : ∀ column ∈ entry.toList, column ≠ none := by
      rintro _ member rfl
      have null : none ∈ params.map some := by
        rw [same]
        exact List.mem_map_of_mem member
      simp at null
    rw [← written stored] at same
    obtain rfl := List.map_injective_iff.mpr (Option.some_injective _) same
    exact ⟨read, stored⟩
  · rintro ⟨read, stored⟩
    exact ⟨_, read, written stored⟩

/-- The information file is read back exactly if every column stands on its line and
the start time and temperature can be converted; the columns themselves, exactly if
moreover none is null. -/
theorem infoRoundTrips_iff (converts : Nat → List Char → Bool) (entry : Entry) :
    (InfoRoundTrips converts entry ↔ LineByLine converts entry) ∧
      (ColumnsRoundTrip converts entry ↔
        LineByLine converts entry ∧ ∀ column ∈ entry.toList, column ≠ none) := by
  rw [columnsRoundTrip_texts, infoRoundTrips_texts]
  exact ⟨Iff.rfl, Iff.rfl⟩

def sampleUpdates : List (String × String) :=
  [("number_of_iterations", "1"), ("duration", "205"), ("start_time", "1628103610"),
    ("sender_latitude", "54.3"), ("sender_longitude", "10.1"), ("sender_altitude", "94.0"),
    ("receiver_latitude", "54.3"), ("receiver_longitude", "10.2"), ("receiver_altitude", "42.0"),
    ("actual_distance", "3390.3"), ("altitude_difference", "52.0"), ("temperature_values", "289.75"),
    ("humidity_values", "67"), ("pressure_values", "1014"), ("weather_descriptions", "overcast clouds"),
    ("sender_orientation", "x: 1,20"), ("receiver_orientation", "x: 1,20"), ("state", "finished")]

def update (entry : Entry) : Option Entry :=
  forEach sampleUpdates (fun value entry => setValueInExpInfo value.2 value.1 entry) entry

def twoLineForm : Form := { sampleForm "50" "4" with description := "first\nsecond" }

theorem twoLineForm_not_read :
    experimentReady twoLineForm 1 = .ok (.stored (twoLineForm.record 1)) ∧
      ∃ entry, update (twoLineForm.record 1) = some entry ∧
        ∀ converts, ¬ InfoRoundTrips converts entry ∧ ¬ ColumnsRoundTrip converts entry := by
  obtain ⟨accepted, -⟩ := (experimentReady_eq_stored 1).mp sampleForm_fifty_stored
  have stored : experimentReady twoLineForm 1 = .ok (.stored (twoLineForm.record 1)) :=
    (experimentReady_eq_stored 1).mpr ⟨⟨accepted.messages, accepted.time, accepted.length,
      accepted.distance, accepted.environment, accepted.boxes⟩, rfl⟩
  have described : (update (twoLineForm.record 1)).bind (·[6]?) = some (some "first\nsecond") := by
    decide +kernel
  obtain ⟨entry, updated, column⟩ := Option.bind_eq_some_iff.mp described
  refine ⟨stored, entry, updated, fun converts => ?_⟩
  have broken : ¬ InfoRoundTrips converts entry := by
    intro roundTrip
    have line := ((infoRoundTrips_texts converts entry).mp roundTrip).1 _
      (by simpa using Vector.mem_of_getElem? column)
    exact line.1 (by decide)
  exact ⟨broken, fun columns => broken ((columnsRoundTrip_texts converts entry).mp columns).1⟩

end LoraEval.Experiment

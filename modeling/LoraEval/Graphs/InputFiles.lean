import LoraEval.Core.Csv

namespace LoraEval.Graphs

open LoraEval.Core LoraEval.Core.Csv

/-- The number of `exp_param_names`. -/
def expParamCount : Nat := 34

/-- The lines that are converted to be shown: the start time to a date, the
temperature to degrees. -/
def convertedLines : List Nat := [19, 28]

/-- One line of the information file. Reading ends with an exception if the line has
no name or cannot be converted; which texts can is left to Python, `converts`. -/
def readInfoLine (converts : Nat → List Char → Bool) (line : List Char × Nat)
    (params : List (List Char)) : Option (List (List Char)) :=
  if line.2 ∈ convertedLines ∧ converts line.2 (stripNewlines line.1) = false then none
  else if expParamCount ≤ line.2 then none
  else some (params ++ [stripNewlines line.1])

/-- `exp_params`: the lines of the information file, by position. -/
def readInfo (converts : Nat → List Char → Bool) (file : List Char) : Option (List (List Char)) :=
  forEach (textLines (universalNewlines file)).zipIdx (readInfoLine converts) []

def Readable (converts : Nat → List Char → Bool) (position : Nat) (text : List Char) : Prop :=
  position < expParamCount ∧ (position ∈ convertedLines → converts position text = true)

theorem readInfoLine_eq_some (converts : Nat → List Char → Bool) (line : List Char) (position : Nat)
    (params : List (List Char)) : readInfoLine converts (line, position) params = some final ↔
      Readable converts position (stripNewlines line) ∧ params ++ [stripNewlines line] = final := by
  simp only [readInfoLine, Readable]
  split_ifs with fails beyond
  · simp [fails.1, fails.2]
  · simp [Nat.not_lt.mpr beyond]
  · simp_all

theorem readInfoLines_eq_some (converts : Nat → List Char → Bool) (lines : List (List Char)) (start : Nat)
    (params : List (List Char)) :
    forEach (lines.zipIdx start) (readInfoLine converts) params = some final ↔
      (∀ line ∈ lines.zipIdx start, Readable converts line.2 (stripNewlines line.1)) ∧
        params ++ lines.map stripNewlines = final := by
  induction lines generalizing start params with
  | nil => simp [forEach_nil]
  | cons line lines ih =>
    rw [List.zipIdx_cons, forEach_cons, Option.bind_eq_bind, Option.bind_eq_some_iff]
    simp only [readInfoLine_eq_some, ih, List.forall_mem_cons, List.map_cons]
    constructor
    · rintro ⟨_, ⟨first, rfl⟩, rest, rfl⟩
      exact ⟨⟨first, rest⟩, by simp⟩
    · rintro ⟨⟨first, rest⟩, rfl⟩
      exact ⟨_, ⟨first, rfl⟩, rest, by simp⟩

theorem readInfo_eq_some (converts : Nat → List Char → Bool) (file : List Char) :
    readInfo converts file = some params ↔
      (∀ line ∈ (textLines (universalNewlines file)).zipIdx,
        Readable converts line.2 (stripNewlines line.1)) ∧
        (textLines (universalNewlines file)).map stripNewlines = params := by
  rw [readInfo, readInfoLines_eq_some, List.nil_append]

/-- The rows of the result file, NUL characters left out; `none` if the reader
raises an error. -/
def readResults (file : List Char) : Option (List (DictRow (List Char))) :=
  (readLines ((textLines (universalNewlines file)).map (List.filter (· ≠ '\x00'))) .fresh).map dictRows

end LoraEval.Graphs

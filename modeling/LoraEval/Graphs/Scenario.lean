import LoraEval.Graphs.Session

/-! The scenario mode of `main.py`: the averages of twelve experiments at four distances.
`process_data` starts a new group of averages whenever the distance changes, in every mode. -/

namespace LoraEval.Graphs

/-- An experiment with the distance of its boards, `int(float(exp_params[26]))`. -/
structure PlacedExperiment extends Experiment where
  distance : Int
deriving DecidableEq

/-- The globals that the scenario mode draws from. -/
structure Scenario (φ : Type) where
  rssiArr : List (Series φ)
  rssiArrDistances : List Int
  snrAveragingArr : List Int
  rssiArrSnr : List φ

def Scenario.initial : Scenario φ := ⟨[], [], [], []⟩

/-- The positions of the four distances on the axis, whatever the distances are. -/
def xArr : List Int := [200, 400, 600, 800]

/-- `np.delete`; an index that is out of bounds raises an exception. -/
def npDelete (values : List α) (indices : List Nat) : Option (List α) :=
  if ∀ index ∈ indices, index < values.length then
    some ((values.zipIdx.filter fun value => value.2 ∉ indices).map Prod.fst)
  else none

/-- The places of the empty arrays, counted from `start`. -/
def zeroSizeDevArrays (devArrs : List (List φ)) (start : Nat) : List Nat :=
  ((devArrs.zipIdx start).filter fun devArr => devArr.1.isEmpty).map Prod.snd

/-- The values behind each point of one graph. A distance without values has no point;
`plt.errorbar` raises an exception unless there is a position for each point. -/
def errorbar (rssiArr : List (Series φ)) (graph : Fin 6) : Option (List (Int × List φ)) := do
  let devArrs := rssiArr.map fun series => series.get graph
  let yArr := devArrs.filter fun devArr => !devArr.isEmpty
  let xArrSub ← npDelete xArr (zeroSizeDevArrays devArrs 0)
  if xArrSub.length = yArr.length then some ((xArrSub.map (· + 9 * (graph : Int))).zip yArr) else none

structure ScenarioChart (φ : Type) where
  graphs : List (List (Int × List φ))
  noiseFloor : List (Int × φ)

section

variable [Zero φ] (quotient : Int → Int → φ) (mean : List Int → φ)

/-- What every call of `process_data` does with the distance. -/
def Scenario.enter (distance : Int) (scenario : Scenario φ) : Scenario φ :=
  if scenario.rssiArrDistances.getLast? = some distance then scenario
  else
    let entered := { scenario with
      rssiArr := scenario.rssiArr ++ [Vector.replicate 6 []]
      rssiArrDistances := scenario.rssiArrDistances ++ [distance] }
    if scenario.snrAveragingArr.isEmpty then entered
    else { entered with
      rssiArrSnr := scenario.rssiArrSnr ++ [mean scenario.snrAveragingArr]
      snrAveragingArr := [] }

def Scenario.gather (iteration : Nat) (data : IterationData) (scenario : Scenario φ) : Scenario φ :=
  if data.rssiSum = 0 then scenario
  else { scenario with
    rssiArr := scenario.rssiArr.modify (scenario.rssiArrDistances.length - 1)
      (·.append iteration (quotient data.rssiSum data.rssiIteration.length))
    snrAveragingArr := scenario.snrAveragingArr ++ data.snrIteration }

def Scenario.gatherAll : Nat → List IterationData → Scenario φ → Scenario φ
  | _, [], scenario => scenario
  | iteration, data :: rest, scenario =>
    if Mode.rssiPerScenario.indexError iteration data then scenario
    else gatherAll (iteration + 1) rest (scenario.gather quotient iteration data)

/-- The chart of the twelfth experiment. The groups are emptied behind the drawing, so an
exception leaves them as they are. -/
def Scenario.draw (scenario : Scenario φ) : Scenario φ × Option (ScenarioChart φ) :=
  let rssiArrSnr := scenario.rssiArrSnr ++ [mean scenario.snrAveragingArr]
  match (List.finRange 6).mapM (errorbar scenario.rssiArr) with
  | some graphs =>
    if rssiArrSnr.length = xArr.length then
      (.initial, some ⟨graphs, (xArr.map (· + 18)).zip rssiArrSnr⟩)
    else ({ scenario with rssiArrSnr := rssiArrSnr, snrAveragingArr := [] }, none)
  | none => ({ scenario with rssiArrSnr := rssiArrSnr, snrAveragingArr := [] }, none)

/-- The globals of `main.py` with those of the scenario mode. -/
structure Globals (φ : Type) where
  session : Session φ
  scenario : Scenario φ

def Globals.initial : Globals φ := ⟨.initial, .initial⟩

/-- The scenario mode has gathered the experiment, and it is the twelfth that is counted. -/
def Globals.attempts (experiment : PlacedExperiment) (globals : Globals φ) : Bool :=
  globals.session.mode = .rssiPerScenario ∧ globals.session.expCounter + 1 = 12 ∧
    (globals.session.gatherAll (metrics quotient experiment.toExperiment) 0 experiment.iterations).2

/-- `process_data`, with the scenario chart it draws. -/
def Globals.processData (experiment : PlacedExperiment) (globals : Globals φ) :
    Globals φ × Option (ScenarioChart φ) :=
  let session := (globals.session.processData quotient experiment.toExperiment).1
  let entered := globals.scenario.enter mean experiment.distance
  if globals.session.mode = .rssiPerScenario then
    let gathered := entered.gatherAll quotient 0 experiment.iterations
    if globals.attempts quotient experiment then
      (⟨session, (gathered.draw mean).1⟩, (gathered.draw mean).2)
    else (⟨session, gathered⟩, none)
  else (⟨session, entered⟩, none)

inductive Selection where
  | setMode (selection : Mode)
  | processData (experiment : PlacedExperiment)
deriving DecidableEq

def Globals.choose (globals : Globals φ) : Selection → Globals φ
  | .setMode selection => { globals with session := globals.session.setMode selection }
  | .processData experiment => (globals.processData quotient mean experiment).1

def Globals.run (history : List Selection) : Globals φ :=
  history.foldl (Globals.choose quotient mean) .initial

end

section

variable {devArrs : List (List φ)} {values : List α}

theorem zeroSizeDevArrays_cons (devArr : List φ) (devArrs : List (List φ)) (start : Nat) :
    zeroSizeDevArrays (devArr :: devArrs) start =
      if devArr.isEmpty then start :: zeroSizeDevArrays devArrs (start + 1)
      else zeroSizeDevArrays devArrs (start + 1) := by
  cases empty : devArr.isEmpty <;> simp [zeroSizeDevArrays, empty]

theorem bounds_of_mem_zeroSizeDevArrays (member : index ∈ zeroSizeDevArrays devArrs start) :
    start ≤ index ∧ index < start + devArrs.length := by
  obtain ⟨⟨devArr, place⟩, found, rfl⟩ := List.mem_map.mp member
  have listed := (List.mem_filter.mp found).1
  exact ⟨List.le_snd_of_mem_zipIdx listed, List.snd_lt_add_of_mem_zipIdx listed⟩

private theorem filter_behind (devArr : List φ) (devArrs : List (List φ)) (values : List α) (start : Nat) :
    ((values.zipIdx (start + 1)).filter fun value => value.2 ∉ zeroSizeDevArrays (devArr :: devArrs) start) =
      (values.zipIdx (start + 1)).filter fun value => value.2 ∉ zeroSizeDevArrays devArrs (start + 1) := by
  refine List.filter_congr fun value member => ?_
  have behind : value.2 ≠ start := by
    have := List.le_snd_of_mem_zipIdx member
    omega
  rw [zeroSizeDevArrays_cons]
  split <;> simp [behind]

private theorem filter_first (devArr : List φ) (devArrs : List (List φ)) (value : α) (values : List α)
    (start : Nat) :
    (((value :: values).zipIdx start).filter fun value =>
        value.2 ∉ zeroSizeDevArrays (devArr :: devArrs) start) =
      (if devArr.isEmpty then [] else [(value, start)]) ++
        (values.zipIdx (start + 1)).filter fun value => value.2 ∉ zeroSizeDevArrays devArrs (start + 1) := by
  have behind : start ∉ zeroSizeDevArrays devArrs (start + 1) := fun member => by
    have := bounds_of_mem_zeroSizeDevArrays member
    omega
  rw [List.zipIdx_cons, List.filter_cons, filter_behind, zeroSizeDevArrays_cons]
  cases devArr.isEmpty <;> simp [behind]

/-- As many arrays as values: the values of the empty arrays are left out. -/
theorem zipIdx_filter_eq (same : values.length = devArrs.length) (start : Nat) :
    ((values.zipIdx start).filter fun value => value.2 ∉ zeroSizeDevArrays devArrs start).map Prod.fst =
      ((values.zip devArrs).filter fun point => !point.2.isEmpty).map Prod.fst := by
  induction values generalizing devArrs start with
  | nil => simp
  | cons value values ih =>
    obtain ⟨devArr, devArrs, rfl⟩ := List.exists_cons_of_length_eq_add_one same.symm
    have rest := ih (Nat.succ.inj same) (start + 1)
    rw [filter_first, List.map_append, rest]
    cases empty : devArr.isEmpty <;> simp [empty]

/-- How many values `np.delete` leaves. -/
theorem zipIdx_filter_length (values : List α) (devArrs : List (List φ)) (start : Nat) :
    ((values.zipIdx start).filter fun value => value.2 ∉ zeroSizeDevArrays devArrs start).length +
      (zeroSizeDevArrays devArrs start).countP (· < start + values.length) = values.length := by
  induction values generalizing devArrs start with
  | nil =>
    have none : (zeroSizeDevArrays devArrs start).countP (· < start + 0) = 0 := by
      rw [List.countP_eq_zero]
      intro index member
      simpa using (bounds_of_mem_zeroSizeDevArrays member).1
    simpa using none
  | cons value values ih =>
    cases devArrs with
    | nil => simp [zeroSizeDevArrays]
    | cons devArr devArrs =>
      have rest := ih devArrs (start + 1)
      have same : start + 1 + values.length = start + (values.length + 1) := by omega
      rw [same] at rest
      rw [filter_first, zeroSizeDevArrays_cons, List.length_append, List.length_cons]
      cases empty : devArr.isEmpty
      · simp only [Bool.false_eq_true, if_false, List.length_singleton]
        omega
      · have inside : start < start + (values.length + 1) := by omega
        simp only [if_true, List.length_nil, List.countP_cons, inside, decide_true]
        omega

theorem zeroSizeDevArrays_length (devArrs : List (List φ)) (start : Nat) :
    (devArrs.filter fun devArr => !devArr.isEmpty).length + (zeroSizeDevArrays devArrs start).length =
      devArrs.length := by
  induction devArrs generalizing start with
  | nil => rfl
  | cons devArr devArrs ih =>
    have rest := ih (start + 1)
    rw [zeroSizeDevArrays_cons]
    cases empty : devArr.isEmpty <;> simp [empty] <;> omega

theorem npDelete_eq (same : values.length = devArrs.length) :
    npDelete values (zeroSizeDevArrays devArrs 0) =
      some (((values.zip devArrs).filter fun point => !point.2.isEmpty).map Prod.fst) := by
  have inside : ∀ index ∈ zeroSizeDevArrays devArrs 0, index < values.length := fun index member => by
    have := bounds_of_mem_zeroSizeDevArrays member
    omega
  rw [npDelete, if_pos inside, zipIdx_filter_eq same]

/-- `np.delete` leaves as many values as there are points only if there are as many values
as arrays. -/
theorem npDelete_length (deleted : npDelete values (zeroSizeDevArrays devArrs 0) = some left)
    (fits : left.length = (devArrs.filter fun devArr => !devArr.isEmpty).length) :
    values.length = devArrs.length := by
  rw [npDelete] at deleted
  split at deleted
  · rename_i inside
    obtain rfl := Option.some.inj deleted
    rw [List.length_map] at fits
    have all : (zeroSizeDevArrays devArrs 0).countP (· < 0 + values.length) =
        (zeroSizeDevArrays devArrs 0).length := by
      rw [List.countP_eq_length]
      simpa using inside
    have counted := zipIdx_filter_length values devArrs 0
    have parts := zeroSizeDevArrays_length devArrs 0
    omega
  · cases deleted

end

theorem errorbar_eq (rssiArr : List (Series φ)) (graph : Fin 6) :
    errorbar rssiArr graph =
      if rssiArr.length = xArr.length then
        some (((xArr.zip (rssiArr.map fun series => series.get graph)).filter
          fun point => !point.2.isEmpty).map fun point => (point.1 + 9 * (graph : Int), point.2))
      else none := by
  have count : (rssiArr.map fun series => series.get graph).length = rssiArr.length := List.length_map ..
  rw [← count, errorbar]
  generalize rssiArr.map (fun series => series.get graph) = devArrs
  by_cases same : devArrs.length = xArr.length
  · have points : (devArrs.filter fun devArr => !devArr.isEmpty) =
        ((xArr.zip devArrs).filter fun point => !point.2.isEmpty).map Prod.snd := by
      conv_lhs => rw [← List.map_snd_zip same.le, List.filter_map]
      rfl
    simp only [npDelete_eq same.symm, if_pos same, Option.bind_eq_bind, Option.bind_some, points,
      List.length_map, if_true, List.map_map, List.zip_map']
    rfl
  · rw [if_neg same]
    cases deleted : npDelete xArr (zeroSizeDevArrays devArrs 0) with
    | none => rfl
    | some xArrSub =>
      exact if_neg fun fits => same (npDelete_length deleted fits).symm

def ScenarioChart.of (groups : List (Series φ)) (noise : List φ) : ScenarioChart φ where
  graphs := (List.finRange 6).map fun graph : Fin 6 =>
    ((xArr.zip (groups.map fun series => series.get graph)).filter fun point => !point.2.isEmpty).map
      fun point => (point.1 + 9 * (graph : Int), point.2)
  noiseFloor := (xArr.map (· + 18)).zip noise

/-- The chart is drawn exactly if there are four groups and, with the last one, four noise
averages. -/
theorem Scenario.draw_eq (mean : List Int → φ) (scenario : Scenario φ) :
    scenario.draw mean =
      if scenario.rssiArr.length = 4 ∧ scenario.rssiArrSnr.length = 3 then
        (.initial, some (.of scenario.rssiArr (scenario.rssiArrSnr ++ [mean scenario.snrAveragingArr])))
      else ({ scenario with
        rssiArrSnr := scenario.rssiArrSnr ++ [mean scenario.snrAveragingArr]
        snrAveragingArr := [] }, none) := by
  have four : xArr.length = 4 := rfl
  have counted : (scenario.rssiArrSnr ++ [mean scenario.snrAveragingArr]).length = 4 ↔
      scenario.rssiArrSnr.length = 3 := by simp
  simp only [draw, funext (errorbar_eq scenario.rssiArr), four, counted]
  by_cases groups : scenario.rssiArr.length = 4
  · have drawn (points : Fin 6 → List (Int × List φ)) :
        (List.finRange 6).mapM (fun graph => some (points graph)) = some ((List.finRange 6).map points) :=
      List.mapM_pure
    simp only [groups, if_true, drawn, true_and]
    rfl
  · have failed : (List.finRange 6).mapM (fun _ => (none : Option (List (Int × List φ)))) = none := rfl
    simp only [groups, if_false, failed, false_and]

end LoraEval.Graphs

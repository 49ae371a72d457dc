import LoraEval.Graphs.ProcessData

/-! A session of `main.py`: the mode menu, and the values that `process_data`
gathers from one experiment to the next until a chart is drawn. -/

namespace LoraEval.Graphs

/-- `modes`. -/
inductive Mode where
  | rssiSnr | pdr | ber | rssiPerScenario | cr | etx | infoTables
deriving DecidableEq, Repr

/-- What `process_data` reads of the two files of an experiment. The app takes no
message length below 11, so the bit error rate never divides by zero. -/
structure Experiment where
  numberOfTransmissions : Int
  packetLength : Int
  iterations : List IterationData
  nonzero : packetLength ≠ 0
deriving DecidableEq

def Experiment.read (toDistance : String → Option Int) (expParams : Nat → Option String)
    (rows : List KeptRow) : Option Experiment := do
  let iterations ← processData toDistance expParams rows
  let numberOfTransmissions ← intParam expParams 1
  let packetLength ← intParam expParams 3
  if nonzero : packetLength ≠ 0 then
    return ⟨numberOfTransmissions, packetLength, iterations, nonzero⟩
  else none

structure Metrics (φ : Type) where
  bitErrRate : φ
  pdr : φ
  pdrCorr : φ
  pdrUncorr : φ
  etx : φ

/-- The rates of an iteration, whatever numbers `/` rounds a quotient to. -/
def metrics [Zero φ] (quotient : Int → Int → φ) (experiment : Experiment) (data : IterationData) :
    Metrics φ :=
  let received := data.rssiIteration.length
  let uncorrCount : Int := received - data.corruptedMsgsCount
  if 0 < received then
    { bitErrRate :=
        if 0 < data.corruptedMsgsCount then
          quotient data.biterrorSum (data.corruptedMsgsCount * experiment.packetLength * 8)
        else 0
      pdr := quotient received experiment.numberOfTransmissions
      pdrCorr := quotient data.corruptedMsgsCount experiment.numberOfTransmissions
      pdrUncorr := quotient uncorrCount experiment.numberOfTransmissions
      etx := if 0 < uncorrCount then quotient experiment.numberOfTransmissions uncorrCount else 0 }
  else ⟨0, 0, 0, 0, 0⟩

/-- The global arrays that charts are drawn from. -/
inductive ChartArray where
  | pdrArr | pdrCorrArr | pdrUncorrArr | berArr | etxArr
deriving DecidableEq, Repr

def ChartArray.value : ChartArray → Metrics φ → φ
  | pdrArr => Metrics.pdr
  | pdrCorrArr => Metrics.pdrCorr
  | pdrUncorrArr => Metrics.pdrUncorr
  | berArr => Metrics.bitErrRate
  | etxArr => Metrics.etx

def Mode.chartArrays : Mode → List ChartArray
  | pdr => [.pdrArr, .pdrCorrArr, .pdrUncorrArr]
  | ber => [.berArr]
  | etx => [.etxArr]
  | _ => []

/-- The value of `exp_counter` at which a mode draws; two modes do not count. -/
def Mode.threshold : Mode → Option Nat
  | pdr | ber | etx => some 3
  | rssiPerScenario => some 12
  | infoTables => some 4
  | rssiSnr | cr => none

abbrev Series (φ : Type) := Vector (List φ) 6

def Series.append (index : Nat) (value : φ) (series : Series φ) : Series φ :=
  Vector.ofFn fun place => if place.val = index then series[place] ++ [value] else series[place]

/-- The globals of `main.py` that outlast a call of `process_data`. -/
structure Session (φ : Type) where
  mode : Mode
  expCounter : Nat
  arrays : ChartArray → Series φ

def Session.initial : Session φ := ⟨.rssiSnr, 0, fun _ => Vector.replicate 6 []⟩

/-- `set_mode`; the rows of the tables are not modelled. -/
def Session.setMode (selection : Mode) (session : Session φ) : Session φ :=
  { session with mode := selection }

/-- An iteration beyond the sixth has no list: an `IndexError` in the modes that
gather values. The scenario mode gathers only averages other than zero. -/
def Mode.indexError (mode : Mode) (iteration : Nat) (data : IterationData) : Bool :=
  decide (6 ≤ iteration) && match mode with
  | pdr | ber | etx => true
  | rssiPerScenario => decide (data.rssiSum ≠ 0)
  | rssiSnr | cr | infoTables => false

def Session.gather (iteration : Nat) (rates : Metrics φ) (session : Session φ) : Session φ :=
  { session with
    arrays := fun array =>
      if array ∈ session.mode.chartArrays then
        (session.arrays array).append iteration (array.value rates)
      else session.arrays array }

/-- The iterations of an experiment, and whether they were all gone through
without an exception. -/
def Session.gatherAll (rates : IterationData → Metrics φ) :
    Nat → List IterationData → Session φ → Session φ × Bool
  | _, [], session => (session, true)
  | iteration, data :: rest, session =>
    if session.mode.indexError iteration data then (session, false)
    else gatherAll rates (iteration + 1) rest (session.gather iteration (rates data))

/-- A drawn chart: the series of the arrays of its mode. -/
structure Chart (φ : Type) where
  mode : Mode
  series : List (Series φ)

/-- The end of `process_data`: count the experiment, and at the threshold of the
mode draw its chart and empty its arrays. -/
def Session.count (session : Session φ) : Session φ × Option (Chart φ) :=
  match session.mode.threshold with
  | none => (session, none)
  | some threshold =>
    if session.expCounter + 1 = threshold then
      ({ session with
        expCounter := 0
        arrays := fun array =>
          if array ∈ session.mode.chartArrays then Vector.replicate 6 [] else session.arrays array },
        if session.mode.chartArrays.isEmpty then none
        else some ⟨session.mode, session.mode.chartArrays.map session.arrays⟩)
    else ({ session with expCounter := session.expCounter + 1 }, none)

/-- `process_data`, with the chart it draws from gathered values. -/
def Session.processData [Zero φ] (quotient : Int → Int → φ) (experiment : Experiment)
    (session : Session φ) : Session φ × Option (Chart φ) :=
  let (gathered, complete) := session.gatherAll (metrics quotient experiment) 0 experiment.iterations
  if complete then gathered.count else (gathered, none)

inductive Choice where
  | setMode (selection : Mode)
  | processData (experiment : Experiment)
deriving DecidableEq

def Session.choose [Zero φ] (quotient : Int → Int → φ) (session : Session φ) : Choice → Session φ
  | .setMode selection => session.setMode selection
  | .processData experiment => (session.processData quotient experiment).1

def Session.run [Zero φ] (quotient : Int → Int → φ) (history : List Choice) : Session φ :=
  history.foldl (Session.choose quotient) .initial

@[simp] theorem Series.append_getElem (series : Series φ) (bound : place < 6) :
    (series.append index value)[place] =
      if place = index then series[place] ++ [value] else series[place] := by
  simp [Series.append]

theorem Mode.indexError_inside (mode : Mode) (data : IterationData) (inside : iteration < 6) :
    mode.indexError iteration data = false := by
  simp [indexError, Nat.not_le.mpr inside]

section gathering

variable (rates : IterationData → Metrics φ)

theorem Session.gatherAll_frame (iteration : Nat) (datas : List IterationData) (session : Session φ) :
    (session.gatherAll rates iteration datas).1.mode = session.mode ∧
      (session.gatherAll rates iteration datas).1.expCounter = session.expCounter := by
  induction datas generalizing iteration session with
  | nil => exact ⟨rfl, rfl⟩
  | cons data rest ih =>
    rw [gatherAll]
    split
    · exact ⟨rfl, rfl⟩
    · exact ih (iteration + 1) (session.gather iteration (rates data))

theorem Session.gatherAll_complete (iteration : Nat) (datas : List IterationData)
    (session : Session φ) (fits : iteration + datas.length ≤ 6) :
    (session.gatherAll rates iteration datas).2 = true := by
  induction datas generalizing iteration session with
  | nil => rfl
  | cons data rest ih =>
    rw [List.length_cons] at fits
    have inside : iteration < 6 := by omega
    simpa [gatherAll, session.mode.indexError_inside data inside] using
      ih (iteration + 1) (session.gather iteration (rates data)) (by omega)

theorem Session.gatherAll_other (iteration : Nat) (datas : List IterationData) (session : Session φ)
    (other : array ∉ session.mode.chartArrays) :
    (session.gatherAll rates iteration datas).1.arrays array = session.arrays array := by
  induction datas generalizing iteration session with
  | nil => rfl
  | cons data rest ih =>
    rw [gatherAll]
    split
    · rfl
    · rw [ih (iteration + 1) (session.gather iteration (rates data)) other]
      simp [gather, other]

/-- An array of the mode gets one value at each iteration that has a list, also
when a later iteration raises an exception. -/
theorem Session.gatherAll_own (iteration : Nat) (datas : List IterationData) (session : Session φ)
    (own : array ∈ session.mode.chartArrays) (bound : place < 6) :
    ((session.gatherAll rates iteration datas).1.arrays array)[place] =
      (session.arrays array)[place] ++
        if iteration ≤ place then (datas[place - iteration]?.map (array.value ∘ rates)).toList else [] := by
  induction datas generalizing iteration session with
  | nil => simp [gatherAll]
  | cons data rest ih =>
    rw [gatherAll]
    split
    · rename_i raised
      have beyond : ¬ iteration ≤ place := by
        intro reached
        rw [session.mode.indexError_inside data (by omega)] at raised
        cases raised
      simp [beyond]
    · rw [ih (iteration + 1) (session.gather iteration (rates data)) own]
      rcases Nat.lt_trichotomy iteration place with earlier | rfl | later
      · have further : place - iteration = place - (iteration + 1) + 1 := by omega
        have next : iteration + 1 ≤ place := earlier
        simp [gather, own, next, earlier.le, earlier.ne', further]
      · simp [gather, own]
      · have passed : ¬ iteration + 1 ≤ place := by omega
        simp [gather, own, Nat.not_le.mpr later, passed, later.ne]

end gathering

end LoraEval.Graphs

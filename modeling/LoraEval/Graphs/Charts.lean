import LoraEval.Core.Run
import LoraEval.Graphs.Session

/-! Which experiments a chart of `main.py` shows. Every array holds the values of
all experiments processed in its mode since the last chart of that mode, but one
counter for all modes decides when a chart is drawn. -/

namespace LoraEval.Graphs

open LoraEval.Core

variable [Zero φ] (quotient : Int → Int → φ)

def seriesOf (array : ChartArray) (experiments : List Experiment) : Series φ :=
  Vector.ofFn fun place => experiments.filterMap fun experiment =>
    experiment.iterations[place]?.map fun data => array.value (metrics quotient experiment data)

/-- The experiments processed in a mode after its last chart, one choice later. -/
def sinceStep (mode : Mode) (session : Session φ) (since : List Experiment) : Choice → List Experiment
  | .setMode _ => since
  | .processData experiment =>
    if session.mode = mode then
      if (session.processData quotient experiment).2.isSome then [] else since ++ [experiment]
    else since

/-- A session and the experiments processed in a mode after its last chart. -/
def sinceRun (mode : Mode) (history : List Choice) : Session φ × List Experiment :=
  history.foldl (fun reached choice =>
    (reached.1.choose quotient choice, sinceStep quotient mode reached.1 reached.2 choice)) (.initial, [])

def sinceChart (mode : Mode) (history : List Choice) : List Experiment :=
  (sinceRun quotient mode history).2

theorem sinceRun_session (mode : Mode) (history : List Choice) :
    (sinceRun quotient mode history).1 = Session.run quotient history := by
  induction history using List.reverseRecOn with
  | nil => rfl
  | append_singleton before choice ih =>
    simp only [sinceRun, Session.run, List.foldl_append, List.foldl_cons, List.foldl_nil] at ih ⊢
    rw [ih]

theorem sinceChart_append (mode : Mode) (history : List Choice) (choice : Choice) :
    sinceChart quotient mode (history ++ [choice]) =
      sinceStep quotient mode (Session.run quotient history) (sinceChart quotient mode history) choice := by
  rw [← sinceRun_session quotient mode history]
  simp [sinceChart, sinceRun]

theorem run_append (history : List Choice) (choice : Choice) :
    Session.run quotient (history ++ [choice]) = (Session.run quotient history).choose quotient choice := by
  simp [Session.run]

def lastThree (experiments : List Experiment) : List Experiment :=
  experiments.drop (experiments.length - 3)

/-- A chart shows exactly the last three of the experiments of its mode. -/
def Chart.Shows (chart : Chart φ) (experiments : List Experiment) : Prop :=
  3 ≤ experiments.length ∧
    chart.series = chart.mode.chartArrays.map fun array => seriesOf quotient array (lastThree experiments)

/-- Every chart of a session shows the last three experiments processed in its mode
since the previous chart of that mode. -/
def ChartsSeparate (history : List Choice) : Prop :=
  ∀ before experiment after chart, history = before ++ .processData experiment :: after →
    ((Session.run quotient before).processData quotient experiment).2 = some chart →
      chart.Shows quotient (sinceChart quotient chart.mode before ++ [experiment])

/-- The third experiment counted in a mode with a chart is the third of that mode. -/
def CountsAgree (history : List Choice) : Prop :=
  ∀ before experiment after, history = before ++ .processData experiment :: after →
    let session := Session.run quotient before
    session.mode.chartArrays ≠ [] → session.expCounter = 2 →
      (sinceChart quotient session.mode before).length = 2

def ChartArray.mode : ChartArray → Mode
  | pdrArr | pdrCorrArr | pdrUncorrArr => .pdr
  | berArr => .ber
  | etxArr => .etx

theorem Mode.mem_chartArrays {mode : Mode} : array ∈ mode.chartArrays ↔ array.mode = mode := by
  cases array <;> cases mode <;> decide

theorem Session.gatherAll_series (session : Session φ) (own : array ∈ session.mode.chartArrays)
    (held : session.arrays array = seriesOf quotient array experiments) :
    (session.gatherAll (metrics quotient experiment) 0 experiment.iterations).1.arrays array =
      seriesOf quotient array (experiments ++ [experiment]) := by
  ext1 place bound
  rw [gatherAll_own (metrics quotient experiment) 0 experiment.iterations session own bound, held]
  cases found : experiment.iterations[place]? <;> simp [seriesOf, found]

/-- What `process_data` does: no chart, and the arrays of the mode have gathered the
experiment, or the chart of the mode, and its arrays are empty. -/
inductive Processed (experiment : Experiment) (session next : Session φ) : Option (Chart φ) → Prop where
  | gathered (mode : next.mode = session.mode)
      (arrays : next.arrays =
        (session.gatherAll (metrics quotient experiment) 0 experiment.iterations).1.arrays) :
      Processed experiment session next none
  | drawn (mode : next.mode = session.mode) (charted : session.mode.chartArrays ≠ [])
      (arrays : ∀ array, next.arrays array =
        if array ∈ session.mode.chartArrays then Vector.replicate 6 [] else session.arrays array) :
      Processed experiment session next (some ⟨session.mode, session.mode.chartArrays.map
        (session.gatherAll (metrics quotient experiment) 0 experiment.iterations).1.arrays⟩)

theorem Session.processed (experiment : Experiment) (session : Session φ) :
    Processed quotient experiment session (session.processData quotient experiment).1
      (session.processData quotient experiment).2 := by
  obtain ⟨mode, -⟩ := session.gatherAll_frame (metrics quotient experiment) 0 experiment.iterations
  rw [processData]
  dsimp only
  split
  · unfold count
    split
    · exact .gathered mode rfl
    · split
      · split
        · rename_i uncharted
          refine .gathered mode ?_
          simp [List.isEmpty_iff.mp uncharted]
        · rename_i charted
          rw [mode] at charted ⊢
          refine .drawn rfl (by simpa using charted) fun array => ?_
          by_cases own : array ∈ session.mode.chartArrays
          · simp [own]
          · simp [own, gatherAll_other]
      · exact .gathered mode rfl
  · exact .gathered mode rfl

theorem Processed.mode {session next : Session φ}
    (processed : Processed quotient experiment session next chart) : next.mode = session.mode := by
  cases processed with
  | gathered mode => exact mode
  | drawn mode => exact mode

/-- An experiment keeps an array in step with the experiments of its mode. -/
theorem Processed.series {session next : Session φ}
    (processed : Processed quotient experiment session next chart)
    (held : session.arrays array = seriesOf quotient array since) :
    next.arrays array = seriesOf quotient array
      (if session.mode = array.mode then if chart.isSome then [] else since ++ [experiment] else since) := by
  by_cases own : array ∈ session.mode.chartArrays
  · have same : session.mode = array.mode := (Mode.mem_chartArrays.mp own).symm
    cases processed with
    | gathered mode arrays => simpa [arrays, same] using session.gatherAll_series quotient own held
    | drawn mode charted arrays =>
      rw [arrays, if_pos own, if_pos same]
      ext1 place bound
      simp [seriesOf]
  · have other : session.mode ≠ array.mode := fun same => own (Mode.mem_chartArrays.mpr same.symm)
    cases processed with
    | gathered mode arrays => simpa [arrays, other, Session.gatherAll_other, own] using held
    | drawn mode charted arrays => simpa [arrays, own, other] using held

/-- Each array holds the values of the experiments processed in its mode since the
last chart of that mode. -/
theorem run_arrays (history : List Choice) (array : ChartArray) :
    (Session.run quotient history).arrays array =
      seriesOf quotient array (sinceChart quotient array.mode history) := by
  induction history using List.reverseRecOn with
  | nil =>
    ext1 place bound
    simp [Session.run, Session.initial, sinceChart, sinceRun, seriesOf]
  | append_singleton before choice ih =>
    rw [run_append, sinceChart_append]
    cases choice with
    | setMode selection => exact ih
    | processData experiment => exact (Session.processed quotient experiment _).series quotient ih

/-- The chart an experiment is the last of, in terms of the run before it. -/
theorem run_drawn (drawn : ((Session.run quotient before).processData quotient experiment).2 = some chart) :
    chart.mode = (Session.run quotient before).mode ∧ chart.mode.chartArrays ≠ [] ∧
      chart.series = chart.mode.chartArrays.map fun array =>
        seriesOf quotient array (sinceChart quotient chart.mode before ++ [experiment]) := by
  have processed := (Session.run quotient before).processed quotient experiment
  rw [drawn] at processed
  cases processed with
  | drawn mode charted arrays =>
    refine ⟨rfl, charted, ?_⟩
    apply List.map_congr_left
    intro array own
    rw [← Mode.mem_chartArrays.mp own]
    exact Session.gatherAll_series quotient _ own (run_arrays quotient before array)

/-- An experiment of six iterations is gathered as a whole and then counted. -/
theorem Session.processData_six (session : Session φ) (six : experiment.iterations.length = 6) :
    ∃ gathered : Session φ, gathered.mode = session.mode ∧ gathered.expCounter = session.expCounter ∧
      session.processData quotient experiment = gathered.count := by
  obtain ⟨mode, counter⟩ := session.gatherAll_frame (metrics quotient experiment) 0 experiment.iterations
  have complete := session.gatherAll_complete (metrics quotient experiment) 0
    experiment.iterations (by omega)
  refine ⟨_, mode, counter, ?_⟩
  simp only [processData, complete, if_true]

/-- An experiment of six iterations has its chart drawn exactly if it is the third
that is counted. -/
theorem Session.draws_iff (session : Session φ) (six : experiment.iterations.length = 6) :
    (session.processData quotient experiment).2.isSome ↔
      session.mode.chartArrays ≠ [] ∧ session.expCounter = 2 := by
  obtain ⟨gathered, mode, counter, processed⟩ := session.processData_six quotient six
  simp only [processed, count, mode, counter]
  cases session.mode <;> simp [Mode.threshold, Mode.chartArrays] <;> split <;> simp_all

theorem mem_sinceChart (member : experiment ∈ sinceChart quotient mode history) :
    .processData experiment ∈ history := by
  induction history using List.reverseRecOn with
  | nil => simp [sinceChart, sinceRun] at member
  | append_singleton before choice ih =>
    rw [sinceChart_append] at member
    cases choice with
    | setMode selection => simpa using ih member
    | processData other =>
      have possible : experiment ∈ sinceChart quotient mode before ∨ experiment = other := by
        simp only [sinceStep] at member
        split_ifs at member
        · simp at member
        · simpa using member
        · exact .inl member
      rcases possible with earlier | rfl
      · simp [ih earlier]
      · simp

theorem seriesOf_length (array : ChartArray) {experiments : List Experiment}
    (six : ∀ experiment ∈ experiments, experiment.iterations.length = 6) (bound : place < 6) :
    (seriesOf quotient array experiments)[place].length = experiments.length := by
  simp only [seriesOf, Vector.getElem_ofFn]
  induction experiments with
  | nil => rfl
  | cons experiment rest ih =>
    have inside : place < experiment.iterations.length := by simpa [six experiment (by simp)] using bound
    have others := ih fun other member => six other (by simp [member])
    simpa [List.getElem?_eq_getElem inside] using others

/-- A chart of everything gathered shows the last three experiments exactly if three
were gathered. -/
theorem Chart.shows_iff {chart : Chart φ}
    (six : ∀ experiment ∈ experiments, experiment.iterations.length = 6)
    (charted : chart.mode.chartArrays ≠ [])
    (series : chart.series = chart.mode.chartArrays.map fun array => seriesOf quotient array experiments) :
    chart.Shows quotient experiments ↔ experiments.length = 3 := by
  constructor
  · rintro ⟨enough, shown⟩
    obtain ⟨array, own⟩ := List.exists_mem_of_ne_nil _ charted
    have same := List.map_inj_left.mp (series.symm.trans shown) array own
    have recent : ∀ experiment ∈ lastThree experiments, experiment.iterations.length = 6 :=
      fun experiment member => six experiment (List.mem_of_mem_drop member)
    have lengths := seriesOf_length quotient array six (by decide : 0 < 6)
    rw [same, seriesOf_length quotient array recent, lastThree, List.length_drop] at lengths
    omega
  · intro three
    refine ⟨three.ge, ?_⟩
    rw [series, lastThree, three]
    rfl

def SixIterations (history : List Choice) : Prop :=
  ∀ experiment, .processData experiment ∈ history → experiment.iterations.length = 6

theorem run_shows_iff (six : SixIterations (before ++ .processData experiment :: after))
    (drawn : ((Session.run quotient before).processData quotient experiment).2 = some chart) :
    chart.Shows quotient (sinceChart quotient chart.mode before ++ [experiment]) ↔
      (sinceChart quotient (Session.run quotient before).mode before).length = 2 := by
  obtain ⟨mode, charted, series⟩ := run_drawn quotient drawn
  have gathered : ∀ other ∈ sinceChart quotient chart.mode before ++ [experiment],
      other.iterations.length = 6 := by
    intro other member
    apply six
    rcases List.mem_append.mp member with earlier | last
    · exact List.mem_append_left _ (mem_sinceChart quotient earlier)
    · obtain rfl := List.mem_singleton.mp last
      simp
  rw [Chart.shows_iff quotient gathered charted series, mode]
  simp

/-- The charts show the last three experiments of their mode exactly if, whenever an
experiment is processed in a mode with a chart while `exp_counter` is two, two
experiments of that mode are gathered. -/
theorem charts_separate_iff (history : List Choice) (six : SixIterations history) :
    ChartsSeparate quotient history ↔ CountsAgree quotient history := by
  constructor
  · intro separate before experiment after split session charted two
    have current : experiment.iterations.length = 6 := six experiment (by simp [split])
    obtain ⟨chart, drawn⟩ := Option.isSome_iff_exists.mp
      ((session.draws_iff quotient current).mpr ⟨charted, two⟩)
    exact (run_shows_iff quotient (split ▸ six) drawn).mp
      (separate before experiment after chart split drawn)
  · intro agree before experiment after chart split drawn
    have current : experiment.iterations.length = 6 := six experiment (by simp [split])
    obtain ⟨charted, two⟩ := ((Session.run quotient before).draws_iff quotient current).mp (by simp [drawn])
    exact (run_shows_iff quotient (split ▸ six) drawn).mpr
      (agree before experiment after split charted two)

def Patient (history : List Choice) : Prop :=
  ∀ before selection after, history = before ++ .setMode selection :: after →
    (Session.run quotient before).expCounter = 0

theorem Session.processData_counter (session : Session φ) (six : experiment.iterations.length = 6)
    (charted : session.mode.chartArrays ≠ []) :
    (session.processData quotient experiment).1.expCounter =
      if session.expCounter = 2 then 0 else session.expCounter + 1 := by
  obtain ⟨gathered, mode, counter, processed⟩ := session.processData_six quotient six
  simp only [processed, count, mode, counter]
  cases found : session.mode <;> simp_all [Mode.threshold, Mode.chartArrays] <;> split <;> simp_all

/-- In a patient session the counter counts the experiments of the current mode, and
those of the other modes have been drawn. -/
theorem Patient.gathered (patient : Patient quotient history) (six : SixIterations history)
    (charted : mode.chartArrays ≠ []) :
    (sinceChart quotient mode history).length =
      if (Session.run quotient history).mode = mode then (Session.run quotient history).expCounter
      else 0 := by
  induction history using List.reverseRecOn with
  | nil => split <;> rfl
  | append_singleton before choice ih =>
    have held := ih
      (fun front selection back split => patient front selection (back ++ [choice]) (by simp [split]))
      (fun experiment member => six experiment (by simp [member]))
    rw [sinceChart_append, run_append]
    cases choice with
    | setMode selection =>
      have none : (Session.run quotient before).expCounter = 0 := patient before selection [] rfl
      simp only [none, ite_self] at held
      simp [sinceStep, Session.choose, Session.setMode, held, none]
    | processData experiment =>
      have current : experiment.iterations.length = 6 := six experiment (by simp)
      generalize Session.run quotient before = session at held ⊢
      simp only [sinceStep, Session.choose, (session.processed quotient experiment).mode]
      by_cases own : session.mode = mode
      · subst own
        rw [if_pos rfl] at held
        simp only [session.draws_iff quotient current, session.processData_counter quotient current charted]
        by_cases two : session.expCounter = 2
        · simp [charted, two]
        · simp [two, held]
      · simpa [own] using held

/-- A session that finishes the chart of a mode before it leaves the mode. -/
theorem Patient.countsAgree (patient : Patient quotient history) (six : SixIterations history) :
    CountsAgree quotient history := by
  intro before experiment after split session charted two
  have earlier : Patient quotient before := fun front selection back inner =>
    patient front selection (back ++ .processData experiment :: after) (by simp [split, inner])
  have gathered := earlier.gathered quotient
    (fun other member => six other (by simp [split, member])) charted
  simpa [session, two] using gathered

private def sampleData (received corrupted : Nat) : IterationData :=
  ⟨Vector.replicate 5 0, Vector.replicate 5 "", List.range received, List.replicate received (-90),
    List.replicate received (-80), -90 * received, 2 * corrupted, corrupted⟩

private def sampleExperiment (received : Nat) : Experiment :=
  ⟨10, 20, List.replicate 6 (sampleData received 1), by decide⟩

private def sampleQuotient (dividend divisor : Int) : ℚ := dividend / divisor

private def sampleSession : List Choice :=
  [.setMode .pdr, .processData (sampleExperiment 4), .processData (sampleExperiment 5),
    .processData (sampleExperiment 6)]

private theorem sampleSession_six : SixIterations sampleSession := by
  intro experiment member
  simp only [sampleSession, List.mem_cons, Choice.processData.injEq, reduceCtorEq, List.not_mem_nil,
    or_false, false_or] at member
  rcases member with rfl | rfl | rfl <;> rfl

private theorem sampleSession_patient : Patient sampleQuotient sampleSession := by
  intro before selection after split
  cases before with
  | nil => rfl
  | cons first rest =>
    have member : Choice.setMode selection ∈ sampleSession.tail := by simp [split]
    simp [sampleSession] at member

theorem charts_separate_sample :
    SixIterations sampleSession ∧ ChartsSeparate sampleQuotient sampleSession :=
  ⟨sampleSession_six, (charts_separate_iff sampleQuotient sampleSession sampleSession_six).mpr
    (sampleSession_patient.countsAgree sampleQuotient sampleSession_six)⟩

private def mixedSession : List Choice :=
  [.setMode .pdr, .processData (sampleExperiment 4), .setMode .ber, .processData (sampleExperiment 5)]

/-- The second experiment of the BER mode already draws its chart. -/
theorem mixed_modes_drawn :
    ¬ ChartsSeparate sampleQuotient (mixedSession ++ [.processData (sampleExperiment 6)]) := by
  intro separate
  have drawn : ((Session.run sampleQuotient mixedSession).processData sampleQuotient
      (sampleExperiment 6)).2.isSome :=
    (Session.draws_iff sampleQuotient _ rfl).mpr ⟨by decide, by decide⟩
  obtain ⟨chart, drawn⟩ := Option.isSome_iff_exists.mp drawn
  obtain ⟨mode, -⟩ := run_drawn sampleQuotient drawn
  obtain ⟨enough, -⟩ := separate mixedSession (sampleExperiment 6) [] chart rfl drawn
  have only : (sinceChart sampleQuotient chart.mode mixedSession).length = 1 := by
    rw [mode]
    decide
  simp [only] at enough

end LoraEval.Graphs

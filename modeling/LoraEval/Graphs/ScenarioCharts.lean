import LoraEval.Core.Ordered
import LoraEval.Core.Run
import LoraEval.Graphs.Scenario

namespace LoraEval.Graphs

open LoraEval.Core

/-- An experiment that was processed, and whether in the scenario mode. -/
structure Visit where
  experiment : PlacedExperiment
  own : Bool
deriving DecidableEq

def Visit.alike (first second : Visit) : Bool := first.experiment.distance == second.experiment.distance

def stays (visits : List Visit) : List (List Visit) := visits.splitBy Visit.alike

/-- The noise values of iterations that are counted from `iteration`. -/
def noiseOf (iteration : Nat) (datas : List IterationData) : List Int :=
  ((datas.take (6 - iteration)).filter fun data => data.rssiSum ≠ 0).flatMap IterationData.snrIteration

/-- The noise values that a visit adds to the average of its distance. -/
def Visit.noise (visit : Visit) : List Int := if visit.own then noiseOf 0 visit.experiment.iterations else []

def stayNoise (stay : List Visit) : List Int := stay.flatMap Visit.noise

section

variable {φ : Type} (quotient : Int → Int → φ) (mean : List Int → φ)

def average (data : Option IterationData) : List φ :=
  ((data.filter fun data => data.rssiSum ≠ 0).map fun data =>
    quotient data.rssiSum data.rssiIteration.length).toList

def Visit.averages (visit : Visit) (place : Nat) : List φ :=
  if visit.own then average quotient visit.experiment.iterations[place]? else []

def staySeries (stay : List Visit) : Series φ :=
  Vector.ofFn fun place => stay.flatMap (·.averages quotient place)

/-- What the scenario mode holds after some stays. -/
structure Layout (visited : List (List Visit)) (scenario : Scenario φ) : Prop where
  groups : scenario.rssiArr = visited.map (staySeries quotient)
  distances : scenario.rssiArrDistances.map some =
    visited.map fun stay => stay.getLast?.map fun visit => visit.experiment.distance
  noise : scenario.rssiArrSnr =
    ((visited.dropLast.map stayNoise).filter fun values => !values.isEmpty).map mean
  averaging : scenario.snrAveragingArr = stayNoise (visited.getLast?.getD [])

/-- A series with the averages of iterations that are counted from `iteration`. -/
def extended (iteration : Nat) (datas : List IterationData) (series : Series φ) : Series φ :=
  Vector.ofFn fun place => series.get place ++
    if iteration ≤ place then average quotient datas[place - iteration]? else []

theorem extended_getElem (iteration : Nat) (datas : List IterationData) (series : Series φ)
    (bound : place < 6) :
    (extended quotient iteration datas series)[place] = series[place] ++
      if iteration ≤ place then average quotient datas[place - iteration]? else [] := by
  rw [extended, Vector.getElem_ofFn]
  rfl

theorem extended_none
    (quiet : ∀ place < 6, iteration ≤ place → average quotient datas[place - iteration]? = [])
    (series : Series φ) : extended quotient iteration datas series = series := by
  ext1 place bound
  rw [extended_getElem]
  split
  · rename_i reached
    rw [quiet place bound reached, List.append_nil]
  · exact List.append_nil _

theorem extended_cons (iteration : Nat) (data : IterationData) (rest : List IterationData)
    (series : Series φ) :
    extended quotient iteration (data :: rest) series = extended quotient (iteration + 1) rest
      (if data.rssiSum = 0 then series
        else series.append iteration (quotient data.rssiSum data.rssiIteration.length)) := by
  ext1 place bound
  rcases Nat.lt_trichotomy iteration place with earlier | rfl | later
  · have further : place - iteration = place - (iteration + 1) + 1 := by omega
    have next : iteration + 1 ≤ place := earlier
    have kept : (if data.rssiSum = 0 then series
        else series.append iteration (quotient data.rssiSum data.rssiIteration.length))[place] =
          series[place] := by
      split <;> simp [earlier.ne']
    rw [extended_getElem, extended_getElem, if_pos next, if_pos earlier.le, further,
      List.getElem?_cons_succ, kept]
  · split <;> simp_all [extended_getElem, average]
  · have passed : ¬ iteration + 1 ≤ place := by omega
    have kept : (if data.rssiSum = 0 then series
        else series.append iteration (quotient data.rssiSum data.rssiIteration.length))[place] =
          series[place] := by
      split <;> simp [later.ne]
    rw [extended_getElem, extended_getElem, if_neg passed, if_neg later.not_ge, kept]

theorem noiseOf_cons (iteration : Nat) (data : IterationData) (rest : List IterationData)
    (fits : iteration < 6 ∨ data.rssiSum = 0) :
    noiseOf iteration (data :: rest) =
      (if data.rssiSum = 0 then [] else data.snrIteration) ++ noiseOf (iteration + 1) rest := by
  cases room : 6 - iteration with
  | zero =>
    have silent : data.rssiSum = 0 := fits.resolve_left (by omega)
    have none : 6 - (iteration + 1) = 0 := by omega
    simp [noiseOf, room, none, silent]
  | succ left =>
    have next : 6 - (iteration + 1) = left := by omega
    by_cases silent : data.rssiSum = 0 <;> simp [noiseOf, room, next, silent]

theorem Scenario.gatherAll_eq (iteration : Nat) (datas : List IterationData) (scenario : Scenario φ) :
    scenario.gatherAll quotient iteration datas = { scenario with
      rssiArr :=
        scenario.rssiArr.modify (scenario.rssiArrDistances.length - 1) (extended quotient iteration datas)
      snrAveragingArr := scenario.snrAveragingArr ++ noiseOf iteration datas } := by
  induction datas generalizing iteration scenario with
  | nil =>
    have same : extended quotient iteration [] = id := funext (extended_none quotient (by simp [average]))
    simp [gatherAll, same, noiseOf]
  | cons data rest ih =>
    rw [gatherAll]
    split
    · rename_i raised
      have beyond : 6 ≤ iteration := by
        by_contra inside
        rw [Mode.indexError_inside _ data (by omega)] at raised
        cases raised
      have same : extended quotient iteration (data :: rest) = id :=
        funext (extended_none quotient fun place bound reached => by omega)
      simp [same, noiseOf, Nat.sub_eq_zero_of_le beyond]
    · rename_i fine
      have fits : iteration < 6 ∨ data.rssiSum = 0 := by
        simp only [Mode.indexError, Bool.and_eq_true, decide_eq_true_eq, not_and_or, Nat.not_le,
          not_ne_iff] at fine
        exact fine
      rw [ih, noiseOf_cons iteration data rest fits, funext (extended_cons quotient iteration data rest)]
      by_cases silent : data.rssiSum = 0
      · simp [gather, silent]
      · simp [gather, silent, List.modify_modify_eq, Function.comp_def]

/-- What `process_data` does with the groups before it draws. -/
def Scenario.visit (visit : Visit) (scenario : Scenario φ) : Scenario φ :=
  let entered := scenario.enter mean visit.experiment.distance
  if visit.own then entered.gatherAll quotient 0 visit.experiment.iterations else entered

theorem Scenario.enter_new {scenario : Scenario φ}
    (other : scenario.rssiArrDistances.getLast? ≠ some distance) :
    scenario.enter mean distance =
      { rssiArr := scenario.rssiArr ++ [Vector.replicate 6 []]
        rssiArrDistances := scenario.rssiArrDistances ++ [distance]
        snrAveragingArr := []
        rssiArrSnr := scenario.rssiArrSnr ++
          if scenario.snrAveragingArr.isEmpty then [] else [mean scenario.snrAveragingArr] } := by
  rw [enter, if_neg other]
  by_cases silent : scenario.snrAveragingArr = [] <;> simp [silent]

def joined (visit : Visit) (series : Series φ) : Series φ :=
  Vector.ofFn fun place => series.get place ++ visit.averages quotient place

theorem joined_getElem (visit : Visit) (series : Series φ) (bound : place < 6) :
    (joined quotient visit series)[place] = series[place] ++ visit.averages quotient place := by
  rw [joined, Vector.getElem_ofFn]
  rfl

theorem staySeries_concat (stay : List Visit) (visit : Visit) :
    staySeries quotient (stay ++ [visit]) = joined quotient visit (staySeries quotient stay) := by
  ext1 place bound
  simp [staySeries, joined_getElem]

theorem staySeries_nil : staySeries quotient [] = Vector.replicate 6 [] := by
  ext1 place bound
  simp [staySeries]

theorem Scenario.visit_eq (visit : Visit) (scenario : Scenario φ) :
    scenario.visit quotient mean visit =
      let entered := scenario.enter mean visit.experiment.distance
      { entered with
        rssiArr := entered.rssiArr.modify (entered.rssiArrDistances.length - 1) (joined quotient visit)
        snrAveragingArr := entered.snrAveragingArr ++ visit.noise } := by
  cases own : visit.own with
  | false =>
    have same : joined quotient visit = id := by
      funext series
      ext1 place bound
      simp [joined_getElem, Visit.averages, own]
    simp [Scenario.visit, own, same, Visit.noise]
  | true =>
    have same : joined quotient visit = extended quotient 0 visit.experiment.iterations := by
      funext series
      ext1 place bound
      simp [joined_getElem, extended_getElem, Visit.averages, own]
    simp [Scenario.visit, own, same, Visit.noise, gatherAll_eq]

theorem Scenario.visit_groups (visit : Visit) (scenario : Scenario φ) :
    scenario.rssiArr.length ≤ (scenario.visit quotient mean visit).rssiArr.length := by
  rw [visit_eq]
  by_cases here : scenario.rssiArrDistances.getLast? = some visit.experiment.distance
  · simp [enter, here]
  · simp [enter_new mean here]

/-- With more than four groups nothing is drawn, and so the groups stay. -/
theorem Scenario.draw_crowded {scenario : Scenario φ} (many : 4 < scenario.rssiArr.length) :
    (scenario.draw mean).2 = none ∧ (scenario.draw mean).1.rssiArr = scenario.rssiArr := by
  have crowded : ¬ (scenario.rssiArr.length = 4 ∧ scenario.rssiArrSnr.length = 3) := fun four => by omega
  rw [draw_eq, if_neg crowded]
  exact ⟨rfl, rfl⟩

variable {quotient mean}

theorem Layout.lastDistance (layout : Layout quotient mean visited scenario) :
    scenario.rssiArrDistances.getLast? =
      visited.getLast?.bind fun stay => stay.getLast?.map fun visit => visit.experiment.distance := by
  have last := congrArg List.getLast? layout.distances
  rw [List.getLast?_map, List.getLast?_map] at last
  cases held : visited.getLast? with
  | none => simpa [held] using last
  | some stay =>
    rw [held] at last
    obtain ⟨distance, found, same⟩ := Option.map_eq_some_iff.mp last
    rw [found, Option.bind_some, same]

theorem Layout.counted (layout : Layout quotient mean visited scenario) :
    scenario.rssiArrDistances.length = visited.length := by
  simpa using congrArg List.length layout.distances

theorem modify_last (items : List α) (item : α) (change : α → α) :
    (items ++ [item]).modify items.length change = items ++ [change item] := by
  rw [List.modify_eq_take_cons_drop (by simp)]
  simp

theorem Layout.new (layout : Layout quotient mean visited scenario)
    (unlike : ∀ stay ∈ visited.getLast?, ∀ last ∈ stay.getLast?, last.alike visit = false) :
    Layout quotient mean (visited ++ [[visit]]) (scenario.visit quotient mean visit) := by
  have other : scenario.rssiArrDistances.getLast? ≠ some visit.experiment.distance := by
    rw [layout.lastDistance]
    intro found
    obtain ⟨stay, here, ends⟩ := Option.bind_eq_some_iff.mp found
    obtain ⟨last, final, same⟩ := Option.map_eq_some_iff.mp ends
    simpa [Visit.alike, same] using unlike stay here last final
  have place : scenario.rssiArrDistances.length = (visited.map (staySeries quotient)).length := by
    rw [layout.counted, List.length_map]
  have series : staySeries quotient [visit] = joined quotient visit (Vector.replicate 6 []) := by
    rw [← staySeries_nil quotient, ← staySeries_concat]
    rfl
  rw [Scenario.visit_eq, Scenario.enter_new mean other]
  refine ⟨?_, ?_, ?_, ?_⟩
  · dsimp only
    rw [layout.groups, List.length_append, List.length_singleton, Nat.add_sub_cancel, place,
      modify_last, ← series,
      List.map_append, List.map_singleton]
  · simp [layout.distances]
  · rcases List.eq_nil_or_concat visited with rfl | ⟨earlier, stay, rfl⟩
    · simp [layout.noise, layout.averaging, stayNoise]
    · cases silent : (stayNoise stay).isEmpty <;> simp [layout.noise, layout.averaging, silent]
  · simp [stayNoise]

theorem Layout.join (layout : Layout quotient mean (visited ++ [stay]) scenario)
    (ends : stay.getLast? = some last) (same : last.alike visit = true) :
    Layout quotient mean (visited ++ [stay ++ [visit]]) (scenario.visit quotient mean visit) := by
  have here : scenario.rssiArrDistances.getLast? = some visit.experiment.distance := by
    have equal : last.experiment.distance = visit.experiment.distance := by simpa [Visit.alike] using same
    simp [layout.lastDistance, ends, equal]
  have place : scenario.rssiArrDistances.length - 1 = (visited.map (staySeries quotient)).length := by
    simp [layout.counted]
  rw [Scenario.visit_eq, Scenario.enter, if_pos here]
  refine ⟨?_, ?_, ?_, ?_⟩
  · dsimp only
    rw [layout.groups, place, List.map_append, List.map_singleton, modify_last, ← staySeries_concat]
    simp
  · have equal : last.experiment.distance = visit.experiment.distance := by simpa [Visit.alike] using same
    simp [layout.distances, ends, equal]
  · simp [layout.noise]
  · simp [layout.averaging, stayNoise]

theorem Layout.visit (layout : Layout quotient mean (stays visits) scenario) (visit : Visit) :
    Layout quotient mean (stays (visits ++ [visit])) (scenario.visit quotient mean visit) := by
  by_cases unlike : ∀ last ∈ visits.getLast?, last.alike visit = false
  · rw [stays, splitBy_new unlike]
    exact layout.new fun stay final last ends => unlike last (splitBy_last final ▸ ends)
  · push Not at unlike
    obtain ⟨last, ends, same⟩ := unlike
    have like : last.alike visit = true := by simpa using same
    obtain ⟨earlier, stay, split, final, joined⟩ := splitBy_join ends like
    rw [stays, split] at layout
    rw [stays, joined]
    exact layout.join final like

/-- Four distances, and something received at each of them before the last. -/
def FourStays (visits : List Visit) : Prop :=
  (stays visits).length = 4 ∧ ∀ stay ∈ (stays visits).dropLast, stayNoise stay ≠ []

variable (quotient mean) in
def stayChart (visits : List Visit) : ScenarioChart φ :=
  .of ((stays visits).map (staySeries quotient)) ((stays visits).map fun stay => mean (stayNoise stay))

theorem Layout.drawable (layout : Layout quotient mean (stays visits) scenario) :
    scenario.rssiArr.length = 4 ∧ scenario.rssiArrSnr.length = 3 ↔ FourStays visits := by
  rw [layout.groups, layout.noise, List.length_map, List.length_map, FourStays]
  refine and_congr_right fun four => ?_
  have three : 3 = ((stays visits).dropLast.map stayNoise).length := by simp [four]
  rw [three, List.length_filter_eq_length_iff, List.forall_mem_map]
  simp

/-- Behind four stays each noise average is that of its own distance. -/
theorem Layout.aligned (layout : Layout quotient mean (stays visits) scenario) (four : FourStays visits) :
    scenario.rssiArrSnr ++ [mean scenario.snrAveragingArr] =
      (stays visits).map fun stay => mean (stayNoise stay) := by
  have kept : ((stays visits).dropLast.map stayNoise).filter (fun values => !values.isEmpty) =
      (stays visits).dropLast.map stayNoise := by
    rw [List.filter_eq_self, List.forall_mem_map]
    simpa using four.2
  rcases List.eq_nil_or_concat (stays visits) with none | ⟨earlier, stay, split⟩
  · have := four.1
    simp [none] at this
  · rw [layout.noise, layout.averaging, kept, split]
    simp

theorem Layout.draw (layout : Layout quotient mean (stays visits) scenario) :
    (FourStays visits → scenario.draw mean = (.initial, some (stayChart quotient mean visits))) ∧
      (¬ FourStays visits → (scenario.draw mean).2 = none) := by
  rw [Scenario.draw_eq, ← layout.drawable]
  refine ⟨fun four => ?_, fun few => by rw [if_neg few]⟩
  rw [if_pos four, layout.aligned (layout.drawable.mp four), layout.groups]
  rfl

end

section

variable {φ : Type} [Zero φ] (quotient : Int → Int → φ) (mean : List Int → φ)

/-- What `process_data` does, in terms of the visit. -/
theorem Globals.processData_eq (experiment : PlacedExperiment) (globals : Globals φ) :
    (globals.processData quotient mean experiment).1.scenario =
        (if globals.attempts quotient experiment then
          ((globals.scenario.visit quotient mean ⟨experiment, true⟩).draw mean).1
        else globals.scenario.visit quotient mean ⟨experiment, globals.session.mode = .rssiPerScenario⟩) ∧
      (globals.processData quotient mean experiment).2 =
        if globals.attempts quotient experiment then
          ((globals.scenario.visit quotient mean ⟨experiment, true⟩).draw mean).2
        else none := by
  by_cases own : globals.session.mode = .rssiPerScenario
  · by_cases twelfth : globals.attempts quotient experiment = true <;>
      simp [processData, own, twelfth, Scenario.visit]
  · have fewer : globals.attempts quotient experiment = false := by simp [attempts, own]
    simp [processData, own, fewer, Scenario.visit]

/-- The visits since the last experiment that was the twelfth, one choice later. -/
def visitStep (globals : Globals φ) (visits : List Visit) : Selection → List Visit
  | .setMode _ => visits
  | .processData experiment =>
    if globals.attempts quotient experiment then []
    else visits ++ [⟨experiment, globals.session.mode = .rssiPerScenario⟩]

def sinceAttempt (history : List Selection) : List Visit :=
  notes (Globals.choose quotient mean) (visitStep quotient) .initial [] history

theorem sinceAttempt_processData (before : List Selection) (experiment : PlacedExperiment) :
    sinceAttempt quotient mean (before ++ [.processData experiment]) =
      if (Globals.run quotient mean before).attempts quotient experiment then []
      else sinceAttempt quotient mean before ++
        [⟨experiment, (Globals.run quotient mean before).session.mode = .rssiPerScenario⟩] :=
  notes_append ..

theorem sinceAttempt_setMode (before : List Selection) (selection : Mode) :
    sinceAttempt quotient mean (before ++ [.setMode selection]) = sinceAttempt quotient mean before :=
  notes_append ..

theorem Globals.run_append (history : List Selection) (choice : Selection) :
    Globals.run quotient mean (history ++ [choice]) =
      (Globals.run quotient mean history).choose quotient mean choice := by
  simp [run]

/-- Every twelfth experiment of the scenario mode draws a chart, and the chart has for each
distance the values of the experiments that were processed there since the last chart. -/
def ScenarioCharted (history : List Selection) : Prop :=
  ∀ before experiment after, history = before ++ .processData experiment :: after →
    (Globals.run quotient mean before).attempts quotient experiment = true →
      ((Globals.run quotient mean before).processData quotient mean experiment).2 =
        some (stayChart quotient mean (sinceAttempt quotient mean before ++ [⟨experiment, true⟩]))

/-- Between two twelfth experiments the distance changes three times, whatever the mode. -/
def FourDistances (history : List Selection) : Prop :=
  ∀ before experiment after, history = before ++ .processData experiment :: after →
    (Globals.run quotient mean before).attempts quotient experiment = true →
      FourStays (sinceAttempt quotient mean before ++ [⟨experiment, true⟩])

variable {quotient mean}

theorem ScenarioCharted.front (charted : ScenarioCharted quotient mean (before ++ more)) :
    ScenarioCharted quotient mean before := fun front experiment back split =>
  charted front experiment (back ++ more) (by simp [split])

/-- As long as all charts are drawn, the groups are those of the visits since the last one. -/
theorem ScenarioCharted.layout (charted : ScenarioCharted quotient mean history) :
    Layout quotient mean (stays (sinceAttempt quotient mean history))
      (Globals.run quotient mean history).scenario := by
  induction history using List.reverseRecOn with
  | nil => exact ⟨rfl, rfl, rfl, rfl⟩
  | append_singleton before choice ih =>
    have layout := ih charted.front
    rw [Globals.run_append]
    cases choice with
    | setMode selection =>
      rw [sinceAttempt_setMode]
      exact ⟨layout.groups, layout.distances, layout.noise, layout.averaging⟩
    | processData experiment =>
      have charts := charted before experiment [] rfl
      obtain ⟨scenario, chart⟩ := (Globals.run quotient mean before).processData_eq quotient mean experiment
      rw [sinceAttempt_processData, Globals.choose, scenario]
      split
      · rename_i twelfth
        rw [if_pos twelfth] at chart
        have drawn := (layout.visit ⟨experiment, true⟩).draw
        by_cases four : FourStays (sinceAttempt quotient mean before ++ [⟨experiment, true⟩])
        · rw [drawn.1 four]
          exact ⟨rfl, rfl, rfl, rfl⟩
        · rw [drawn.2 four, charts twelfth] at chart
          cases chart
      · exact layout.visit _

theorem ScenarioCharted.attempt (charted : ScenarioCharted quotient mean before)
    (twelfth : (Globals.run quotient mean before).attempts quotient experiment = true) :
    (FourStays (sinceAttempt quotient mean before ++ [⟨experiment, true⟩]) →
      ((Globals.run quotient mean before).processData quotient mean experiment).2 =
        some (stayChart quotient mean (sinceAttempt quotient mean before ++ [⟨experiment, true⟩]))) ∧
    (¬ FourStays (sinceAttempt quotient mean before ++ [⟨experiment, true⟩]) →
      ((Globals.run quotient mean before).processData quotient mean experiment).2 = none) := by
  have drawn := (charted.layout.visit ⟨experiment, true⟩).draw
  rw [((Globals.run quotient mean before).processData_eq quotient mean experiment).2, if_pos twelfth]
  exact ⟨fun four => by rw [drawn.1 four], drawn.2⟩

variable (quotient mean)

/-- The scenario charts are all drawn, each with the values of its own distances, exactly if
the experiments up to each twelfth one, in whatever modes they are looked at, are at four
distances one after another and something is received at each but the last. -/
theorem scenario_charts_iff (history : List Selection) :
    ScenarioCharted quotient mean history ↔ FourDistances quotient mean history := by
  constructor
  · intro charted before experiment after split twelfth
    by_contra few
    have early : ScenarioCharted quotient mean before := (split ▸ charted).front
    have drawn := charted before experiment after split twelfth
    rw [(early.attempt twelfth).2 few] at drawn
    cases drawn
  · intro four
    induction history using List.reverseRecOn with
    | nil =>
      intro before experiment after split
      simp at split
    | append_singleton earlier choice ih =>
      have charted := ih fun before experiment after split =>
        four before experiment (after ++ [choice]) (by simp [split])
      intro before experiment after split twelfth
      rcases split_append split with ⟨rfl, rfl, rfl⟩ | ⟨rest, rfl, inner⟩
      · exact (charted.attempt twelfth).1 (four before experiment [] rfl twelfth)
      · exact charted before experiment rest inner twelfth

variable {quotient mean}

theorem Globals.processData_crowded {globals : Globals φ} (many : 4 < globals.scenario.rssiArr.length)
    (experiment : PlacedExperiment) :
    (globals.processData quotient mean experiment).2 = none ∧
      4 < (globals.processData quotient mean experiment).1.scenario.rssiArr.length := by
  obtain ⟨scenario, chart⟩ := globals.processData_eq quotient mean experiment
  rw [scenario, chart]
  split
  · have grown := many.trans_le (globals.scenario.visit_groups quotient mean ⟨experiment, true⟩)
    obtain ⟨nothing, kept⟩ := Scenario.draw_crowded mean grown
    exact ⟨nothing, by rw [kept]; exact grown⟩
  · exact ⟨rfl, many.trans_le (globals.scenario.visit_groups quotient mean _)⟩

theorem Globals.run_crowded (many : 4 < (Globals.run quotient mean before).scenario.rssiArr.length)
    (more : List Selection) : 4 < (Globals.run quotient mean (before ++ more)).scenario.rssiArr.length := by
  induction more using List.reverseRecOn with
  | nil => simpa using many
  | append_singleton earlier choice ih =>
    rw [← List.append_assoc, run_append]
    cases choice with
    | setMode selection => exact ih
    | processData experiment => exact (processData_crowded ih experiment).2

/-- Once the experiments since the last chart are at more than four distances, in whatever
modes they were looked at, the scenario mode never draws a chart again. -/
theorem scenario_stuck (before more : List Selection)
    (many : 4 < (Globals.run quotient mean before).scenario.rssiArr.length) (experiment : PlacedExperiment) :
    ((Globals.run quotient mean (before ++ more)).processData quotient mean experiment).2 = none :=
  (Globals.processData_crowded (Globals.run_crowded many more) experiment).1

end

private def placed (distance : Int) : PlacedExperiment :=
  ⟨⟨10, 11, [⟨Vector.replicate 5 0, Vector.replicate 5 "", [0], [-100], [-105], -100, 0, 0⟩], by decide⟩,
    distance⟩

private def looks (distances : List Int) : List Selection :=
  distances.map fun distance => .processData (placed distance)

/-- Five distances in the RSSI mode the script starts in. -/
private def fiveLooks : List Selection := looks [30, 60, 90, 120, 150]

/-- Then the scenario mode, with three experiments at each of four distances but for the last. -/
private def elevenMore : List Selection :=
  .setMode .rssiPerScenario :: looks [30, 30, 30, 60, 60, 60, 90, 90, 90, 120, 120]

private def exactQuotient (dividend divisor : Int) : ℚ := dividend / divisor

private def exactMean (values : List Int) : ℚ := exactQuotient values.sum values.length

theorem scenario_stuck_sample :
    4 < (Globals.run exactQuotient exactMean fiveLooks).scenario.rssiArr.length ∧
      (Globals.run exactQuotient exactMean (fiveLooks ++ elevenMore)).attempts exactQuotient (placed 120) ∧
      ((Globals.run exactQuotient exactMean (fiveLooks ++ elevenMore)).processData
        exactQuotient exactMean (placed 120)).2 = none :=
  ⟨by decide, by decide, scenario_stuck fiveLooks elevenMore (by decide) (placed 120)⟩

end LoraEval.Graphs

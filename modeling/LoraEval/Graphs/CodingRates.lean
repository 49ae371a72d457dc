import LoraEval.Graphs.OrderedRows

namespace LoraEval.Graphs

open LoraEval.Core

/-- `cr_vals` and `cr_corrupted`: the correct and corrupted messages and the label of each
wedge. -/
structure PieChart where
  crVals : List (Int × Int)
  crCorrupted : List String
deriving DecidableEq

def PieChart.empty : PieChart := ⟨[], []⟩

def PieChart.gather (label : String) (data : IterationData) (chart : PieChart) : PieChart :=
  if data.rssiIteration.isEmpty then chart
  else {
    crVals := chart.crVals ++
      [((data.rssiIteration.length : Int) - data.corruptedMsgsCount, (data.corruptedMsgsCount : Int))]
    crCorrupted := chart.crCorrupted ++ [label] }

/-- The charts that are drawn from an iteration on, counted from zero. `vals.sum(axis=1)`
raises an exception for a chart without a wedge, and none is drawn after it. -/
def pieCharts (label : Nat → IterationData → String) : Nat → List IterationData → PieChart → List PieChart
  | _, [], _ => []
  | iteration, data :: rest, chart =>
    let chart := chart.gather (label iteration data) data
    if (iteration + 1) % 4 = 0 then
      if chart.crVals.isEmpty then [] else chart :: pieCharts label (iteration + 1) rest .empty
    else pieCharts label (iteration + 1) rest chart

section

variable (percent : Nat → Nat → Int)

/-- What a label says below the coding rate. `percent` is `int((corrupted / received) * 100)`
in the arithmetic of Python. -/
def corruptedText (data : IterationData) : String :=
  "\n" ++ toString (percent data.corruptedMsgsCount data.rssiIteration.length) ++ "% corrupted"

/-- The label of the script: the coding rate is taken from the number of the iteration. -/
def crLabel (iteration : Nat) (data : IterationData) : String :=
  "CR 4/" ++ toString (iteration % 4 + 5) ++ corruptedText percent data

def crCharts (datas : List IterationData) : List PieChart := pieCharts (crLabel percent) 0 datas .empty

def ownLabel (data : IterationData) : String :=
  "CR " ++ (codingRateLabels[data.position.get 3]?).getD "" ++ corruptedText percent data

def ownCharts (datas : List IterationData) : List PieChart :=
  pieCharts (fun _ => ownLabel percent) 0 datas .empty

variable {percent}

theorem pieCharts_congr {first second : Nat → IterationData → String}
    (same : ∀ k data, datas[k]? = some data → first (iteration + k) data = second (iteration + k) data)
    (chart : PieChart) : pieCharts first iteration datas chart = pieCharts second iteration datas chart := by
  induction datas generalizing iteration chart with
  | nil => rfl
  | cons data rest ih =>
    have head : first iteration data = second iteration data := same 0 data rfl
    have tail (k : Nat) (other : IterationData) (found : rest[k]? = some other) :
        first (iteration + 1 + k) other = second (iteration + 1 + k) other := by
      have moved : iteration + 1 + k = iteration + (k + 1) := by omega
      rw [moved]
      exact same (k + 1) other found
    simp only [pieCharts, head, ih tail]

theorem pieCharts_short (label : Nat → IterationData → String) (short : iteration % 4 + datas.length < 4)
    (chart : PieChart) : pieCharts label iteration datas chart = [] := by
  induction datas generalizing iteration chart with
  | nil => rfl
  | cons data rest ih =>
    rw [List.length_cons] at short
    have early : (iteration + 1) % 4 ≠ 0 := by omega
    rw [pieCharts, if_neg early]
    exact ih (by omega) _

theorem pieCharts_four (label : Nat → IterationData → String) (rest : List IterationData)
    (received : ∀ data ∈ [first, second, third, fourth], data.rssiIteration.isEmpty = false) :
    ∃ vals, pieCharts label 0 (first :: second :: third :: fourth :: rest) .empty =
      ⟨vals, [label 0 first, label 1 second, label 2 third, label 3 fourth]⟩ ::
        pieCharts label 4 rest .empty := by
  simp only [List.forall_mem_cons] at received
  obtain ⟨one, two, three, four, -⟩ := received
  exact ⟨_, by simp [pieCharts, PieChart.gather, PieChart.empty, one, two, three, four]; rfl⟩

theorem label_of_rate (data : IterationData) (rate : data.position.get 3 = iteration % 4) :
    crLabel percent iteration data = ownLabel percent data := by
  have below : iteration % 4 < 4 := Nat.mod_lt _ (by decide)
  rw [crLabel, ownLabel, rate]
  congr 1
  generalize iteration % 4 = place at below
  interval_cases place <;> rfl

theorem rate_of_label (data : IterationData) (inside : data.position.get 3 < 4) (early : iteration < 4)
    (same : crLabel percent iteration data = ownLabel percent data) : data.position.get 3 = iteration := by
  have texts := String.append_left_inj _ |>.mp same
  generalize data.position.get 3 = place at inside texts
  revert texts
  interval_cases place <;> interval_cases iteration <;> decide

/-- The coding rates that an experiment runs through, and its powers. -/
def Codes.rates (codes : Codes) : List Nat := (List.range 4).filter (integerBit codes.codingRate)

def Codes.powers (codes : Codes) : List Nat := (List.range 8).filter (integerBit codes.power)

/-- The innermost loop is that over the powers, the next one that over the coding rates. -/
theorem rate_at (codes : Codes) (inside : place < (paths codes.levels).length) :
    ((paths codes.levels)[place]? >>= fun path => path[3]?) =
      codes.rates[place / codes.powers.length % codes.rates.length]? := by
  have found : (codes.levels.map Level.chosen)[3]? = some codes.rates := rfl
  have last : (product ((codes.levels.map Level.chosen).drop (3 + 1))).length = codes.powers.length := by
    simp [Codes.levels, Level.chosen, product_length, Codes.powers]
  rw [← last]
  exact getElem?_product inside found

variable {codes : Codes}

theorem aggregate_positions (numbered : Numbered rows)
    (run : aggregate codes rows transmissions .start = some final) :
    final.iterations.map (fun data => data.position.toList) = paths codes.levels := by
  obtain ⟨same, run', visited⟩ := aggregate_visited codes numbered transmissions .start
  obtain rfl : final = same := Option.some.inj (run.symm.trans run')
  have positions := congrArg (List.map Prod.fst) visited
  simpa [Aggregation.visited, Aggregation.start, Function.comp_def] using positions

theorem aggregated_rate {final : Aggregation} {data : IterationData}
    (positions : final.iterations.map (fun data => data.position.toList) = paths codes.levels)
    (found : final.iterations[k]? = some data) :
    codes.rates[k / codes.powers.length % codes.rates.length]? = some (data.position.get 3) := by
  have listed : (paths codes.levels)[k]? = some data.position.toList := by
    rw [← positions, List.getElem?_map, found]
    rfl
  have inside : k < (paths codes.levels).length := (List.getElem?_eq_some_iff.mp listed).1
  have third : data.position.toList[3]? = some (data.position.get 3) := by
    simp [Vector.get]
  rw [← rate_at codes inside, listed]
  exact third

def FourRates (codes : Codes) : Prop :=
  codes.powers.length = 1 ∧ ∀ index < 4, integerBit codes.codingRate index = true

theorem FourRates.rates (four : FourRates codes) : codes.rates = List.range 4 :=
  List.filter_eq_self.mpr fun index member => four.2 index (List.mem_range.mp member)

/-- If the first four iterations have the four coding rates in turn, then so have all. -/
theorem FourRates.of_first
    (first : ∀ k < 4, codes.rates[k / codes.powers.length % codes.rates.length]? = some k) :
    FourRates codes := by
  have head : codes.rates[0]? = some 0 := by simpa using first 0 (by decide)
  have power : codes.powers.length = 1 := by
    by_contra other
    have same : 1 / codes.powers.length = 0 := by
      rcases Nat.eq_zero_or_pos codes.powers.length with none | some
      · rw [none]
      · exact Nat.div_eq_of_lt (by omega)
    have second := first 1 (by decide)
    rw [same, Nat.zero_mod, head] at second
    cases second
  have count : codes.rates.length = (List.range 4).length := by
    refine Nat.le_antisymm (List.length_filter_le _ _) ?_
    by_contra short
    have again := first codes.rates.length (by simpa using short)
    rw [power, Nat.div_one, Nat.mod_self, head] at again
    rw [List.length_eq_zero_iff.mp (Option.some.inj again).symm] at head
    cases head
  refine ⟨power, fun index small => ?_⟩
  exact List.length_filter_eq_length_iff.mp count index (List.mem_range.mpr small)

def fourRows (transmissions : Nat) : List Row :=
  (List.range 4).map fun k : Nat => ⟨(k * transmissions : Nat), "", 0, 0, 0⟩

theorem fourRows_increasing (positive : 0 < transmissions) :
    Increasing Row.totalNumber (fourRows transmissions) := by
  rw [Increasing, fourRows, List.pairwise_map]
  exact List.pairwise_lt_range.imp fun before =>
    Int.ofNat_lt.mpr (Nat.mul_lt_mul_of_pos_right before positive)

theorem fourRows_received {k transmissions : Nat} {data : IterationData}
    (positive : 0 < transmissions) (early : k < 4)
    (counts : data.Counts (k * transmissions) transmissions
      (iterationRows (fourRows transmissions) transmissions k)) :
    data.rssiIteration.isEmpty = false := by
  have row : (⟨(k * transmissions : Nat), "", 0, 0, 0⟩ : Row) ∈
      iterationRows (fourRows transmissions) transmissions k := by
    refine List.mem_filter.mpr ⟨List.mem_map.mpr ⟨k, List.mem_range.mpr early, rfl⟩, ?_⟩
    push_cast
    simpa using positive
  rw [counts.rssi, List.isEmpty_eq_false_iff]
  exact List.ne_nil_of_mem (List.mem_map_of_mem row)

/-- A wedge under the right coding rate tells how the loops order the coding rates. -/
theorem rate_of_wedge {final : Aggregation} {data : IterationData}
    (positions : final.iterations.map (fun data => data.position.toList) = paths codes.levels)
    (early : k < 4) (found : final.iterations[k]? = some data)
    (same : crLabel percent k data = ownLabel percent data) :
    codes.rates[k / codes.powers.length % codes.rates.length]? = some k := by
  have chosen := aggregated_rate positions found
  have listed := List.mem_filter.mp (List.mem_of_getElem? chosen)
  rw [chosen, rate_of_label data (List.mem_range.mp listed.1) early same]

/-- With one message in each of the first four iterations the first chart shows whether the
coding rates are right. -/
theorem FourRates.of_charts {final : Aggregation} (positive : 0 < transmissions)
    (many : ¬ (paths codes.levels).length < 4)
    (positions : final.iterations.map (fun data => data.position.toList) = paths codes.levels)
    (consumed : final.Consumed (fourRows transmissions) transmissions)
    (charts : crCharts percent final.iterations = ownCharts percent final.iterations) : FourRates codes := by
  have size : final.iterations.length = (paths codes.levels).length := by rw [← positions, List.length_map]
  have received (k : Nat) (data : IterationData) (early : k < 4) (found : final.iterations[k]? = some data) :
      data.rssiIteration.isEmpty = false := fourRows_received positive early (consumed.counts k data found)
  have rate (k : Nat) (data : IterationData) (early : k < 4) (found : final.iterations[k]? = some data)
      (same : crLabel percent k data = ownLabel percent data) := rate_of_wedge positions early found same
  rcases shape : final.iterations with _ | ⟨first, _ | ⟨second, _ | ⟨third, _ | ⟨fourth, rest⟩⟩⟩⟩
  iterate 4 (exact absurd size (by simp [shape]; omega))
  rw [shape] at charts rate received
  have all : ∀ data ∈ [first, second, third, fourth], data.rssiIteration.isEmpty = false := by
    simp only [List.forall_mem_cons, List.not_mem_nil, false_implies, implies_true, and_true]
    exact ⟨received 0 first (by decide) rfl, received 1 second (by decide) rfl,
      received 2 third (by decide) rfl, received 3 fourth (by decide) rfl⟩
  obtain ⟨_, drawn⟩ := pieCharts_four (crLabel percent) rest all
  obtain ⟨_, own⟩ := pieCharts_four (fun _ => ownLabel percent) rest all
  rw [crCharts, ownCharts, drawn, own] at charts
  have labels := congrArg PieChart.crCorrupted (List.cons.inj charts).1
  simp only [List.cons.injEq, and_true] at labels
  obtain ⟨one, two, three, four⟩ := labels
  refine .of_first fun k early => ?_
  interval_cases k
  · exact rate 0 first (by decide) rfl one
  · exact rate 1 second (by decide) rfl two
  · exact rate 2 third (by decide) rfl three
  · exact rate 3 fourth (by decide) rfl four

theorem FourRates.charts {final : Aggregation} (four : FourRates codes)
    (positions : final.iterations.map (fun data => data.position.toList) = paths codes.levels) :
    crCharts percent final.iterations = ownCharts percent final.iterations := by
  refine pieCharts_congr (fun k data found => label_of_rate data ?_) .empty
  have chosen := aggregated_rate positions found
  rw [four.1, Nat.div_one, four.rates, List.length_range,
    List.getElem?_range (Nat.mod_lt _ (by decide))] at chosen
  rw [← Option.some.inj chosen, Nat.zero_add]

/-- With a given number of messages, each chart of the coding rate mode has its wedges under
the right coding rates, whatever is received, exactly if there are less than four combinations
or the experiment has one power and all four coding rates. -/
theorem coding_rates_shown_iff (percent : Nat → Nat → Int) (codes : Codes) (transmissions : Nat)
    (positive : 0 < transmissions) :
    (∀ rows final, Numbered rows → aggregate codes rows transmissions .start = some final →
      crCharts percent final.iterations = ownCharts percent final.iterations) ↔
        (paths codes.levels).length < 4 ∨ FourRates codes := by
  constructor
  · intro shown
    by_cases few : (paths codes.levels).length < 4
    · exact .inl few
    · obtain ⟨final, run, positions, consumed⟩ :
          ∃ final, aggregate codes ((fourRows transmissions).map Row.kept) transmissions .start = some final ∧
            final.iterations.map (fun data => data.position.toList) = paths codes.levels ∧
            final.Consumed (fourRows transmissions) transmissions := by
        refine aggregate_consumed codes (fourRows_increasing positive) fun row member => ?_
        obtain ⟨k, -, rfl⟩ := List.mem_map.mp member
        exact Int.natCast_nonneg _
      exact .inr (.of_charts positive few positions consumed (shown _ final (kept_numbered _) run))
  · intro fits rows final numbered run
    have positions := aggregate_positions numbered run
    rcases fits with few | four
    · have short : 0 % 4 + final.iterations.length < 4 := by
        rw [← positions, List.length_map] at few
        omega
      rw [crCharts, ownCharts, pieCharts_short _ short, pieCharts_short _ short]
    · exact four.charts positions

/-- Fifty messages, two powers and two coding rates: some chart is wrong. -/
theorem coding_rates_shown_sample :
    ¬ ∀ rows final, Numbered rows → aggregate ⟨1, 1, 1, 3, 3⟩ rows 50 .start = some final →
      crCharts (fun _ _ => 0) final.iterations = ownCharts (fun _ _ => 0) final.iterations := by
  rw [coding_rates_shown_iff (fun _ _ => 0) ⟨1, 1, 1, 3, 3⟩ 50 (by decide)]
  rintro (few | ⟨one, -⟩)
  · exact absurd few (by decide)
  · exact absurd one (by decide)

end

end LoraEval.Graphs

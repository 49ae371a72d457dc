import LoraEval.Core.Double
import LoraEval.Core.Ordered
import LoraEval.Graphs.Session

namespace LoraEval.Graphs

open LoraEval.Core

/-- The texts of the columns that are read of a record of the result file. -/
structure ResultRow where
  totalnumber : String
  identifier : String
  rssi : String
  snr : String
  biterrors : String
deriving DecidableEq, Repr

/-- The loop over the result file. A row with the total number text of the row before it
is skipped; `last_row_total_number` starts as the number 0, which equals no text. -/
def extractRows : Option String → List ResultRow → Option (List KeptRow)
  | _, [] => some []
  | last, row :: rest =>
    if some row.totalnumber = last then extractRows last rest
    else do
      let rssi ← int row.rssi
      let snr ← int row.snr
      let biterrors ← int row.biterrors
      let others ← extractRows (some row.totalnumber) rest
      return ⟨row.totalnumber, row.identifier, rssi, snr, biterrors⟩ :: others

structure Row where
  totalNumber : Int
  identifier : String
  rssi : Int
  snr : Int
  bitErrors : Int
deriving DecidableEq, Repr

def Row.kept (row : Row) : KeptRow :=
  ⟨toString row.totalNumber, row.identifier, row.rssi, row.snr, row.bitErrors⟩

/-- The texts of a row, with the total number as the app writes an integer. -/
structure Row.Writes (row : Row) (texts : ResultRow) : Prop where
  totalNumber : texts.totalnumber = toString row.totalNumber
  identifier : texts.identifier = row.identifier
  rssi : int texts.rssi = some row.rssi
  snr : int texts.snr = some row.snr
  bitErrors : int texts.biterrors = some row.bitErrors

theorem int_toString (number : Int) : int (toString number) = some number :=
  readSigned_decimal Java.digit_ascii number

theorem kept_numbered (rows : List Row) : Numbered (rows.map Row.kept) := by
  intro kept member
  obtain ⟨row, -, rfl⟩ := List.mem_map.mp member
  exact ⟨row.totalNumber, int_toString row.totalNumber⟩

/-- The filter on the texts keeps the rows the filter on the numbers keeps. -/
theorem extractRows_eq (written : List.Forall₂ Row.Writes rows texts) (last : Option Int) :
    extractRows (last.map toString) texts =
      some ((dropRepeats Row.totalNumber last rows).map Row.kept) := by
  induction written generalizing last with
  | nil => rfl
  | @cons row text _ _ head _ ih =>
    have repeats : some text.totalnumber = last.map toString ↔ some row.totalNumber = last := by
      cases last with
      | none => simp
      | some number =>
        rw [head.totalNumber, Option.map_some, Option.some.injEq, Option.some.injEq, Java.toString_int_inj]
    have later := ih (some row.totalNumber)
    rw [Option.map_some, ← head.totalNumber] at later
    rw [extractRows, dropRepeats]
    by_cases same : some row.totalNumber = last
    · rw [if_pos (repeats.mpr same), if_pos same, ih]
    · rw [if_neg fun text => same (repeats.mp text), if_neg same]
      simp only [head.identifier, head.rssi, head.snr, head.bitErrors, later, Option.bind_eq_bind,
        Option.bind_some, List.map_cons, Row.kept, ← head.totalNumber]
      rfl

/-- What an iteration that starts at `start` has counted after `n` rounds of its loop. -/
structure IterationData.Counts (data : IterationData) (start : Int) (n : Nat) (rows : List Row) : Prop where
  rounds : data.rounds.map (fun n : Nat => start + n) = rows.map Row.totalNumber
  within : data.rounds.Sublist (List.range n)
  rssi : data.rssiIteration = rows.map Row.rssi
  snr : data.snrIteration = rows.map fun row => row.rssi - row.snr
  rssiSum : data.rssiSum = (rows.map Row.rssi).sum
  biterrorSum : data.biterrorSum = (rows.map Row.bitErrors).sum
  corrupted : data.corruptedMsgsCount = rows.countP fun row => row.identifier.contains 'f'

section

variable {rows : List Row} {transmissions k n : Nat}

theorem collectRow_counts {data : IterationData × Nat} (increasing : Increasing Row.totalNumber rows)
    (cursor : data.2 = (below Row.totalNumber (k * transmissions + n) rows).length)
    (counts : data.1.Counts (k * transmissions) n
      (between Row.totalNumber (k * transmissions) (k * transmissions + n) rows)) :
    ∃ next, collectRow (rows.map Row.kept) transmissions k n data = some next ∧
      next.2 = (below Row.totalNumber (k * transmissions + (n + 1 : Nat)) rows).length ∧
      next.1.Counts (k * transmissions) (n + 1)
        (between Row.totalNumber (k * transmissions) (k * transmissions + (n + 1 : Nat)) rows) := by
  obtain ⟨lower, window⟩ := increasing.advance (k * transmissions + n)
  rw [← cursor] at lower window
  have bound : (k * transmissions + (n + 1 : Nat) : Int) = k * transmissions + n + 1 := by omega
  have longer : (List.range n).Sublist (List.range (n + 1)) := by
    rw [List.range_succ]
    exact List.sublist_append_left _ _
  simp only [bound]
  rw [lower, window _ (by omega), List.length_append, ← cursor, collectRow, List.getElem?_map]
  cases found : rows[data.2]? with
  | none =>
    refine ⟨data, rfl, by simp, ?_⟩
    simpa using { counts with within := counts.within.trans longer }
  | some row =>
    have converted : int row.kept.totalNumber = some row.totalNumber := int_toString row.totalNumber
    simp only [Option.map_some, converted, Option.bind_eq_bind, Option.bind_some]
    by_cases here : row.totalNumber = k * transmissions + n
    · have taken : (n : Int) = row.totalNumber - k * transmissions := by omega
      have next : (some row).filter (fun item => decide (item.totalNumber = (k * transmissions + n : Int))) =
          some row := by
        simp [Option.filter, here]
      simp only [taken.symm, if_true, next, Option.toList_some]
      refine ⟨_, rfl, rfl, ?_, ?_, ?_, ?_, ?_, ?_, ?_⟩
      · simp [counts.rounds, here]
      · rw [List.range_succ]
        exact counts.within.append (List.Sublist.refl [n])
      · simp [counts.rssi, Row.kept]
      · simp [counts.snr, Row.kept]
      · simp [counts.rssiSum, Row.kept]
      · simp [counts.biterrorSum, Row.kept]
      · simp [counts.corrupted, List.countP_singleton, Row.kept]
    · have passed : ¬ (n : Int) = row.totalNumber - k * transmissions := by omega
      simp only [passed, if_false]
      refine ⟨data, rfl, by simp [Option.filter, here], ?_⟩
      simpa [Option.filter, here] using { counts with within := counts.within.trans longer }

theorem collectRows_counts (increasing : Increasing Row.totalNumber rows) (start : IterationData)
    (fresh : start.rounds = [] ∧ start.rssiIteration = [] ∧ start.snrIteration = [] ∧
      start.rssiSum = 0 ∧ start.biterrorSum = 0 ∧ start.corruptedMsgsCount = 0) (n : Nat) :
    ∃ final, forEach (List.range n) (collectRow (rows.map Row.kept) transmissions k)
        (start, (below Row.totalNumber (k * transmissions) rows).length) = some final ∧
      final.2 = (below Row.totalNumber (k * transmissions + n) rows).length ∧
      final.1.Counts (k * transmissions) n
        (between Row.totalNumber (k * transmissions) (k * transmissions + n) rows) := by
  induction n with
  | zero =>
    obtain ⟨rounds, rssi, snr, rssiSum, biterrorSum, corrupted⟩ := fresh
    have none : between Row.totalNumber (k * transmissions) (k * transmissions + (0 : Nat)) rows = [] := by
      apply List.filter_eq_nil_iff.mpr
      intro row _
      simp
    rw [none]
    refine ⟨_, rfl, by simp, ?_, ?_, ?_, ?_, ?_, ?_, ?_⟩ <;> simp [*]
  | succ n ih =>
    obtain ⟨before, run, cursor, counts⟩ := ih
    obtain ⟨final, collected, moved, counted⟩ := collectRow_counts increasing cursor counts
    refine ⟨final, ?_, moved, counted⟩
    rw [List.range_succ, forEach_append, run, Option.bind_eq_bind, Option.bind_some, forEach_cons, collected]
    rfl

variable (rows transmissions)

/-- The rows of iteration `k`. -/
def iterationRows (k : Nat) : List Row :=
  between Row.totalNumber (k * transmissions) (k * transmissions + transmissions) rows

/-- Between two iterations: the rows of the iterations so far are counted, each in its
iteration, and the index stands behind them. -/
structure Aggregation.Consumed (state : Aggregation) : Prop where
  size : state.iterations.length = state.iteration
  cursor : state.index = (below Row.totalNumber (state.iteration * transmissions) rows).length
  counts : ∀ (k : Nat) (data : IterationData), state.iterations[k]? = some data →
    data.Counts (k * transmissions) transmissions (iterationRows rows transmissions k)

variable {rows transmissions}

theorem collectIteration_consumed {state next : Aggregation} (increasing : Increasing Row.totalNumber rows)
    (collected : collectIteration (rows.map Row.kept) transmissions state = some next)
    (consumed : state.Consumed rows transmissions) : next.Consumed rows transmissions := by
  obtain ⟨size, cursor, counts⟩ := consumed
  obtain ⟨reached, run, moved, counted⟩ :
      ∃ final : IterationData × Nat, _ ∧ _ ∧
        final.1.Counts (state.iteration * transmissions) transmissions _ :=
    collectRows_counts increasing ⟨state.position, state.label, [], [], [], 0, 0, 0⟩
      ⟨rfl, rfl, rfl, rfl, rfl, rfl⟩ transmissions
  rw [← cursor] at run
  rw [collectIteration, run] at collected
  cases collected
  refine ⟨by simp [size], ?_, ?_⟩
  · simp only [Int.natCast_add, Int.natCast_one, Int.add_mul, Int.one_mul]
    exact moved
  · intro k data found
    rcases Nat.lt_or_ge k state.iterations.length with old | new
    · rw [List.getElem?_append_left old] at found
      exact counts k data found
    · rw [List.getElem?_append_right new, List.getElem?_singleton] at found
      split at found
      · rename_i last
        obtain rfl : k = state.iteration := by omega
        cases found
        exact counted
      · cases found

theorem aggregate_consumed (codes : Codes) (increasing : Increasing Row.totalNumber rows)
    (least : ∀ row ∈ rows, 0 ≤ row.totalNumber) :
    ∃ final, aggregate codes (rows.map Row.kept) transmissions .start = some final ∧
      final.iterations.map (fun data => data.position.toList) = paths codes.levels ∧
      final.Consumed rows transmissions := by
  obtain ⟨final, run, visited⟩ := aggregate_visited codes (kept_numbered rows) transmissions .start
  refine ⟨final, run, ?_, ?_⟩
  · have positions := congrArg (List.map Prod.fst) visited
    simpa [Aggregation.visited, Aggregation.start, Function.comp_def] using positions
  · rw [aggregate_eq] at run
    refine nest_keeps (Aggregation.Consumed rows transmissions) ?_
      (fun state next => collectIteration_consumed increasing) run ?_
    · intro level index state next entered consumed
      simp only [Aggregation.enter, Option.bind_eq_bind, Option.bind_eq_some_iff] at entered
      obtain ⟨text, -, label, -, position, -, same⟩ := entered
      cases same
      exact ⟨consumed.size, consumed.cursor, consumed.counts⟩
    · refine ⟨rfl, ?_, by simp [Aggregation.start]⟩
      have none : below Row.totalNumber 0 rows = [] :=
        List.filter_eq_nil_iff.mpr (by simpa using least)
      simp [Aggregation.start, none]

/-- Every row that is taken in lies in the range of some iteration. -/
theorem Aggregation.Consumed.all {state : Aggregation} (consumed : state.Consumed rows transmissions)
    (inside : ∀ row ∈ rows, row.totalNumber < state.iteration * transmissions) :
    state.index = rows.length := by
  have whole : below Row.totalNumber (state.iteration * transmissions) rows = rows :=
    List.filter_eq_self.mpr (by simpa using inside)
  rw [consumed.cursor, whole]

end

section

variable (round : ℚ → ℚ) (experiment : Experiment) (data : IterationData)

/-- The rates as computed, with `/` rounding the exact quotient. -/
def rates : Metrics ℚ := metrics (fun dividend divisor => round (dividend / divisor)) experiment data

def exactRates : Metrics ℚ := rates id experiment data

/-- The delivery rates are the roundings of exact rates in the unit interval that add up. -/
structure RatesAddUp : Prop where
  pdr : (rates round experiment data).pdr = round (exactRates experiment data).pdr
  pdrCorr : (rates round experiment data).pdrCorr = round (exactRates experiment data).pdrCorr
  pdrUncorr : (rates round experiment data).pdrUncorr = round (exactRates experiment data).pdrUncorr
  sum : (exactRates experiment data).pdr =
    (exactRates experiment data).pdrCorr + (exactRates experiment data).pdrUncorr
  low : 0 ≤ (rates round experiment data).pdr
  high : (rates round experiment data).pdr ≤ 1

variable {round experiment data} {rows : List Row}

theorem IterationData.Counts.received (counts : data.Counts start n rows) :
    data.rssiIteration.length = rows.length ∧ rows.length ≤ n ∧ data.corruptedMsgsCount ≤ rows.length := by
  refine ⟨by simp [counts.rssi], ?_, ?_⟩
  · have bound := counts.within.length_le
    have same := congrArg List.length counts.rounds
    simp only [List.length_map, List.length_range] at bound same
    omega
  · rw [counts.corrupted]
    exact List.countP_le_length

theorem IterationData.Counts.ratesAddUp (rounding : Rounding round) (counts : data.Counts start n rows)
    (transmissions : experiment.numberOfTransmissions = n) : RatesAddUp round experiment data := by
  obtain ⟨size, few, corrupted⟩ := counts.received
  by_cases some : 0 < data.rssiIteration.length
  · have positive : (0 : ℚ) < n := by
      exact_mod_cast (show 0 < n by omega)
    have low : (0 : ℚ) ≤ data.rssiIteration.length / n := by positivity
    have high : (data.rssiIteration.length : ℚ) / n ≤ 1 := by
      rw [div_le_one positive]
      exact_mod_cast (show data.rssiIteration.length ≤ n by omega)
    have computed : (rates round experiment data).pdr = round (data.rssiIteration.length / n) := by
      simp [rates, metrics, some, transmissions]
    refine ⟨?_, ?_, ?_, ?_, ?_, ?_⟩
    · simp [rates, exactRates, metrics, some]
    · simp [rates, exactRates, metrics, some]
    · simp [rates, exactRates, metrics, some]
    · simp [rates, exactRates, metrics, some]
      ring
    · rw [computed]
      exact rounding.nonneg _ low
    · rw [computed]
      exact rounding.le_one _ high
  · have none (f : ℚ → ℚ) : rates f experiment data = ⟨0, 0, 0, 0, 0⟩ := by
      simp only [rates, metrics, some, if_false]
    refine ⟨?_, ?_, ?_, ?_, ?_, ?_⟩ <;> simp [exactRates, none, rounding.zero]

theorem bitErrors_sum_le {length : Int} (bound : ∀ row ∈ rows, row.bitErrors ≤ 8 * length)
    (clean : ∀ row ∈ rows, row.identifier.contains 'f' = false → row.bitErrors = 0) :
    (rows.map Row.bitErrors).sum ≤ (rows.countP fun row => row.identifier.contains 'f') * length * 8 := by
  induction rows with
  | nil => simp
  | cons row rest ih =>
    have others := ih (fun other member => bound other (List.mem_cons_of_mem row member))
      fun other member => clean other (List.mem_cons_of_mem row member)
    rw [List.map_cons, List.sum_cons, List.countP_cons]
    by_cases corrupted : row.identifier.contains 'f'
    · have most := bound row List.mem_cons_self
      simp only [corrupted, if_true]
      push_cast
      linarith
    · have none := clean row List.mem_cons_self (by simpa using corrupted)
      simp only [corrupted, none]
      simpa using others

/-- The bit error rate is at most one if corrupted packets have at most all their bits
wrong and other packets none. -/
theorem IterationData.Counts.bitErrRate_le_one (rounding : Rounding round) (counts : data.Counts start n rows)
    (positive : 0 < experiment.packetLength)
    (bound : ∀ row ∈ rows, row.bitErrors ≤ 8 * experiment.packetLength)
    (clean : ∀ row ∈ rows, row.identifier.contains 'f' = false → row.bitErrors = 0) :
    (rates round experiment data).bitErrRate ≤ 1 := by
  have total := bitErrors_sum_le bound clean
  rw [← counts.biterrorSum, ← counts.corrupted] at total
  simp only [rates, metrics]
  split
  · split
    · rename_i corrupted
      apply rounding.le_one
      have divisor : (0 : ℚ) < ((data.corruptedMsgsCount * experiment.packetLength * 8 : Int) : ℚ) := by
        exact_mod_cast (by positivity : 0 < (data.corruptedMsgsCount : Int) * experiment.packetLength * 8)
      rw [div_le_one divisor]
      exact_mod_cast total
    · exact zero_le_one
  · exact zero_le_one

end

/-- For every number of transmissions, all parameter codes and all result rows with total
numbers in range that do not decrease: only the first row of each total number is kept,
every kept row is counted, in the iteration of its total number, and the rates of each
iteration add up, apart from the rounding of each quotient. -/
theorem aggregation_lossless {rows : List Row} {round : ℚ → ℚ} (rounding : Rounding round) (codes : Codes)
    (transmissions : Nat) (written : List.Forall₂ Row.Writes rows texts)
    (ordered : Nondecreasing Row.totalNumber rows)
    (inside : ∀ row ∈ rows, 0 ≤ row.totalNumber ∧
      row.totalNumber < (paths codes.levels).length * transmissions) :
    ∃ (kept : List Row) (final : Aggregation), extractRows none texts = some (kept.map Row.kept) ∧
      kept = rows.eraseDupsBy (fun first second => first.totalNumber == second.totalNumber) ∧
      aggregate codes (kept.map Row.kept) transmissions .start = some final ∧
      final.index = kept.length ∧
      final.iterations.map (fun data => data.position.toList) = paths codes.levels ∧
      ∀ (k : Nat) (data : IterationData), final.iterations[k]? = some data →
        data.Counts (k * transmissions) transmissions (iterationRows kept transmissions k) ∧
        ∀ experiment : Experiment, experiment.numberOfTransmissions = transmissions →
          RatesAddUp round experiment data ∧
          (0 < experiment.packetLength →
            (∀ row ∈ rows, row.bitErrors ≤ 8 * experiment.packetLength) →
            (∀ row ∈ rows, row.identifier.contains 'f' = false → row.bitErrors = 0) →
            (rates round experiment data).bitErrRate ≤ 1) := by
  obtain ⟨first, increasing⟩ := dropRepeats_first ordered
  have subset := (dropRepeats_sublist Row.totalNumber none rows).subset
  obtain ⟨final, run, visited, consumed⟩ : ∃ final, aggregate codes _ transmissions .start = some final ∧ _ :=
    aggregate_consumed codes increasing fun row member => (inside row (subset member)).1
  have size : final.iteration = (paths codes.levels).length := by
    rw [← consumed.size, ← visited, List.length_map]
  refine ⟨_, final, extractRows_eq written none, first, run, ?_, visited, ?_⟩
  · apply consumed.all
    rw [size]
    exact fun row member => (inside row (subset member)).2
  · intro k data found
    have counts := consumed.counts k data found
    refine ⟨counts, fun experiment same => ⟨counts.ratesAddUp rounding same, ?_⟩⟩
    intro positive bound clean
    have listed : iterationRows (dropRepeats Row.totalNumber none rows) transmissions k ⊆ rows :=
      fun row member => subset (List.mem_of_mem_filter member)
    exact counts.bitErrRate_le_one rounding positive (fun row member => bound row (listed member))
      fun row member => clean row (listed member)

def Row.texts (row : Row) : ResultRow :=
  ⟨toString row.totalNumber, row.identifier, toString row.rssi, toString row.snr, toString row.bitErrors⟩

theorem Row.writes_texts (row : Row) : row.Writes row.texts :=
  ⟨rfl, rfl, int_toString _, int_toString _, int_toString _⟩

theorem Row.writes_all (rows : List Row) : List.Forall₂ Row.Writes rows (rows.map Row.texts) :=
  List.forall₂_map_right_iff.mpr (List.forall₂_same.mpr fun row _ => row.writes_texts)

/-- Three messages of an iteration, one of them corrupted and reported twice. -/
def sampleRows : List Row :=
  [⟨0, "00000_000t", -80, 7, 0⟩, ⟨1, "00000_001f", -81, 7, 3⟩, ⟨1, "00000_001f", -81, 7, 3⟩,
    ⟨2, "00000_002t", -82, 6, 0⟩]

theorem aggregation_lossless_sample :
    ∃ (kept : List Row) (final : Aggregation),
      extractRows none (sampleRows.map Row.texts) = some (kept.map Row.kept) ∧
      aggregate ⟨1, 1, 1, 1, 1⟩ (kept.map Row.kept) 10 .start = some final ∧ final.index = kept.length := by
  obtain ⟨kept, final, extracted, -, run, all, -⟩ := aggregation_lossless double_rounding ⟨1, 1, 1, 1, 1⟩ 10
    (Row.writes_all sampleRows) (by unfold Nondecreasing; decide) (by decide)
  exact ⟨kept, final, extracted, run, all⟩

/-- One tenth and two tenths do not add up to three tenths in double precision. -/
theorem rates_differ :
    ∃ kept final data, extractRows none (sampleRows.map Row.texts) = some kept ∧
      aggregate ⟨1, 1, 1, 1, 1⟩ kept 10 .start = some final ∧ final.iterations[0]? = some data ∧
      ∀ experiment : Experiment, experiment.numberOfTransmissions = 10 →
        (rates double experiment data).pdr ≠
          (rates double experiment data).pdrCorr + (rates double experiment data).pdrUncorr ∧
        (rates double experiment data).pdr ≠
          double ((rates double experiment data).pdrCorr + (rates double experiment data).pdrUncorr) := by
  obtain ⟨-, increasing⟩ : _ ∧ Increasing _ (dropRepeats Row.totalNumber none sampleRows) :=
    dropRepeats_first (by unfold Nondecreasing; decide)
  obtain ⟨final, run, visited, consumed⟩ :
      ∃ final, aggregate ⟨1, 1, 1, 1, 1⟩ _ 10 .start = some final ∧ _ ∧ final.Consumed _ 10 :=
    aggregate_consumed ⟨1, 1, 1, 1, 1⟩ increasing (by decide)
  have one : final.iterations.length = 1 := by
    rw [← List.length_map, visited]
    decide
  obtain ⟨data, found⟩ : ∃ data, final.iterations[0]? = some data :=
    ⟨final.iterations[0], List.getElem?_eq_getElem (by omega)⟩
  have counts := consumed.counts 0 data found
  have received : data.rssiIteration.length = 3 := by
    rw [counts.rssi]
    decide
  have corrupted : data.corruptedMsgsCount = 1 := by
    rw [counts.corrupted]
    simp only [String.contains_char_eq]
    decide
  refine ⟨_, final, data, extractRows_eq (Row.writes_all sampleRows) none, run, found, ?_⟩
  intro experiment ten
  have pdr : (rates double experiment data).pdr = double (3 / 10) := by
    simp [rates, metrics, received, ten]
  have pdrCorr : (rates double experiment data).pdrCorr = double (1 / 10) := by
    simp [rates, metrics, received, corrupted, ten]
  have pdrUncorr : (rates double experiment data).pdrUncorr = double (2 / 10) := by
    simp [rates, metrics, received, corrupted, ten]
  rw [pdr, pdrCorr, pdrUncorr]
  decide +kernel

end LoraEval.Graphs

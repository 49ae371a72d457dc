import LoraEval.App.Settings
import LoraEval.App.Summary
import LoraEval.Firmware.SenderInvariant
import LoraEval.Firmware.ReceiverInvariant
import LoraEval.Graphs.Session

namespace LoraEval.Experiment

open LoraEval.Core LoraEval.App LoraEval.Firmware LoraEval.Graphs

/-- The settings the firmware reads are the encoded form. -/
structure SettingsOf (form : Form) (settings : Settings) : Prop where
  messages : Java.parseByte form.noMsgs = .ok settings.numberOfMessages
  time : Java.parseByte form.timeBetween = .ok settings.timeBetween
  length : Java.parseByte form.msgLength = .ok settings.msgLength
  frequencies : settings.frequencies = encodeParamByte form.boxes.frequencies.toList
  bandwidths : settings.bandwidths = encodeParamByte form.boxes.bandwidths.toList
  spreadingFactors : settings.spreadingFactors = encodeParamByte form.boxes.spreadingFactors.toList
  codingRates : settings.codingRates = encodeParamByte form.boxes.codingRates.toList
  powers : settings.powers = encodeParamByte form.boxes.powers.toList

theorem settings_of_encoded (encoded : createSettingsBytes (form.record rowId) total = .ok bytes) :
    ∃ settings, Settings.ofBytes bytes = some settings ∧ SettingsOf form settings := by
  obtain ⟨messages, time, length, messagesParsed, timeParsed, lengthParsed, rfl⟩ :=
    (createSettingsBytes_record_eq_ok form rowId total).mp encoded
  exact ⟨_, rfl, messagesParsed, timeParsed, lengthParsed, rfl, rfl, rfl, rfl, rfl⟩

/-- The choices of one checked box per category, in lexicographic order. -/
def choices (boxes : CheckBoxes) : List (List Nat) := product (boxes.lists.map checked)

def values (boxes : CheckBoxes) : List RadioParams :=
  (choices boxes).map fun choice => (Combination.ofPath choice).params

theorem choices_sorted (boxes : CheckBoxes) : (choices boxes).Pairwise (· < ·) := by
  apply product_sorted
  intro items member
  obtain ⟨list, _, rfl⟩ := List.mem_map.mp member
  exact List.Pairwise.filter _ List.pairwise_lt_range

theorem unsigned_chosen (short : configs.length ≤ 8) (bound : configs.length ≤ count) :
    Level.chosen ⟨unsignedBit (encodeParamByte configs), List.range count⟩ = checked configs :=
  filter_bits_encode short bound fun i _ => unsignedBit_eq _ i

theorem integer_chosen (short : configs.length ≤ 8) (bound : configs.length ≤ count)
    (small : count ≤ 8) :
    Level.chosen ⟨integerBit (encodeParamByte configs).toInt, List.range count⟩ = checked configs :=
  filter_bits_encode short bound fun _ inside => integerBit_eq (by omega)

theorem SettingsOf.paths (form : Form) (of : SettingsOf form settings) :
    paths settings.levels = choices form.boxes := by
  rw [Core.paths, choices, Settings.levels, of.frequencies, of.bandwidths, of.spreadingFactors,
    of.codingRates, of.powers]
  simp only [List.map_cons, List.map_nil, CheckBoxes.lists]
  rw [unsigned_chosen (by simp) (by simp), unsigned_chosen (by simp) (by simp),
    unsigned_chosen (by simp) (by simp), unsigned_chosen (by simp) (by simp),
    unsigned_chosen (by simp) (by simp)]

theorem record_int (form : Form) (rowId k : Nat) (inside : k < form.boxes.lists.length) :
    intParam (form.record rowId).get (Column.frequencies + k) =
      some (encodeParamByte form.boxes.lists[k]).toInt := by
  have readBack (configs : List Bool) :
      int (byteColumn configs) = some (encodeParamByte configs).toInt := by
    obtain ⟨value, parsed, -, -, same⟩ :=
      Java.parseByte_eq_ok.mp (Java.parseByte_byteToString (encodeParamByte configs))
    rw [byteColumn, int_of_parseInt parsed, same]
  have bound : k < 5 := inside
  interval_cases k <;>
    simp [intParam, Entry.get, Form.record, logExperiment, Column.frequencies, readBack,
      CheckBoxes.lists]

def formCodes (boxes : CheckBoxes) : Codes where
  frequency := (encodeParamByte boxes.frequencies.toList).toInt
  bandwidth := (encodeParamByte boxes.bandwidths.toList).toInt
  spreadingFactor := (encodeParamByte boxes.spreadingFactors.toList).toInt
  codingRate := (encodeParamByte boxes.codingRates.toList).toInt
  power := (encodeParamByte boxes.powers.toList).toInt

theorem formCodes_paths (boxes : CheckBoxes) : paths (formCodes boxes).levels = choices boxes := by
  rw [paths, choices, Codes.levels, formCodes]
  simp only [List.map_cons, List.map_nil, CheckBoxes.lists]
  rw [integer_chosen (by simp) (by simp) (by decide), integer_chosen (by simp) (by simp) (by decide),
    integer_chosen (by simp) (by simp) (by decide), integer_chosen (by simp) (by simp) (by decide),
    integer_chosen (by simp) (by simp) (by decide)]

/-- The labels of the evaluation script name the radio parameters of a choice. -/
def describe (params : RadioParams) : List String :=
  ["Frequency: " ++ toString (params.frequency / 1000000) ++ "." ++
      toString (params.frequency / 100000 % 10) ++ " MHz",
    "Bandwidth: " ++ toString (125 * 2 ^ params.bandwidth) ++ "kHz",
    "Spreading Factor: " ++ toString params.datarate,
    "Coding Rate: 4/" ++ toString (params.codingRate + 4),
    "Power: " ++ toString params.txPower]

theorem pathLabels_eq_describe (full : path.length = 5) (valid : (Combination.ofPath path).Valid) :
    pathLabels path = describe (Combination.ofPath path).params := by
  match path with
  | [i, j, k, l, m] =>
    have frequency : ∀ i < 8, (labelText 0 i).getD "" = "Frequency: " ++
        toString ((frequencies[i]?.getD 0) / 1000000) ++ "." ++
        toString ((frequencies[i]?.getD 0) / 100000 % 10) ++ " MHz" := by decide
    have bandwidth : ∀ j < 3, (labelText 1 j).getD "" =
        "Bandwidth: " ++ toString (125 * 2 ^ j) ++ "kHz" := by decide
    have rate : ∀ l < 4, (labelText 3 l).getD "" = "Coding Rate: 4/" ++ toString (l + 1 + 4) := by decide
    simp only [pathLabels, describe, List.mapIdx_cons, List.mapIdx_nil]
    have := frequency i valid.frequency
    have := bandwidth j valid.bandwidth
    have := rate l valid.codingRate
    simp_all [Combination.params, Combination.ofPath, labelText]

/-- At most 3072 combinations can be selected, so the app's 32-bit totals are exact. -/
theorem choices_length_le (boxes : CheckBoxes) : (choices boxes).length ≤ 3072 := by
  have few (configs : List Bool) : (checked configs).length ≤ configs.length := by
    simpa [checked] using List.length_filter_le (fun i => configs[i]?.getD false)
      (List.range configs.length)
  have frequencies := few boxes.frequencies.toList
  have bandwidths := few boxes.bandwidths.toList
  have factors := few boxes.spreadingFactors.toList
  have rates := few boxes.codingRates.toList
  have powers := few boxes.powers.toList
  simp only [Vector.length_toList] at frequencies bandwidths factors rates powers
  rw [choices, product_length]
  simp only [CheckBoxes.lists, List.map_cons, List.map_nil, List.prod_cons, List.prod_nil]
  calc _ ≤ 8 * (2 * (6 * (4 * (8 * 1)))) := by gcongr
    _ = 3072 := by decide

theorem counts_prod (boxes : CheckBoxes) :
    (boxes.lists.map fun list => (checked list).length).prod = (choices boxes).length := by
  rw [choices, product_length, List.map_map]
  rfl

private theorem product_fold (counts : List Nat) (start : Nat) :
    counts.foldl (fun product count => product * BitVec.ofNat 32 count) (BitVec.ofNat 32 start) =
      BitVec.ofNat 32 (start * counts.prod) := by
  induction counts generalizing start with
  | nil => simp
  | cons count rest ih =>
    rw [List.foldl_cons, ← BitVec.ofNat_mul, ih, List.prod_cons, Nat.mul_assoc]

theorem totals_iterations (counts : List Nat) (messages time : Int) (texts : List String) :
    (totals counts messages time texts).iterations = BitVec.ofNat 32 counts.prod := by
  rw [← Nat.one_mul counts.prod]
  exact product_fold counts 1

theorem totals_duration (counts : List Nat) (messages time : Nat) (texts : List String) :
    (totals counts messages time texts).duration =
      BitVec.ofNat 32 (counts.prod * messages * time + 5 * counts.prod) := by
  have same := totals_iterations counts messages time texts
  simp only [totals] at same ⊢
  rw [same, BitVec.ofInt_natCast, BitVec.ofInt_natCast, BitVec.ofNat_add, BitVec.ofNat_mul,
    BitVec.ofNat_mul, BitVec.ofNat_mul]

/-- The columns of the form that `process_data` converts. -/
def formColumns : List Nat := [1, 3, 12, 13, 14, 15, 16]

/-- The four enumerations of one experiment agree, for every initial buffer,
everything the receiver may receive, and every list of result rows. -/
structure EnumerationsAgree (form : Form) (entry : Entry) (settings : Settings) (summary : Summary) :
    Prop where
  sorted : (choices form.boxes).Pairwise (· < ·)
  complete : ∀ choice, choice ∈ choices form.boxes ↔
    List.Forall₂ (· ∈ ·) choice (form.boxes.lists.map checked)
  sender : ∀ state, ∃ final, senderExperiment settings state = some final ∧
    final.configuredParams = state.configuredParams ++ values form.boxes
  receiver : ∀ ldiv0 delay state, state.trace = [] → ∃ final,
    receiverExperiment settings ldiv0 delay state = some final ∧
      final.configuredParams = values form.boxes
  evaluation : ∀ rows, Numbered rows → ∃ codes number final, Codes.read entry.get = some codes ∧
    intParam entry.get 1 = some number ∧ aggregate codes rows number.toNat .start = some final ∧
    final.iterations.map (fun data => data.position.toList) = choices form.boxes ∧
    final.iterations.map (fun data => data.label.toList) = (values form.boxes).map describe ∧
    ∀ toDistance expParams, (∀ column ∈ formColumns, expParams column = entry.get column) →
      (expParams 26 >>= toDistance).isSome → processData toDistance expParams rows = some final.iterations
  iterations : summary.iterations.toNat = (values form.boxes).length
  duration : ∀ seconds, Java.parseInt form.timeBetween = .ok seconds → 0 ≤ seconds →
    1000 * summary.duration.toInt =
      ((values form.boxes).map fun _ => iterationTime settings false 0).sum

theorem SettingsOf.combinations (of : SettingsOf form settings) :
    settings.combinations.map Combination.params = values form.boxes := by
  rw [Settings.combinations, of.paths, values, List.map_map]
  rfl

theorem SettingsOf.long (of : SettingsOf form settings) (accepted : Accepted form) :
    11 ≤ settings.msgLength.toNat := by
  obtain ⟨length, measured, long⟩ := accepted.length
  have read := (Java.toNat_of_parseByte of.length measured).mpr (by omega)
  omega

theorem codes_record (form : Form) (rowId : Nat) :
    Codes.read (form.record rowId).get = some (formCodes form.boxes) := by
  have frequency : intParam (form.record rowId).get 12 = _ := record_int form rowId 0 (show 0 < 5 by decide)
  have bandwidth : intParam (form.record rowId).get 13 = _ := record_int form rowId 1 (show 1 < 5 by decide)
  have factor : intParam (form.record rowId).get 14 = _ := record_int form rowId 2 (show 2 < 5 by decide)
  have rate : intParam (form.record rowId).get 15 = _ := record_int form rowId 3 (show 3 < 5 by decide)
  have power : intParam (form.record rowId).get 16 = _ := record_int form rowId 4 (show 4 < 5 by decide)
  simp only [Codes.read, frequency, bandwidth, factor, rate, power]
  rfl

theorem intParam_parsed (found : expParams column = some text) (parsed : Java.parseInt text = .ok number) :
    intParam expParams column = some number := by
  rw [intParam, found]
  exact int_of_parseInt parsed

/-- `process_data` on the parameters of a form runs the loops over its codes. -/
theorem processData_form (rowId : Nat) (accepted : Accepted form)
    (messages : Java.parseInt form.noMsgs = .ok number)
    (kept : ∀ column ∈ formColumns, expParams column = (form.record rowId).get column)
    (placed : (expParams 26 >>= toDistance).isSome) (rows : List KeptRow) :
    processData toDistance expParams rows =
      (aggregate (formCodes form.boxes) rows number.toNat .start).map Aggregation.iterations := by
  have read (column : Nat) (used : column ∈ formColumns) :
      intParam expParams column = intParam (form.record rowId).get column := by
    rw [intParam, intParam, kept column used]
  have codes : Codes.read expParams = some (formCodes form.boxes) := by
    rw [← codes_record form rowId]
    simp only [Codes.read, read 12 (by decide), read 13 (by decide), read 14 (by decide), read 15 (by decide),
      read 16 (by decide)]
  obtain ⟨length, measured, -⟩ := accepted.length
  have transmissions := intParam_parsed (kept 1 (by decide)) messages
  have packetLength := intParam_parsed (kept 3 (by decide)) measured
  obtain ⟨distance, placed⟩ := Option.isSome_iff_exists.mp placed
  simp only [processData, codes, transmissions, packetLength, placed, Option.bind_eq_bind, Option.bind_some]
  exact (Option.map_eq_bind ..).symm

/-- The script can read every experiment of an accepted form, which has no length 0. -/
theorem read_form (rowId : Nat) (accepted : Accepted form)
    (messages : Java.parseInt form.noMsgs = .ok number) (measured : Java.parseInt form.msgLength = .ok length)
    (kept : ∀ column ∈ formColumns, expParams column = (form.record rowId).get column)
    (placed : (expParams 26 >>= toDistance).isSome) (numbered : Numbered rows) :
    ∃ experiment, Graphs.Experiment.read toDistance expParams rows = some experiment ∧
      experiment.numberOfTransmissions = number ∧ experiment.packetLength = length := by
  obtain ⟨final, run, -⟩ := aggregate_visited (formCodes form.boxes) numbered number.toNat .start
  have iterations := processData_form rowId accepted messages kept placed rows
  rw [run, Option.map_some] at iterations
  have transmissions := intParam_parsed (kept 1 (by decide)) messages
  have packetLength := intParam_parsed (kept 3 (by decide)) measured
  have nonzero : length ≠ 0 := by
    obtain ⟨same, measured', long⟩ := accepted.length
    have := Except.ok.inj (measured.symm.trans measured')
    omega
  refine ⟨⟨number, length, final.iterations, nonzero⟩, ?_, rfl, rfl⟩
  rw [Graphs.Experiment.read, iterations, transmissions, packetLength]
  exact dif_pos nonzero

private theorem window_sum (params : List RadioParams) (window : Int) :
    (params.map fun _ => window).sum = params.length * window := by
  induction params with
  | nil => simp
  | cons first rest ih =>
    rw [List.map_cons, List.sum_cons, ih, List.length_cons]
    push_cast
    ring

/-- The stored duration in milliseconds is the sum of the reception windows
between two iterations, one for each combination. -/
theorem duration_eq_windows (of : SettingsOf form settings)
    (messages : Java.parseInt form.noMsgs = .ok number) (one : 1 ≤ number) (hundred : number ≤ 100)
    (time : Java.parseInt form.timeBetween = .ok seconds) (positive : 0 ≤ seconds) (texts : List String) :
    1000 * (totals (form.boxes.lists.map fun list => (checked list).length) number seconds
      texts).duration.toInt = ((values form.boxes).map fun _ => iterationTime settings false 0).sum := by
  have few := choices_length_le form.boxes
  have timeRead := (Java.toNat_of_parseByte of.time time).mpr positive
  have messagesRead := (Java.toNat_of_parseByte of.messages messages).mpr (by omega)
  have short : settings.timeBetween.toNat ≤ 127 := by
    obtain ⟨same, parsed, -, high, -⟩ := Java.parseByte_eq_ok.mp of.time
    have identical : seconds = same := Except.ok.inj (time.symm.trans parsed)
    omega
  have bound : (choices form.boxes).length * settings.numberOfMessages.toNat *
      settings.timeBetween.toNat + 5 * (choices form.boxes).length ≤ 3072 * 100 * 127 + 5 * 3072 := by
    have most : settings.numberOfMessages.toNat ≤ 100 := by omega
    gcongr
  rw [← messagesRead, ← timeRead, totals_duration, counts_prod,
    BitVec.toInt_eq_toNat_of_lt (by rw [BitVec.toNat_ofNat]; omega), BitVec.toNat_ofNat,
    Nat.mod_eq_of_lt (by omega), window_sum]
  simp only [values, List.length_map, iterationTime, Bool.false_eq_true, if_false]
  push_cast
  ring

/-- Sender, receiver and evaluation script run through the same parameter
combinations, the checked ones in lexicographic order, and the app's summary
counts them and adds up their duration. -/
theorem enumerations_agree (stored : experimentReady form rowId = .ok (.stored entry))
    (encoded : createSettingsBytes entry total = .ok bytes) :
    ∃ settings summary, Settings.ofBytes bytes = some settings ∧ initSummary entry = .ok summary ∧
      EnumerationsAgree form entry settings summary := by
  obtain ⟨accepted, rfl⟩ := (experimentReady_eq_stored rowId).mp stored
  obtain ⟨settings, read, of⟩ := settings_of_encoded encoded
  obtain ⟨number, messages, one, hundred⟩ := accepted.messages
  obtain ⟨seconds, time, -⟩ := Java.parseByte_eq_ok.mp of.time
  obtain ⟨texts, summarised⟩ := initSummary_record form rowId accepted.boxes messages time
  refine ⟨settings, _, read, summarised, choices_sorted form.boxes, fun _ => mem_product, ?_, ?_, ?_,
    ?_, ?_⟩
  · intro state
    obtain ⟨final, run, configured⟩ := senderExperiment_configured settings (of.long accepted) state
    exact ⟨final, run, by rw [configured, of.combinations]⟩
  · intro ldiv0 delay state fresh
    obtain ⟨final, run, configured, -⟩ :=
      receiverExperiment_spec settings (of.long accepted) ldiv0 delay state fresh
    exact ⟨final, run, by rw [configured, of.combinations]⟩
  · intro rows numbered
    obtain ⟨final, run, visited⟩ := aggregate_visited (formCodes form.boxes) numbered number.toNat .start
    rw [formCodes_paths] at visited
    have positions := congrArg (List.map Prod.fst) visited
    have labels := congrArg (List.map Prod.snd) visited
    refine ⟨formCodes form.boxes, number, final, codes_record form rowId, intParam_parsed rfl messages, run,
      by simpa [Aggregation.visited, Aggregation.start, Function.comp_def] using positions, ?_, ?_⟩
    · have described : final.iterations.map (fun data => data.label.toList) =
          (choices form.boxes).map pathLabels := by
        simpa [Aggregation.visited, Aggregation.start, Function.comp_def] using labels
      rw [values, List.map_map, described]
      refine List.map_congr_left fun choice member => ?_
      rw [← of.paths] at member
      obtain ⟨full, valid⟩ := path_valid settings member
      exact pathLabels_eq_describe full valid
    · intro toDistance expParams kept placed
      rw [processData_form rowId accepted messages kept placed, run]
      rfl
  · have few := choices_length_le form.boxes
    rw [totals_iterations, counts_prod, values, List.length_map, BitVec.toNat_ofNat]
    exact Nat.mod_eq_of_lt (by omega)
  · intro same parsed positive
    obtain rfl : seconds = same := Except.ok.inj (time.symm.trans parsed)
    exact duration_eq_windows of messages one hundred time positive texts

theorem enumerations_agree_sample :
    experimentReady (sampleForm "50" "4") 1 = .ok (.stored ((sampleForm "50" "4").record 1)) ∧
      createSettingsBytes ((sampleForm "50" "4").record 1) 5000 =
        .ok ((sampleForm "50" "4").header 50 4 30 ++ delayBytes 5000) ∧
      ∃ settings summary,
        Settings.ofBytes ((sampleForm "50" "4").header 50 4 30 ++ delayBytes 5000) = some settings ∧
        initSummary ((sampleForm "50" "4").record 1) = .ok summary ∧
        EnumerationsAgree (sampleForm "50" "4") ((sampleForm "50" "4").record 1) settings summary := by
  have stored := sampleForm_fifty_stored
  have encoded := sampleForm_fifty_encoded
  exact ⟨stored, encoded, enumerations_agree stored encoded⟩

end LoraEval.Experiment

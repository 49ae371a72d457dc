import LoraEval.App.Database
import LoraEval.Core.Buffer

/-! The aggregation of `process_data` in `main.py`: five nested loops over the
parameter codes of an experiment, each combination collecting its result rows. -/

namespace LoraEval.Graphs

open LoraEval.Core

/-- `int(text)` for a text of an optional sign and decimal digits. Like
`Integer.parseInt` it takes the decimal digits of every script. -/
def int (text : String) : Option Int := readSigned Java.digit '-' '+' text.toList

def frequencyLabels : List String :=
  ["869.5 MHz", "868.1 MHz", "868.3 MHz", "868.5 MHz", "867.1 MHz", "867.3 MHz", "867.5 MHz", "867.7 MHz"]
def bandwidthLabels : List String := ["125kHz", "250kHz", "500kHz"]
def codingRateLabels : List String := ["4/5", "4/6", "4/7", "4/8"]

/-- One row of the result file as the lists of the script hold it; its total number is
converted only when the loops come to it. -/
structure KeptRow where
  totalNumber : String
  identifier : String
  rssi : Int
  snr : Int
  bitErrors : Int
deriving DecidableEq, Repr

/-- What is collected for one combination: the loop variables and labels it was
visited with, and the rows that belong to it. -/
structure IterationData where
  position : Vector Nat 5
  label : Vector String 5
  rounds : List Nat
  rssiIteration : List Int
  snrIteration : List Int
  rssiSum : Int
  biterrorSum : Int
  corruptedMsgsCount : Nat
deriving DecidableEq, Repr

structure Aggregation where
  position : Vector Nat 5
  label : Vector String 5
  iteration : Nat
  index : Nat
  iterations : List IterationData

/-- The label a loop sets for a selected position; an unknown position raises an
`IndexError`. -/
def labelText (level index : Nat) : Option String :=
  match level with
  | 0 => (frequencyLabels[index]?).map ("Frequency: " ++ ·)
  | 1 => (bandwidthLabels[index]?).map ("Bandwidth: " ++ ·)
  | 2 => some ("Spreading Factor: " ++ toString (index + 7))
  | 3 => (codingRateLabels[index]?).map ("Coding Rate: " ++ ·)
  | 4 => some ("Power: " ++ toString (18 - index * 2 : Int))
  | _ => none

def Aggregation.enter (level index : Nat) (state : Aggregation) : Option Aggregation := do
  let text ← labelText level index
  let label ← store state.label level text
  let position ← store state.position level index
  return { state with label, position }

/-- One round of the message loop: a row numbered `n` of this iteration is taken
in. Once the rows are used up the source breaks, and no later round would match. -/
def collectRow (rows : List KeptRow) (transmissions iteration n : Nat) (data : IterationData × Nat) :
    Option (IterationData × Nat) :=
  match rows[data.2]? with
  | none => some data
  | some row => do
    let totalNumber ← int row.totalNumber
    if (n : Int) = totalNumber - iteration * transmissions then
      return ({ data.1 with
        rounds := data.1.rounds ++ [n]
        rssiIteration := data.1.rssiIteration ++ [row.rssi]
        snrIteration := data.1.snrIteration ++ [row.rssi - row.snr]
        rssiSum := data.1.rssiSum + row.rssi
        biterrorSum := data.1.biterrorSum + row.bitErrors
        corruptedMsgsCount := data.1.corruptedMsgsCount + if row.identifier.contains 'f' then 1 else 0 },
        data.2 + 1)
    else return data

/-- The innermost loop body: collect the rows of the current combination. -/
def collectIteration (rows : List KeptRow) (transmissions : Nat) (state : Aggregation) :
    Option Aggregation := do
  let start : IterationData := ⟨state.position, state.label, [], [], [], 0, 0, 0⟩
  let collected ← forEach (List.range transmissions) (collectRow rows transmissions state.iteration)
    (start, state.index)
  return { state with
    index := collected.2
    iteration := state.iteration + 1
    iterations := state.iterations ++ [collected.1] }

/-- The parameter codes of `exp_params`, signed as they were stored. -/
structure Codes where
  frequency : Int
  bandwidth : Int
  spreadingFactor : Int
  codingRate : Int
  power : Int

/-- The nested loops of `process_data`. -/
def aggregate (codes : Codes) (rows : List KeptRow) (transmissions : Nat) (state : Aggregation) :
    Option Aggregation :=
  forSelected (integerBit codes.frequency) (List.range 8) (fun i state => do
    let state ← state.enter 0 i
    forSelected (integerBit codes.bandwidth) (List.range 3) (fun j state => do
      let state ← state.enter 1 j
      forSelected (integerBit codes.spreadingFactor) (List.range 6) (fun k state => do
        let state ← state.enter 2 k
        forSelected (integerBit codes.codingRate) (List.range 4) (fun l state => do
          let state ← state.enter 3 l
          forSelected (integerBit codes.power) (List.range 8) (fun m state => do
            let state ← state.enter 4 m
            collectIteration rows transmissions state) state) state) state) state) state

/-- `int(exp_params[column])`. -/
def intParam (expParams : Nat → Option String) (column : Nat) : Option Int :=
  expParams column >>= int

def Codes.read (expParams : Nat → Option String) : Option Codes := do
  let frequency ← intParam expParams 12
  let bandwidth ← intParam expParams 13
  let spreadingFactor ← intParam expParams 14
  let codingRate ← intParam expParams 15
  let power ← intParam expParams 16
  return ⟨frequency, bandwidth, spreadingFactor, codingRate, power⟩

def Aggregation.start : Aggregation := ⟨Vector.replicate 5 0, Vector.replicate 5 "", 0, 0, []⟩

/-- `process_data` up to the aggregated iterations, from the experiment's
parameters and its result rows. Packet length and distance are used behind the loops, but
must be numbers; `toDistance` is `int(float(text))`. -/
def processData (toDistance : String → Option Int) (expParams : Nat → Option String)
    (rows : List KeptRow) : Option (List IterationData) := do
  let codes ← Codes.read expParams
  let transmissions ← intParam expParams 1
  let _packetLength ← intParam expParams 3
  let _distance ← expParams 26 >>= toDistance
  let final ← aggregate codes rows transmissions.toNat .start
  return final.iterations

theorem int_of_parseInt (parsed : Java.parseInt text = .ok value) : int text = some value := by
  simp only [Java.parseInt] at parsed
  cases read : readSigned Java.digit '-' '+' text.toList with
  | none => simp [read] at parsed
  | some number =>
    rw [read] at parsed
    simp only at parsed
    split at parsed
    · rw [int, read, Except.ok.inj parsed]
    · cases parsed

/-- The loops of `aggregate`, outermost first. -/
def Codes.levels (codes : Codes) : List (Level Nat) :=
  [⟨integerBit codes.frequency, List.range 8⟩, ⟨integerBit codes.bandwidth, List.range 3⟩,
    ⟨integerBit codes.spreadingFactor, List.range 6⟩, ⟨integerBit codes.codingRate, List.range 4⟩,
    ⟨integerBit codes.power, List.range 8⟩]

theorem aggregate_eq (codes : Codes) (rows : List KeptRow) (transmissions : Nat) (state : Aggregation) :
    aggregate codes rows transmissions state =
      nest Aggregation.enter (collectIteration rows transmissions) codes.levels 0 state := rfl

private theorem labelText_defined (codes : Codes) (found : codes.levels[offset]? = some level)
    (member : index ∈ level.indices) : offset < 5 ∧ ∃ text, labelText offset index = some text := by
  match offset with
  | 0 | 1 | 2 | 3 | 4 =>
    obtain rfl : _ = level := Option.some.inj found
    have bound := List.mem_range.mp member
    refine ⟨by decide, ?_⟩
    simp only [labelText]
    first
    | exact ⟨_, rfl⟩
    | interval_cases index <;> exact ⟨_, rfl⟩
  | offset + 5 => simp [Codes.levels] at found

/-- The loop variables and labels are those of the path entered so far. -/
def Aggregation.On (path : List Nat) (state : Aggregation) : Prop :=
  Along (fun level index => state.position[level]? = some index ∧
    state.label[level]? = labelText level index) path

def Aggregation.visited (state : Aggregation) : List (List Nat × List String) :=
  state.iterations.map fun data => (data.position.toList, data.label.toList)

def pathLabels (path : List Nat) : List String :=
  path.mapIdx fun level index => (labelText level index).getD ""

def Numbered (rows : List KeptRow) : Prop := ∀ row ∈ rows, ∃ number, int row.totalNumber = some number

private theorem collectRow_heading {rows : List KeptRow} (numbered : Numbered rows)
    (transmissions iteration n : Nat) (data : IterationData × Nat) :
    ∃ next, collectRow rows transmissions iteration n data = some next ∧
      next.1.position = data.1.position ∧ next.1.label = data.1.label := by
  unfold collectRow
  cases found : rows[data.2]? with
  | none => exact ⟨data, rfl, rfl, rfl⟩
  | some row =>
    obtain ⟨number, converted⟩ := numbered row (List.mem_of_getElem? found)
    simp only [converted, Option.bind_eq_bind, Option.bind_some]
    split <;> exact ⟨_, rfl, rfl, rfl⟩

private theorem collectRows_heading {rows : List KeptRow} (numbered : Numbered rows)
    (transmissions iteration : Nat) (numbers : List Nat) (data : IterationData × Nat) :
    ∃ final, forEach numbers (collectRow rows transmissions iteration) data = some final ∧
      final.1.position = data.1.position ∧ final.1.label = data.1.label := by
  induction numbers generalizing data with
  | nil => exact ⟨data, rfl, rfl, rfl⟩
  | cons n rest ih =>
    obtain ⟨next, collected, position, label⟩ := collectRow_heading numbered transmissions iteration n data
    obtain ⟨final, run, positions, labels⟩ := ih next
    refine ⟨final, ?_, positions.trans position, labels.trans label⟩
    rw [forEach_cons, collected]
    exact run

private theorem Aggregation.On.heading {state : Aggregation} (on : state.On path)
    (full : path.length = 5) (known : ∀ level index, path[level]? = some index →
      ∃ text, labelText level index = some text) :
    state.position.toList = path ∧ state.label.toList = pathLabels path := by
  constructor
  · apply List.ext_getElem (by simp [full])
    intro level _ inside
    have held := (on level path[level] (List.getElem?_eq_getElem inside)).1
    simpa [show level < 5 by omega] using held
  · apply List.ext_getElem (by simp [pathLabels, full])
    intro level _ inside
    have bound : level < path.length := by simpa [pathLabels] using inside
    obtain ⟨text, defined⟩ := known level path[level] (List.getElem?_eq_getElem bound)
    have held := (on level path[level] (List.getElem?_eq_getElem bound)).2
    simpa [pathLabels, defined, show level < 5 by omega] using held

theorem collectIteration_emits {rows : List KeptRow} (numbered : Numbered rows) (transmissions : Nat)
    (full : path.length = 5)
    (known : ∀ level index, path[level]? = some index → ∃ text, labelText level index = some text) :
    Emits Aggregation.visited (Aggregation.On path) (collectIteration rows transmissions)
      [(path, pathLabels path)] (Aggregation.On path) := by
  intro state on
  obtain ⟨position, label⟩ := on.heading full known
  obtain ⟨final, collected, positions, labels⟩ :=
    collectRows_heading numbered transmissions state.iteration (List.range transmissions)
      (⟨state.position, state.label, [], [], [], 0, 0, 0⟩, state.index)
  refine ⟨⟨state.position, state.label, state.iteration + 1, final.2, state.iterations ++ [final.1]⟩,
    by rw [collectIteration, collected]; rfl, on, ?_⟩
  simp only [Aggregation.visited, List.map_append, List.map_cons, List.map_nil]
  rw [positions, labels, position, label]

theorem aggregate_nestInvariant (codes : Codes) :
    NestInvariant Aggregation.visited Aggregation.On
      (fun level index (state : Aggregation) => state.enter level index) codes.levels 0 := by
  refine ⟨?_, fun path index state on => on.shorten⟩
  intro offset level found index member _ path length state on
  rw [Nat.zero_add] at length ⊢
  obtain ⟨bound, text, named⟩ := labelText_defined codes found member
  obtain ⟨label, labelled, writtenLabel, keptLabel⟩ := store_spec state.label text bound
  obtain ⟨position, placed, writtenIndex, keptIndex⟩ := store_spec state.position index bound
  refine ⟨{ state with label, position }, by simp [Aggregation.enter, named, labelled, placed], ?_,
    by simp [Aggregation.visited]⟩
  subst offset
  refine Along.extend on ⟨writtenIndex, writtenLabel.trans named.symm⟩ ?_
  rintro other value different ⟨held, heldLabel⟩
  exact ⟨(keptIndex other different).trans held, (keptLabel other different).trans heldLabel⟩

private theorem path_labelled (codes : Codes) (member : path ∈ paths codes.levels)
    (found : path[level]? = some index) : ∃ text, labelText level index = some text := by
  have related := mem_paths.mp member
  obtain ⟨inside, rfl⟩ := List.getElem?_eq_some_iff.mp found
  have within : level < codes.levels.length := related.length_eq ▸ inside
  have chosen := (List.forall₂_iff_get.mp related).2 level inside within
  exact (labelText_defined codes (List.getElem?_eq_getElem within) chosen.1).2

/-- The loops visit exactly the selected index paths, in loop order. -/
theorem aggregate_visited (codes : Codes) {rows : List KeptRow} (numbered : Numbered rows)
    (transmissions : Nat) (state : Aggregation) :
    ∃ final, aggregate codes rows transmissions state = some final ∧ final.visited =
      state.visited ++ (paths codes.levels).map fun path => (path, pathLabels path) := by
  have inner (path : List Nat) (member : path ∈ paths codes.levels) :
      Emits Aggregation.visited (Aggregation.On path) (collectIteration rows transmissions)
        [(path, pathLabels path)] (Aggregation.On path) :=
    collectIteration_emits numbered transmissions (mem_paths.mp member).length_eq
      fun level index found => path_labelled codes member found
  have run := Emits.nest (fun path => [(path, pathLabels path)]) (aggregate_nestInvariant codes)
    [] rfl inner
  obtain ⟨final, result, -, output⟩ := run state (by intro level index found; simp at found)
  refine ⟨final, by rw [aggregate_eq]; exact result, ?_⟩
  rw [output, List.map_eq_flatMap]
  rfl

end LoraEval.Graphs

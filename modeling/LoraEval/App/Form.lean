import LoraEval.App.Database

/-! The experiment form of `CustomizeExperimentsScreen`: its checks, the encoding
of its check boxes, and the record it stores. -/

namespace LoraEval.App

open LoraEval.Core

/-- One round of the encoding loop: the disjunction is computed on promoted
values and cast back to a byte. -/
def encodeBox (confByte : Byte) (box : Bool × Nat) : Byte :=
  if box.1 then (confByte.signExtend 32 ||| 1#32 <<< box.2).setWidth 8 else confByte

/-- `Encoder.encodeParamByte`. -/
def encodeParamByte (configs : List Bool) : Byte := configs.zipIdx.foldl encodeBox 0#8

/-- The positions of the checked boxes of one category, in box order. -/
def checked (configs : List Bool) : List Nat :=
  (List.range configs.length).filter (fun i => configs[i]?.getD false)

private theorem encodeBox_getLsbD (confByte : Byte) (config : Bool) (i : Nat) (inside : bit < 8) :
    (encodeBox confByte (config, i)).getLsbD bit =
      (confByte.getLsbD bit || (config && decide (bit = i))) := by
  cases config with
  | false => simp [encodeBox]
  | true =>
    have low : (confByte.signExtend 32).getLsbD bit = confByte.getLsbD bit := by
      rw [BitVec.getLsbD_signExtend]
      simp [inside, show bit < 32 by omega]
    have shifted : (1#32 <<< i).getLsbD bit = decide (bit = i) := by
      rw [BitVec.getLsbD_shiftLeft]
      by_cases before : bit < i
      · simp [before, show bit ≠ i by omega]
      · by_cases same : bit = i
        · simp [same, show i < 32 by omega]
        · simp [same, show bit - i ≠ 0 by omega]
    simp only [encodeBox, if_true]
    rw [BitVec.getLsbD_setWidth, BitVec.getLsbD_or, low, shifted]
    simp [inside]

private theorem encode_fold (configs : List Bool) (start : Nat) (confByte : Byte)
    (inside : bit < 8) :
    ((configs.zipIdx start).foldl encodeBox confByte).getLsbD bit =
      (confByte.getLsbD bit || (decide (start ≤ bit) && configs[bit - start]?.getD false)) := by
  induction configs generalizing start confByte with
  | nil => simp
  | cons config rest ih =>
    rw [List.zipIdx_cons, List.foldl_cons, ih, encodeBox_getLsbD confByte config start inside]
    -- The box at position `start` decides its own bit; later bits are the induction's.
    by_cases here : bit = start
    · simp [here]
    · by_cases later : start + 1 ≤ bit
      · have index : bit - start = (bit - (start + 1)) + 1 := by omega
        simp [here, later, index, show start ≤ bit by omega]
      · simp [here, later, show ¬ start ≤ bit by omega]

/-- Bit `i` of the code says whether box `i` is checked. -/
theorem encodeParamByte_getLsbD (short : configs.length ≤ 8) (bit : Nat) :
    (encodeParamByte configs).getLsbD bit = configs[bit]?.getD false := by
  by_cases inside : bit < 8
  · simpa [encodeParamByte] using encode_fold configs 0 0#8 inside
  · rw [BitVec.getLsbD_of_ge _ _ (by omega), List.getElem?_eq_none (by omega)]
    rfl

/-- A loop over at least all box positions finds exactly the checked ones. -/
theorem filter_range_eq_checked (bound : configs.length ≤ count) :
    (List.range count).filter (fun i => configs[i]?.getD false) = checked configs := by
  obtain ⟨extra, rfl⟩ := Nat.exists_eq_add_of_le bound
  rw [List.range_add, List.filter_append]
  have none : ((List.range extra).map (configs.length + ·)).filter
      (fun i => configs[i]?.getD false) = [] := by
    apply List.filter_eq_nil_iff.mpr
    intro i member
    obtain ⟨offset, _, same⟩ := List.mem_map.mp member
    subst i
    simp
  rw [none, List.append_nil]
  rfl

/-- A loop that reads the bits of an encoded category runs for its checked boxes,
whichever way it tests a bit. -/
theorem filter_bits_encode {test : Nat → Bool} (short : configs.length ≤ 8)
    (bound : configs.length ≤ count)
    (reads : ∀ i < count, test i = (encodeParamByte configs).getLsbD i) :
    (List.range count).filter test = checked configs := by
  rw [← filter_range_eq_checked bound]
  apply List.filter_congr
  intro i member
  rw [reads i (List.mem_range.mp member), encodeParamByte_getLsbD short]

theorem checked_ne_nil (one : configs.any id = true) : checked configs ≠ [] := by
  obtain ⟨config, member, set⟩ := List.any_eq_true.mp one
  obtain ⟨i, inside, found⟩ := List.mem_iff_getElem.mp member
  have present : i ∈ checked configs := by
    apply List.mem_filter.mpr
    refine ⟨List.mem_range.mpr inside, ?_⟩
    simpa [inside, found] using set
  exact List.ne_nil_of_mem present

theorem mem_checked : i ∈ checked configs ↔ configs[i]? = some true := by
  simp only [checked, List.mem_filter, List.mem_range]
  constructor
  · rintro ⟨inside, set⟩
    simpa [inside] using set
  · intro found
    have inside : i < configs.length := (List.getElem?_eq_some_iff.mp found).1
    exact ⟨inside, by simp [found]⟩

structure CheckBoxes where
  frequencies : Vector Bool 8
  bandwidths : Vector Bool 2
  spreadingFactors : Vector Bool 6
  codingRates : Vector Bool 4
  powers : Vector Bool 8
deriving DecidableEq, Repr

/-- The five check box lists, in the order of the settings bytes. -/
def CheckBoxes.lists (boxes : CheckBoxes) : List (List Bool) :=
  [boxes.frequencies.toList, boxes.bandwidths.toList, boxes.spreadingFactors.toList,
    boxes.codingRates.toList, boxes.powers.toList]

def allParametersHaveOneChecked (boxes : CheckBoxes) : Bool :=
  boxes.lists.all (fun list => list.any id)

structure Form where
  noMsgs : String
  timeBetween : String
  msgLength : String
  autoIncrement : Bool
  description : String
  distance : String
  heightSender : String
  heightReceiver : String
  environment : String
  boxes : CheckBoxes

inductive Ready where
  | toast (text : String)
  | stored (entry : Entry)

def byteColumn (configs : List Bool) : String := Java.byteToString (encodeParamByte configs)

/-- The row `experimentReady` logs once every check has passed. -/
def Form.record (form : Form) (rowId : Nat) : Entry :=
  logExperiment rowId form.noMsgs form.timeBetween form.msgLength "0" (toString form.autoIncrement)
    form.description form.distance form.heightSender form.heightReceiver form.environment "ready"
    (byteColumn form.boxes.frequencies.toList) (byteColumn form.boxes.bandwidths.toList)
    (byteColumn form.boxes.spreadingFactors.toList) (byteColumn form.boxes.codingRates.toList)
    (byteColumn form.boxes.powers.toList)

/-- Each parameter column is read back as the byte its boxes were encoded to. -/
theorem Form.record_code (form : Form) (rowId k : Nat) (inside : k < form.boxes.lists.length) :
    (form.record rowId).parse Java.parseByte (Column.frequencies + k) =
      .ok (encodeParamByte form.boxes.lists[k]) := by
  have readBack (configs : List Bool) :
      Java.parseByte (byteColumn configs) = .ok (encodeParamByte configs) :=
    Java.parseByte_byteToString _
  have bound : k < 5 := inside
  interval_cases k <;>
    simp [Entry.parse, Entry.get, Form.record, logExperiment, Column.frequencies, readBack,
      CheckBoxes.lists]

/-- `text.equals("") || test(Integer.parseInt(text))`, with the exception of the parse. -/
def emptyOr (text : String) (test : Int → Except Java.Exception Bool) : Except Java.Exception Bool :=
  if text = "" then .ok true else Java.parseInt text >>= test

/-- `experimentReady`. The two height checks test the distance again, and the
upper bound of the message length tests the number of messages. -/
def experimentReady (form : Form) (rowId : Nat) : Except Java.Exception Ready := do
  if ← emptyOr form.noMsgs (fun number => .ok (number < 1 || number > 100)) then
    return .toast "Please specify the number of messages (between 1 and 100)"
  if form.timeBetween = "" then
    return .toast "Please specify the time between messages"
  if ← emptyOr form.msgLength (fun length => do
      if length < 11 then return true
      return (← Java.parseInt form.noMsgs) > 100) then
    return .toast "Please specify a message length between 11 and 100"
  if form.distance = "" then
    return .toast "Please specify the distance"
  if form.distance = "" then
    return .toast "Please specify the sender height"
  if form.distance = "" then
    return .toast "Please specify the receiver height"
  if form.environment = "" then
    return .toast "Please specify the environment"
  if !allParametersHaveOneChecked form.boxes then
    return .toast "Please check at least one box in every category"
  return .stored (form.record rowId)

/-- What `experimentReady` has established about a stored form. -/
structure Accepted (form : Form) : Prop where
  messages : ∃ number, Java.parseInt form.noMsgs = .ok number ∧ 1 ≤ number ∧ number ≤ 100
  time : form.timeBetween ≠ ""
  length : ∃ length, Java.parseInt form.msgLength = .ok length ∧ 11 ≤ length
  distance : form.distance ≠ ""
  environment : form.environment ≠ ""
  boxes : allParametersHaveOneChecked form.boxes = true

private theorem emptyOr_eq_false : emptyOr text test = .ok false ↔
    ∃ value, Java.parseInt text = .ok value ∧ test value = .ok false := by
  unfold emptyOr
  split
  · rename_i empty
    subst text
    have refused : Java.parseInt "" = .error .numberFormat := by decide
    simp [refused]
  · exact Java.bind_eq_ok

private theorem stored_of_guard {condition : Prop} [Decidable condition]
    {next : Except Java.Exception Ready} :
    (if condition then pure (.toast text) else next) = .ok (.stored entry) ↔
      ¬ condition ∧ next = .ok (.stored entry) := by
  by_cases holds : condition
  · simp [holds, pure, Except.pure]
  · simp [holds]

private theorem stored_of_check {check : Except Java.Exception Bool}
    {next : Except Java.Exception Ready} :
    (check >>= fun rejected => if rejected = true then pure (.toast text) else next) =
      .ok (.stored entry) ↔ check = .ok false ∧ next = .ok (.stored entry) := by
  rw [Java.bind_eq_ok]
  constructor
  · rintro ⟨rejected, checked, result⟩
    obtain ⟨passed, result⟩ := stored_of_guard.mp result
    rw [Bool.not_eq_true] at passed
    exact ⟨passed ▸ checked, result⟩
  · rintro ⟨checked, result⟩
    exact ⟨false, checked, stored_of_guard.mpr ⟨by simp, result⟩⟩

/-- A form is stored exactly when it passes its checks, and then as its record. -/
theorem experimentReady_eq_stored (rowId : Nat) : experimentReady form rowId = .ok (.stored entry) ↔
    Accepted form ∧ entry = form.record rowId := by
  simp only [experimentReady, stored_of_check, stored_of_guard, emptyOr_eq_false]
  constructor
  · rintro ⟨⟨number, parsed, range⟩, time, ⟨length, measured, long⟩, distance, -, -, environment,
      boxes, stored⟩
    have record : form.record rowId = entry := by
      simpa [pure, Except.pure] using stored
    refine ⟨⟨⟨number, parsed, ?_⟩, time, ⟨length, measured, ?_⟩, distance, environment, ?_⟩,
      record.symm⟩
    · have bounds : 1 ≤ number ∧ number ≤ 100 := by simpa using range
      exact bounds
    · by_contra short
      simp [show length < 11 by omega, pure, Except.pure] at long
    · simpa using boxes
  · rintro ⟨⟨⟨number, parsed, low, high⟩, time, ⟨length, measured, long⟩, distance, environment,
      boxes⟩, rfl⟩
    refine ⟨⟨number, parsed, by simp [low, high]⟩, time, ⟨length, measured, ?_⟩, distance, distance,
      distance, environment, by simp [boxes], rfl⟩
    simp [show ¬ length < 11 by omega, parsed, high, bind, Except.bind, pure, Except.pure]

def firstBoxes : CheckBoxes where
  frequencies := #v[true, false, false, false, false, false, false, false]
  bandwidths := #v[true, false]
  spreadingFactors := #v[true, false, false, false, false, false]
  codingRates := #v[true, false, false, false]
  powers := #v[true, false, false, false, false, false, false, false]

/-- The form with the default texts of the screen, for a given number of
messages and seconds between them. -/
def sampleForm (noMsgs timeBetween : String) : Form where
  noMsgs := noMsgs
  timeBetween := timeBetween
  msgLength := "30"
  autoIncrement := false
  description := ""
  distance := "100"
  heightSender := "1"
  heightReceiver := "1"
  environment := "urban"
  boxes := firstBoxes

/-- The sample form is accepted with any length of at least eleven and any boxes. -/
theorem sampleForm_with_stored (messages : Java.parseInt noMsgs = .ok number) (low : 1 ≤ number)
    (high : number ≤ 100) (time : timeBetween ≠ "") (measured : Java.parseInt length = .ok size)
    (long : 11 ≤ size) (boxes : CheckBoxes) (checked : allParametersHaveOneChecked boxes = true)
    (rowId : Nat) :
    experimentReady { sampleForm noMsgs timeBetween with msgLength := length, boxes := boxes } rowId =
      .ok (.stored
        (Form.record { sampleForm noMsgs timeBetween with msgLength := length, boxes := boxes } rowId)) := by
  apply (experimentReady_eq_stored rowId).mpr
  refine ⟨⟨⟨number, messages, low, high⟩, time, ⟨size, measured, long⟩, ?_, ?_, checked⟩, rfl⟩
  · show "100" ≠ ""
    decide
  · show "urban" ≠ ""
    decide

theorem sampleForm_stored (noMsgs timeBetween : String) (number : Int)
    (messages : Java.parseInt noMsgs = .ok number) (low : 1 ≤ number) (high : number ≤ 100)
    (time : timeBetween ≠ "") (rowId : Nat) :
    experimentReady (sampleForm noMsgs timeBetween) rowId =
      .ok (.stored ((sampleForm noMsgs timeBetween).record rowId)) :=
  sampleForm_with_stored messages low high time (show Java.parseInt "30" = .ok 30 by decide) (by decide)
    firstBoxes (by decide) rowId

theorem sampleForm_fifty_stored :
    experimentReady (sampleForm "50" "4") 1 = .ok (.stored ((sampleForm "50" "4").record 1)) :=
  sampleForm_stored "50" "4" 50 (by decide) (by decide) (by decide) (by decide) 1

end LoraEval.App

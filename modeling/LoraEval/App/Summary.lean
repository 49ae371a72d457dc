import LoraEval.App.Form
import LoraEval.Core.Loop

namespace LoraEval.App

open LoraEval.Core

def frequencyArray : List String :=
  ["869.5 MHz", "868.1 MHz", "868.3 MHz", "868.5 MHz", "867.1 MHz", "867.3 MHz", "867.5 MHz", "867.7 MHz"]
def bandwidthArray : List String := ["125 kHz", "250 kHz", "500 kHz"]
def sfArray : List String := ["7", "8", "9", "10", "11", "12"]
def crArray : List String := ["4/5", "4/6", "4/7", "4/8"]
def powerArray : List String := ["18", "16", "14", "12", "10", "8", "6", "4"]

/-- The displayed text of one parameter and the multiplier counted with it. -/
structure Decoding where
  summary : String
  multiplier : Nat

/-- A set bit appends its resource string; a missing string is an index exception. -/
def decodeBit (strings : List String) (i : Nat) (decoding : Decoding) : Option Decoding := do
  let text ← strings[i]?
  return { summary := decoding.summary ++ text ++ ", ", multiplier := decoding.multiplier + 1 }

/-- `decodeConfigByte`. The trailing separator is cut off, which needs at least
two characters. -/
def decodeConfigByte (strings : List String) (bits : Byte) : Except Java.Exception Decoding :=
  match forSelected (promotedBit bits) (List.range 8) (decodeBit strings) ⟨" ", 0⟩ with
  | none => .error .indexOutOfBounds
  | some decoding =>
    if decoding.summary.length < 2 then .error .indexOutOfBounds
    else .ok { decoding with
      summary := String.ofList (decoding.summary.toList.take (decoding.summary.length - 2)) }

structure Summary where
  totalMsgs : BitVec 32
  iterations : BitVec 32
  duration : BitVec 32
  loraSettings : List String

/-- The totals of `initSummary` in 32-bit arithmetic: the first five multipliers
count combinations, then come the messages and the seconds between them. -/
def totals (parameters : List Nat) (messages time : Int) (texts : List String) : Summary :=
  let iterations := parameters.foldl (fun product count => product * BitVec.ofNat 32 count) 1#32
  let totalMsgs := iterations * BitVec.ofInt 32 messages
  { totalMsgs, iterations, duration := totalMsgs * BitVec.ofInt 32 time + 5#32 * iterations,
    loraSettings := texts }

/-- `initSummary`, as far as it computes: the two parsed numbers, the five
decoded parameters and the totals stored from them. -/
def initSummary (entry : Entry) : Except Java.Exception Summary := do
  let messages ← entry.parse Java.parseInt Column.numberOfMessages
  let time ← entry.parse Java.parseInt Column.timeBetweenMsgs
  let frequencies ← decodeConfigByte frequencyArray (← entry.parse Java.parseByte Column.frequencies)
  let bandwidths ← decodeConfigByte bandwidthArray (← entry.parse Java.parseByte Column.bandwidths)
  let factors ← decodeConfigByte sfArray (← entry.parse Java.parseByte Column.spreadingFactors)
  let rates ← decodeConfigByte crArray (← entry.parse Java.parseByte Column.codingRates)
  let powers ← decodeConfigByte powerArray (← entry.parse Java.parseByte Column.powers)
  let decodings := [frequencies, bandwidths, factors, rates, powers]
  return totals (decodings.map Decoding.multiplier) messages time (decodings.map Decoding.summary)

private def Decoding.Counted (decoding : Decoding) : Prop :=
  2 * decoding.multiplier + 1 ≤ decoding.summary.length

private theorem decodeBit_emits (known : i < strings.length) :
    Emits (fun decoding => List.replicate decoding.multiplier ()) Decoding.Counted
      (decodeBit strings i) [()] Decoding.Counted := by
  intro decoding counted
  refine ⟨⟨decoding.summary ++ strings[i] ++ ", ", decoding.multiplier + 1⟩, ?_, ?_, ?_⟩
  · simp [decodeBit, known]
  · simp only [Decoding.Counted, String.length_append] at counted ⊢
    have separator : (", " : String).length = 2 := by decide
    omega
  · exact List.replicate_succ'

/-- The bits `decodeConfigByte` finds in an encoded category are its checked boxes. -/
private theorem promotedBits_encode (short : configs.length ≤ 8) :
    (List.range 8).filter (promotedBit (encodeParamByte configs)) = checked configs :=
  filter_bits_encode short short fun _ inside => promotedBit_eq (by decide) inside

theorem decodeConfigByte_encode (strings : List String) (configs : List Bool)
    (short : configs.length ≤ 8) (known : configs.length ≤ strings.length)
    (one : configs.any id = true) :
    ∃ summary, decodeConfigByte strings (encodeParamByte configs) =
      .ok ⟨summary, (checked configs).length⟩ := by
  have loop : Emits (fun decoding => List.replicate decoding.multiplier ()) Decoding.Counted
      (forSelected (promotedBit (encodeParamByte configs)) (List.range 8) (decodeBit strings))
      ((checked configs).flatMap (fun _ => [()])) Decoding.Counted := by
    rw [← promotedBits_encode short]
    apply Emits.forSelected
    intro i member set
    have box : i ∈ checked configs := by
      rw [← promotedBits_encode short]
      exact List.mem_filter.mpr ⟨member, set⟩
    have inside : i < configs.length := (List.getElem?_eq_some_iff.mp (mem_checked.mp box)).1
    exact decodeBit_emits (by omega)
  obtain ⟨decoding, run, counted, output⟩ := loop ⟨" ", 0⟩ (by simp only [Decoding.Counted]; decide)
  have multiplier : decoding.multiplier = (checked configs).length := by
    simpa using congrArg List.length output
  have positive : 0 < (checked configs).length :=
    List.length_pos_iff.mpr (checked_ne_nil one)
  have long : ¬ decoding.summary.length < 2 := by
    have grown : 2 * decoding.multiplier + 1 ≤ decoding.summary.length := counted
    omega
  simp only [decodeConfigByte, run, long, if_false, multiplier]
  exact ⟨_, rfl⟩

/-- The summary of a stored form exists as soon as its two numbers parse, and
its totals are computed from the checked boxes. -/
theorem initSummary_record (form : Form) (rowId : Nat)
    (boxes : allParametersHaveOneChecked form.boxes = true)
    (messages : Java.parseInt form.noMsgs = .ok number)
    (time : Java.parseInt form.timeBetween = .ok seconds) :
    ∃ texts, initSummary (form.record rowId) =
      .ok (totals (form.boxes.lists.map (fun list => (checked list).length)) number seconds texts) := by
  have one : ∀ list ∈ form.boxes.lists, list.any id = true := List.all_eq_true.mp boxes
  have decoded (strings : List String) (list : List Bool) (member : list ∈ form.boxes.lists)
      (short : list.length ≤ 8) (known : list.length ≤ strings.length) :=
    decodeConfigByte_encode strings list short known (one list member)
  obtain ⟨frText, frequencies⟩ := decoded frequencyArray form.boxes.frequencies.toList
    (by simp [CheckBoxes.lists]) (by simp) (by simp [frequencyArray])
  obtain ⟨bwText, bandwidths⟩ := decoded bandwidthArray form.boxes.bandwidths.toList
    (by simp [CheckBoxes.lists]) (by simp) (by simp [bandwidthArray])
  obtain ⟨sfText, factors⟩ := decoded sfArray form.boxes.spreadingFactors.toList
    (by simp [CheckBoxes.lists]) (by simp) (by simp [sfArray])
  obtain ⟨crText, rates⟩ := decoded crArray form.boxes.codingRates.toList
    (by simp [CheckBoxes.lists]) (by simp) (by simp [crArray])
  obtain ⟨pwText, powers⟩ := decoded powerArray form.boxes.powers.toList
    (by simp [CheckBoxes.lists]) (by simp) (by simp [powerArray])
  have frCode : (form.record rowId).parse Java.parseByte Column.frequencies = _ :=
    form.record_code rowId 0 (by simp [CheckBoxes.lists])
  have bwCode : (form.record rowId).parse Java.parseByte Column.bandwidths = _ :=
    form.record_code rowId 1 (by simp [CheckBoxes.lists])
  have sfCode : (form.record rowId).parse Java.parseByte Column.spreadingFactors = _ :=
    form.record_code rowId 2 (by simp [CheckBoxes.lists])
  have crCode : (form.record rowId).parse Java.parseByte Column.codingRates = _ :=
    form.record_code rowId 3 (by simp [CheckBoxes.lists])
  have pwCode : (form.record rowId).parse Java.parseByte Column.powers = _ :=
    form.record_code rowId 4 (by simp [CheckBoxes.lists])
  have messagesRow : (form.record rowId).parse Java.parseInt Column.numberOfMessages = _ :=
    (Entry.parse_column rfl _).trans messages
  have timeRow : (form.record rowId).parse Java.parseInt Column.timeBetweenMsgs = _ :=
    (Entry.parse_column rfl _).trans time
  refine ⟨[frText, bwText, sfText, crText, pwText], ?_⟩
  simp only [initSummary, messagesRow, timeRow, frCode, bwCode,
    sfCode, crCode, pwCode]
  simp [CheckBoxes.lists, frequencies, bandwidths, factors, rates, powers, bind, Except.bind, pure,
    Except.pure]

end LoraEval.App

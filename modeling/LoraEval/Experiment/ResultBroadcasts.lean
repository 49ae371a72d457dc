import LoraEval.App.ResultFile
import LoraEval.Experiment.BitErrors
import LoraEval.Experiment.Numbering

namespace LoraEval.App

open LoraEval.Core LoraEval.Firmware

def entryColumns (entries : Entries String) : List JavaText :=
  entries.toList.map fun column => javaText (column.getD "null")

def asciiText (bytes : List Byte) : String := String.ofList (bytes.map fun byte => Char.ofNat byte.toNat)

def DecodesAscii (decode : List Byte → Option String) : Prop :=
  ∀ content : List Byte, 10 ≤ content.length → (∀ byte ∈ content.take 10, byte.toNat < 128) →
    decode content = some (asciiText (content.take 10))

variable {decode : List Byte → Option String}

theorem resultEvent_record (ascii : DecodesAscii decode) (record : MessageRecord)
    (plain : ∀ byte ∈ record.bytes.take 10, byte.toNat < 128)
    (iteration : record.bytes[10]? = some i) (number : record.bytes[11]? = some n)
    (low : 1 ≤ messages) (high : messages ≤ 100) :
    resultEvent decode (BitVec.ofInt 32 messages) record.bytes =
      some (some (.message (toString (n.toInt + i.toInt * messages))
        (asciiText (record.bytes.take 10)))) := by
  obtain ⟨long, front⟩ := filterContent_record record
  have read (position : Nat) (inside : position < 12) :
      (filterContent record.bytes)[position]? = record.bytes[position]? := by
    rw [← List.getElem?_take_of_lt inside, front, List.getElem?_take_of_lt inside]
  have ten : (filterContent record.bytes).take 10 = record.bytes.take 10 := by
    have shorter := congrArg (List.take 10) front
    rwa [List.take_take, List.take_take] at shorter
  have text : decode (filterContent record.bytes) = some (asciiText (record.bytes.take 10)) := by
    rw [ascii _ (by omega) (by rwa [ten]), ten]
  have total := Experiment.totalNumber_eq ((read 11 (by decide)).trans number)
    ((read 10 (by decide)).trans iteration) low high
  have routed : onCharacteristicChanged .receiver record.bytes =
      .ok (some (.message (filterContent record.bytes))) := by
    cases shape : record.bytes with
    | nil =>
      have size := record.size
      simp [shape, maxDataLen] at size
    | cons first rest =>
      have small : first.toNat < 128 := plain first (by simp [shape])
      have signed : first.toInt = first.toNat := BitVec.toInt_eq_toNat_of_lt (by omega)
      rw [onCharacteristicChanged_cons, if_neg (by omega), if_neg (by omega)]
  simp only [resultEvent, routed, messageFields, total, text, Option.bind_eq_bind, Option.bind_some]
  rfl

theorem rowsFrom_pairs (items : List ι) (first second : ι → Fields α) :
    rowsFrom none (items.flatMap fun item => [some (first item), some (second item)]) =
      items.map fun item => (second item).fill ((first item).fill (Vector.replicate 5 none)) := by
  induction items with
  | nil => rfl
  | cons item rest ih => simp [ih]

end LoraEval.App

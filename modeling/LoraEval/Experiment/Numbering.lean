import LoraEval.App.Central
import LoraEval.App.ResultLog
import LoraEval.Experiment.Enumeration
import LoraEval.Firmware.ReceiverRecords

namespace LoraEval.Experiment

open LoraEval.Core LoraEval.App LoraEval.Firmware

/-- The total number the app logs for a notified record it takes for a message. -/
def loggedTotal (messages : Int) (bytes : List Byte) : Option Int :=
  match onCharacteristicChanged .receiver bytes with
  | .ok (some (.message content)) => totalNumber (BitVec.ofInt 32 messages) content
  | _ => none

theorem totalNumber_eq (number : content[11]? = some n) (iteration : content[10]? = some i)
    (low : 1 ≤ messages) (high : messages ≤ 100) :
    totalNumber (BitVec.ofInt 32 messages) content = some (n.toInt + i.toInt * messages) := by
  have sum : n.signExtend 32 + i.signExtend 32 * BitVec.ofInt 32 messages =
      BitVec.ofInt 32 (n.toInt + i.toInt * messages) := by
    rw [BitVec.ofInt_add, BitVec.ofInt_mul]
    rfl
  have := n.toInt_lt
  have := n.le_toInt
  have upper := Int.mul_le_mul_of_nonneg_right (show i.toInt ≤ 127 by have := i.toInt_lt; omega)
    (show 0 ≤ messages by omega)
  have lower := Int.mul_le_mul_of_nonneg_right (show -128 ≤ i.toInt by have := i.le_toInt; omega)
    (show 0 ≤ messages by omega)
  rw [totalNumber, number, iteration]
  simp only [Option.bind_eq_bind, Option.bind_some, sum, pure]
  rw [BitVec.toInt_ofInt_eq_self] <;> omega

/-- A record is logged unless its first byte is taken for a code of another kind. -/
theorem loggedTotal_reports {record : NumberedRecord} (reports : record.Reports iteration)
    (low : 1 ≤ messages) (high : messages ≤ 100) : ∃ first, record.bytes[0]? = some first ∧
      loggedTotal messages record.bytes = if -6 ≤ first.toInt ∧ first.toInt ≤ -1 then none
        else some ((BitVec.ofNat 8 record.number).toInt + iteration.toInt * messages) := by
  obtain ⟨⟨message, same⟩, iterationByte, numberByte⟩ := reports
  obtain ⟨-, front⟩ := filterContent_record message
  have read (position : Nat) (inside : position < 12) :
      (filterContent record.bytes)[position]? = record.bytes[position]? := by
    rw [← List.getElem?_take_of_lt inside, same, front, List.getElem?_take_of_lt inside]
  have total_eq := totalNumber_eq ((read 11 (by decide)).trans numberByte)
    ((read 10 (by decide)).trans iterationByte) low high
  cases shape : record.bytes with
  | nil =>
    rw [shape] at numberByte
    simp at numberByte
  | cons first rest =>
    refine ⟨first, rfl, ?_⟩
    rw [loggedTotal, onCharacteristicChanged_cons, ← shape]
    by_cases status : -6 ≤ first.toInt ∧ first.toInt ≤ -2
    · rw [if_pos status, if_pos (by omega)]
    · rw [if_neg status]
      by_cases statistics : first.toInt = -1
      · rw [if_pos statistics, if_pos (by omega)]
      · rw [if_neg statistics, if_neg (by omega)]
        exact total_eq

theorem loggedTotal_eq {record : NumberedRecord} (reports : record.Reports iteration)
    (low : 1 ≤ messages) (high : messages ≤ 100) (logged : loggedTotal messages record.bytes = some total) :
    total = (BitVec.ofNat 8 record.number).toInt + iteration.toInt * messages := by
  obtain ⟨first, -, routed⟩ := loggedTotal_reports reports low high
  rw [logged] at routed
  split_ifs at routed
  exact Option.some.inj routed

/-- The totals of the records with a number below `messages`: each is the position of
its message in the whole experiment, so different messages have different totals and
later ones larger totals. -/
structure TotalsGlobal (messages : Int) (records : List NumberedRecord) : Prop where
  value : ∀ record ∈ records, record.number < messages → ∀ total,
    loggedTotal messages record.bytes = some total → total = record.iteration * messages + record.number
  distinct : ∀ first ∈ records, first.number < messages → ∀ second ∈ records, second.number < messages →
    ∀ total, loggedTotal messages first.bytes = some total → loggedTotal messages second.bytes = some total →
    first.iteration = second.iteration ∧ first.number = second.number
  growing : ∀ first ∈ records, first.number < messages → ∀ second ∈ records, second.number < messages →
    first.iteration < second.iteration ∨
      first.iteration = second.iteration ∧ first.number < second.number →
    ∀ earlier later, loggedTotal messages first.bytes = some earlier →
      loggedTotal messages second.bytes = some later → earlier < later

theorem position_lt {messages : Int} {first second : NumberedRecord} (inside : first.number < messages)
    (order : first.iteration < second.iteration ∨
      first.iteration = second.iteration ∧ first.number < second.number) :
    first.iteration * messages + first.number < second.iteration * messages + second.number := by
  rcases order with before | ⟨same, before⟩
  · have next := Int.mul_le_mul_of_nonneg_right (show (first.iteration : Int) + 1 ≤ second.iteration by omega)
      (show 0 ≤ messages by omega)
    rw [Int.add_mul] at next
    omega
  · rw [same]
    omega

theorem TotalsGlobal.of_value (value : ∀ record ∈ records, record.number < messages → ∀ total,
      loggedTotal messages record.bytes = some total →
      total = record.iteration * messages + record.number) : TotalsGlobal messages records := by
  refine ⟨value, ?_, ?_⟩
  · intro first member inside second member' inside' total logged logged'
    have one := value first member inside total logged
    have other := value second member' inside' total logged'
    by_contra different
    have order : (first.iteration < second.iteration ∨
          first.iteration = second.iteration ∧ first.number < second.number) ∨
        (second.iteration < first.iteration ∨
          second.iteration = first.iteration ∧ second.number < first.number) := by omega
    rcases order with before | after
    · have := position_lt inside before
      omega
    · have := position_lt inside' after
      omega
  · intro first member inside second member' inside' order earlier later logged logged'
    rw [value first member inside earlier logged, value second member' inside' later logged']
    exact position_lt inside order

theorem byte_toInt (small : n < 128) : (BitVec.ofNat 8 n).toInt = n := by
  rw [BitVec.toInt_ofNat', Int.bmod_eq_of_le] <;> omega

def lateInputs : List (List RecvResult) := List.replicate 128 [] ++ [[⟨4000, some ⟨[48], -100, 5⟩⟩]]

theorem SettingsOf.iterations (of : SettingsOf form settings)
    (run : receiverExperiment settings ldiv0 delay (.start config inputs) = some final)
    (accepted : Accepted form) : final.reading.configured = (choices form.boxes).length := by
  obtain ⟨same, run', configured, -⟩ :=
    receiverExperiment_spec settings (of.long accepted) ldiv0 delay (.start config inputs) rfl
  obtain rfl : final = same := Option.some.inj (run.symm.trans run')
  rw [reading_configured, configured, List.length_map, Settings.combinations, List.length_map, of.paths]

/-- With up to 128 iterations every total is the position of its message. -/
theorem totalsGlobal_of_few (of : SettingsOf form settings) (accepted : Accepted form)
    (low : 1 ≤ messages) (high : messages ≤ 100) (few : (choices form.boxes).length ≤ 128)
    (run : receiverExperiment settings ldiv0 delay (.start config inputs) = some final) :
    TotalsGlobal messages final.reading.records := by
  apply TotalsGlobal.of_value
  intro record member inside total logged
  obtain ⟨early, reports⟩ := (receiverExperiment_counted run).records record member
  rw [of.iterations run accepted] at early
  rw [loggedTotal_eq reports low high logged, byte_toInt (by omega), byte_toInt (by omega), Int.add_comm]

theorem late_total (of : SettingsOf form settings) (accepted : Accepted form)
    (low : 1 ≤ messages) (high : messages ≤ 100) (many : 128 < (choices form.boxes).length)
    (config : LoraModemConfig) :
    ∃ final, receiverExperiment settings (fun _ => 0) 5 (.start config lateInputs) = some final ∧
      ∃ record ∈ final.reading.records, record.iteration = 128 ∧ record.number = 0 ∧
        loggedTotal messages record.bytes = some (-128 * messages) := by
  obtain ⟨final, run, -⟩ := receiverExperiment_spec settings (of.long accepted) (fun _ => 0) 5
    (.start config lateInputs) rfl
  have counted := receiverExperiment_counted run
  obtain ⟨record, member, position, number, front⟩ := counted.heard 128
    (by rw [of.iterations run accepted]; exact many) 4000 ⟨[48], -100, 5⟩ [] rfl
  have zero : record.number = 0 := by
    rw [number, msgNumber]
    simp
  have reports := (counted.records record member).2
  obtain ⟨first, start, routed⟩ := loggedTotal_reports reports low high
  obtain rfl : (48 : Byte) = first :=
    Option.some.inj ((front 0 (by decide) (by decide)).symm.trans start)
  refine ⟨final, run, record, member, position, zero, ?_⟩
  rw [routed, if_neg (by decide), zero, position]
  exact congrArg some (Int.zero_add _)

theorem messages_bounds (accepted : Accepted form)
    (counted : (form.record rowId).parse Java.parseInt Column.numberOfMessages = .ok messages) :
    1 ≤ messages ∧ messages ≤ 100 := by
  obtain ⟨number, parsed, low, high⟩ := accepted.messages
  obtain rfl : messages = number := Except.ok.inj (counted.symm.trans parsed)
  exact ⟨low, high⟩

/-- In every run the totals are the positions of the messages exactly if the form
selects at most 128 combinations. -/
theorem totals_global_iff (stored : experimentReady form rowId = .ok (.stored entry))
    (encoded : createSettingsBytes entry total = .ok bytes)
    (read : Settings.ofBytes bytes = some settings)
    (counted : entry.parse Java.parseInt Column.numberOfMessages = .ok messages) :
    (∀ ldiv0 delay config inputs final,
      receiverExperiment settings ldiv0 delay (.start config inputs) = some final →
      TotalsGlobal messages final.reading.records) ↔ (choices form.boxes).length ≤ 128 := by
  obtain ⟨accepted, rfl⟩ := (experimentReady_eq_stored rowId).mp stored
  obtain ⟨same, read', of⟩ := settings_of_encoded encoded
  obtain rfl : settings = same := Option.some.inj (read.symm.trans read')
  obtain ⟨low, high⟩ := messages_bounds accepted counted
  constructor
  · intro always
    by_contra many
    obtain ⟨final, run, record, member, position, zero, logged⟩ := late_total of accepted low high
      (by omega) (changeConfig (fun _ => 0) #v[0, 0, 0, 0, 0] false)
    have value := (always _ _ _ _ _ run).value record member (by omega) _ logged
    rw [position, zero] at value
    omega
  · intro few ldiv0 delay config inputs final run
    exact totalsGlobal_of_few of accepted low high few run

theorem totals_global_sample :
    experimentReady (sampleForm "50" "4") 1 = .ok (.stored ((sampleForm "50" "4").record 1)) ∧
      createSettingsBytes ((sampleForm "50" "4").record 1) 5000 =
        .ok ((sampleForm "50" "4").header 50 4 30 ++ delayBytes 5000) ∧
      Settings.ofBytes ((sampleForm "50" "4").header 50 4 30 ++ delayBytes 5000) =
        some ⟨50, 4, 30, 1, 1, 1, 1, 1⟩ ∧
      ∀ ldiv0 delay config inputs final,
        receiverExperiment ⟨50, 4, 30, 1, 1, 1, 1, 1⟩ ldiv0 delay (.start config inputs) = some final →
        TotalsGlobal 50 final.reading.records := by
  have stored := sampleForm_fifty_stored
  have encoded := sampleForm_fifty_encoded
  have read : Settings.ofBytes ((sampleForm "50" "4").header 50 4 30 ++ delayBytes 5000) =
      some ⟨50, 4, 30, 1, 1, 1, 1, 1⟩ := by decide
  have counted : ((sampleForm "50" "4").record 1).parse Java.parseInt Column.numberOfMessages = .ok 50 := by
    decide
  exact ⟨stored, encoded, read, (totals_global_iff stored encoded read counted).mpr (by decide)⟩

def fullForm : Form :=
  { sampleForm "50" "4" with
    boxes := ⟨.replicate _ true, .replicate _ true, .replicate _ true, .replicate _ true, .replicate _ true⟩ }

theorem fullForm_total_negative :
    experimentReady fullForm 1 = .ok (.stored (fullForm.record 1)) ∧
      createSettingsBytes (fullForm.record 1) 5000 = .ok (fullForm.header 50 4 30 ++ delayBytes 5000) ∧
      (fullForm.record 1).parse Java.parseInt Column.numberOfMessages = .ok 50 ∧
      ∃ settings, Settings.ofBytes (fullForm.header 50 4 30 ++ delayBytes 5000) = some settings ∧
        ∃ final, receiverExperiment settings (fun _ => 0) 5
            (.start (changeConfig (fun _ => 0) #v[0, 0, 0, 0, 0] false) lateInputs) = some final ∧
          ∃ record ∈ final.reading.records, record.iteration = 128 ∧ record.number = 0 ∧
            loggedTotal 50 record.bytes = some (-6400) := by
  have stored : experimentReady fullForm 1 = .ok (.stored (fullForm.record 1)) :=
    sampleForm_with_stored (show Java.parseInt "50" = .ok 50 by decide) (by decide) (by decide) (by decide)
      (show Java.parseInt "30" = .ok 30 by decide) (by decide) _ (by decide) 1
  obtain ⟨accepted, -⟩ := (experimentReady_eq_stored 1).mp stored
  have encoded := (createSettingsBytes_record_eq_ok fullForm 1 5000).mpr
    ⟨50, 4, 30, by decide, by decide, by decide, rfl⟩
  obtain ⟨settings, read, of⟩ := settings_of_encoded encoded
  have many : 128 < (choices fullForm.boxes).length := by
    rw [choices, product_length]
    decide
  exact ⟨stored, encoded, by decide, settings, read,
    late_total of accepted (by decide) (by decide) many _⟩

end LoraEval.Experiment

import LoraEval.App.ExperimentSteps

namespace LoraEval.App

open LoraEval.Core

def forms (events : List PhoneEvent) : Nat := (events.map PhoneEvent.creations).sum

theorem forms_append (events : List PhoneEvent) (event : PhoneEvent) :
    forms (events ++ [event]) = forms events + event.creations := by
  simp [forms]

namespace Phone

variable {platform : Platform} {prompt : Prop} {events : List PhoneEvent} {phone : Phone}

/-- An event that stores what can be read again, and no acknowledgement after the end. -/
def Condition (platform : Platform) (prompt : Prop) (_ : List PhoneEvent) (event : PhoneEvent)
    (phone : Phone) :
    Prop :=
  event.Sensible platform ∧ (prompt → event.Prompt platform phone)

/-- As long as there are ids, the screens agree with the records after every event. -/
def Reached (platform : Platform) (prompt : Prop) (before : List PhoneEvent) (phone : Phone) : Prop :=
  forms before < 2 ^ 31 → Inv platform prompt phone ∧ created phone.calls ≤ forms before

theorem Inv.initial : Inv platform prompt Phone.initial := by
  have empty (number : BitVec 32) : Phone.initial.record platform number = none := rfl
  refine ⟨⟨by decide, by simp [Phone.initial], fun number entry found => ?_, by simp [Phone.initial],
    by simp [Phone.initial]⟩, by simp [OnScreen, Phone.initial]⟩
  rw [empty] at found
  cases found

theorem Reached.step (marker : platform.readsDouble "-1" = true)
    (reached : Reached platform prompt before phone)
    (condition : Condition platform prompt before event phone)
    (taken : phone.step platform event = some next) :
    Reached platform prompt (before ++ [event]) next := by
  intro few
  rw [forms_append] at few ⊢
  obtain ⟨inv, counted⟩ := reached (by omega)
  have steps := inv.step marker condition.1 condition.2 (by omega) taken
  exact ⟨steps.inv, steps.bounded.trans (by omega)⟩

theorem reached_of_run (marker : platform.readsDouble "-1" = true)
    (met : Meets (step platform) (Condition platform prompt) [] initial events)
    (run : after platform events = some phone) : Reached platform prompt events phone :=
  guarded_invariant (Reached platform prompt)
    (fun _ _ _ _ _ condition taken reached => reached.step marker condition taken) met rfl run
    fun _ => ⟨.initial, Nat.zero_le _⟩

theorem reached_of_sensible (marker : platform.readsDouble "-1" = true)
    (sensible : ∀ event ∈ events, event.Sensible platform) (run : after platform events = some phone) :
    Reached platform False events phone :=
  reached_of_run marker (.of_forall fun event member _ _ => ⟨sensible event member, False.elim⟩) run

/-- The record of a number is gone, or it is kept since it was `old`. -/
def Preserves (platform : Platform) (number : BitVec 32) (old : Entry) (before : List PhoneEvent)
    (phone : Phone) : Prop :=
  forms before < 2 ^ 31 → (Inv platform True phone ∧ created phone.calls ≤ forms before) ∧
    number.toInt ≤ created phone.calls ∧ (phone.record platform number = none ∨
      ∃ new, phone.record platform number = some new ∧ old.Kept new)

theorem Preserves.step (marker : platform.readsDouble "-1" = true)
    (preserves : Preserves platform number old before phone)
    (condition : Condition platform True before event phone) (taken : phone.step platform event = some next) :
    Preserves platform number old (before ++ [event]) next := by
  intro few
  have room := few
  rw [forms_append] at room
  obtain ⟨⟨inv, counted⟩, bound, record⟩ := preserves (by omega)
  have steps := inv.step marker condition.1 condition.2 (by omega) taken
  have reached : Reached platform True before phone := fun _ => ⟨inv, counted⟩
  refine ⟨reached.step marker condition taken few, bound.trans (by exact_mod_cast steps.grows), ?_⟩
  rcases record with absent | ⟨new, found, kept⟩
  · exact .inl (steps.absent number bound absent)
  · cases held : next.record platform number with
    | none => exact .inl rfl
    | some last => exact .inr ⟨last, rfl, kept.trans (steps.kept trivial number new last found kept.1 held)⟩

end Phone

/-- Decimal texts are numbers. Only the differences that the samples meet are known: none, and
a tenth of a degree to the north. -/
def samplePlatform : Platform where
  affinity _ := none
  readsDouble text := text.toList.all fun symbol => symbol.isDigit || symbol = '.' || symbol = '-'
  distance entry :=
    if entry.get Column.senderLatitude = entry.get Column.receiverLatitude then "0.0" else "11119.5"
  altitudeDifference entry :=
    if entry.get Column.senderAltitude = entry.get Column.receiverAltitude then "0.0" else "501.0"

/-- An experiment is created and run to its end without a position of its sender. -/
def sampleRun : List PhoneEvent :=
  [.toExperiment, .newExperiment, .experimentReady (sampleForm "50" "4") true, .toStartExperiment "x: 0.00",
    .general (-6), .countedDown (10 ^ 9) none true true, .countedDown (10 ^ 9) none true true]

private theorem sampleRun_sensible : ∀ event ∈ sampleRun, event.Sensible samplePlatform := by decide

private theorem sampleRun_finished : ∃ phone entry, Phone.after samplePlatform sampleRun = some phone ∧
    phone.record samplePlatform 1 = some entry ∧ entry.IsFinished := by
  have finished : ((Phone.after samplePlatform sampleRun).bind fun phone => phone.record samplePlatform 1).any
      (fun entry => entry.get Column.state = some "finished") = true := by decide
  obtain ⟨entry, held, state⟩ := (Option.any_eq_true _ _).mp finished
  obtain ⟨phone, run, found⟩ := Option.bind_eq_some_iff.mp held
  have finished : entry.get Column.state = some "finished" := of_decide_eq_true state
  exact ⟨phone, entry, run, found, finished⟩

section

variable {platform : Platform} {events : List PhoneEvent} {phone : Phone}

/-- In every run of the app the screens find what they read: no row is missing, no column is
null, no position is unreadable and no next experiment is absent. A finished record has its
summary, its start time and all positions. The positions that are stored are numbers, the clock
has ten digits, and fewer than 2^31 forms are sent. `deletedRow` is the exception of the weather
callback, which is no screen, and is left out of `ofRecords`. -/
theorem screens_find_records (marker : platform.readsDouble "-1" = true)
    (sensible : ∀ event ∈ events, event.Sensible platform) (few : forms events < 2 ^ 31)
    (run : Phone.after platform events = some phone) :
    (∀ fault, phone.screen = .closed (some fault) → fault.ofRecords = false) ∧
      ∀ number entry, phone.record platform number = some entry → entry.IsFinished →
        entry.Summarised ∧ ∀ column ≤ 25, entry.Holds platform column := by
  obtain ⟨inv, -⟩ := Phone.reached_of_sensible marker sensible run few
  refine ⟨fun fault closed => ?_, fun number entry found finished => ?_⟩
  · have on := inv.screen
    rw [closed] at on
    exact on fault rfl
  · have sound := inv.sound number entry found
    exact ⟨sound.summarised finished, sound.complete finished⟩

theorem screens_find_records_sample :
    ∃ phone entry, Phone.after samplePlatform sampleRun = some phone ∧
      phone.record samplePlatform 1 = some entry ∧ entry.IsFinished ∧
      entry.Summarised ∧ entry.Holds samplePlatform Column.receiverAltitude := by
  obtain ⟨phone, entry, run, found, finished⟩ := sampleRun_finished
  obtain ⟨-, complete⟩ := screens_find_records rfl sampleRun_sensible (by decide) run
  obtain ⟨summarised, holds⟩ := complete 1 entry found finished
  exact ⟨phone, entry, run, found, finished, summarised, holds _ (by decide)⟩

/-- Every uploaded information file is that of a finished experiment and has a text in each
of its lines up to the weather; only the two orientations can be missing. The runs are those of
the result above: stored positions are numbers, the clock has ten digits, and there are
fewer than 2^31 forms. -/
theorem uploads_complete (marker : platform.readsDouble "-1" = true)
    (sensible : ∀ event ∈ events, event.Sensible platform) (few : forms events < 2 ^ 31)
    (run : Phone.after platform events = some phone) :
    ∀ upload ∈ phone.uploads, upload.information.IsFinished ∧
      ∀ column ≤ 31, upload.information.Holds platform column :=
  (Phone.reached_of_sensible marker sensible run few).1.uploaded

/-- An experiment is prepared at a known position, run to its end and uploaded. -/
def uploadRun : List PhoneEvent :=
  [.toExperiment, .newExperiment, .experimentReady (sampleForm "50" "4") true, .connection true,
    .prepareSender (some ⟨"48.1", "11.5", "500.0"⟩), .toStartExperiment "x: 0.00", .general (-6),
    .countedDown (10 ^ 9) (some ⟨"48.2", "11.5", "500.0"⟩) true true, .countedDown (10 ^ 9) none true true,
    .left, .weather 1 (some ["290.1", "60", "1013", "clear sky"]) true]

theorem uploads_complete_sample :
    ∃ phone, Phone.after samplePlatform uploadRun = some phone ∧
      ∃ upload ∈ phone.uploads, ∀ column ≤ 31, upload.information.Holds samplePlatform column := by
  have sent : (Phone.after samplePlatform uploadRun).any
      (fun phone => phone.uploads.length = 1) = true := by decide
  obtain ⟨phone, run, one⟩ := (Option.any_eq_true _ _).mp sent
  have sensible : ∀ event ∈ uploadRun, event.Sensible samplePlatform := by decide
  have complete := uploads_complete rfl sensible (by decide) run
  obtain ⟨upload, single⟩ := List.length_eq_one_iff.mp (of_decide_eq_true one)
  have member : upload ∈ phone.uploads := by simp [single]
  exact ⟨phone, run, upload, member, (complete upload member).2⟩

/-- Once an experiment is finished its record is kept until it is deleted: whatever follows,
only the computed columns change and the positions that were missing. Stored positions are
numbers, the clock has ten digits, there are fewer than 2^31 forms, and no start is acknowledged
after the end of the experiment. -/
theorem finished_record_kept {more : List PhoneEvent} {later : Phone} {old : Entry}
    (marker : platform.readsDouble "-1" = true)
    (met : Meets (Phone.step platform) (Phone.Condition platform True) [] .initial (events ++ more))
    (few : forms (events ++ more) < 2 ^ 31) (run : Phone.after platform events = some phone)
    (continued : forEach more (Phone.step platform) phone = some later)
    (found : phone.record platform number = some old) (finished : old.IsFinished) :
    later.record platform number = none ∨
      ∃ new, later.record platform number = some new ∧ old.Kept new := by
  obtain ⟨early, late⟩ := met.split run
  have reached := Phone.reached_of_run marker early run
  have preserved : Phone.Preserves platform number old (events ++ more) later := by
    refine guarded_invariant (Phone.Preserves platform number old)
      (fun before event state next _ condition taken held => held.step marker condition taken)
      late run continued ?_
    intro few
    obtain ⟨inv, counted⟩ := reached few
    exact ⟨⟨inv, counted⟩, inv.toConsistent.bounded found, .inr ⟨old, found, finished, fun _ _ => .inl rfl⟩⟩
  exact (preserved few).2.2

def entersPosition : List PhoneEvent := [.createCsv true, .confirm "48.1", .dismiss]

private def unfinished (phone : Phone) : Bool :=
  match phone.screen with
  | .startExperiment screen => (phone.record samplePlatform screen.experimentNumber).all
      fun entry => entry.get Column.state ≠ some "finished"
  | _ => true

private theorem sampleRun_condition :
    Meets (Phone.step samplePlatform) (Phone.Condition samplePlatform True) []
    .initial (sampleRun ++ entersPosition) := by
  have quiet (before : List PhoneEvent) (phone : Phone) (event : PhoneEvent)
      (sensible : event.Sensible samplePlatform) (other : event ≠ .general (-6)) :
      Phone.Condition samplePlatform True before event phone := ⟨sensible, fun _ same => absurd same other⟩
  refine ⟨quiet _ _ _ trivial (by simp), fun first overview => ⟨quiet _ _ _ trivial (by simp),
    fun second form => ⟨quiet _ _ _ trivial (by simp), fun third prepared => ⟨quiet _ _ _ trivial (by simp),
      fun fourth opened => ⟨⟨trivial, fun _ _ screen front entry found finished => ?_⟩,
        fun _ _ => .of_forall ?_⟩⟩⟩⟩⟩
  · have reached : Phone.after samplePlatform (sampleRun.take 4) = some fourth := by
      simp [Phone.after, sampleRun, forEach, overview, form, prepared, opened]
    have ready : (Phone.after samplePlatform (sampleRun.take 4)).any unfinished = true := by decide
    rw [reached] at ready
    simp only [Option.any_some, unfinished, front, found, Option.all_some, decide_eq_true_eq] at ready
    exact ready finished
  · have plain : ∀ event ∈ (sampleRun ++ entersPosition).drop 5, event.Sensible samplePlatform := by decide
    have other : ∀ event ∈ (sampleRun ++ entersPosition).drop 5, event ≠ .general (-6) := by
      simp [sampleRun, entersPosition]
    exact fun event member _ _ => quiet _ _ _ (plain event member) (other event member)

theorem finished_record_kept_sample :
    ∃ phone old later new, Phone.after samplePlatform sampleRun = some phone ∧
      phone.record samplePlatform 1 = some old ∧
      forEach entersPosition (Phone.step samplePlatform) phone = some later ∧
      later.record samplePlatform 1 = some new ∧ old.Kept new := by
  obtain ⟨phone, old, run, found, finished⟩ := sampleRun_finished
  have entered : ((Phone.after samplePlatform sampleRun).bind fun phone =>
      (forEach entersPosition (Phone.step samplePlatform) phone).bind fun later =>
        later.record samplePlatform 1).isSome = true := by decide
  obtain ⟨new, held⟩ := Option.isSome_iff_exists.mp entered
  rw [run, Option.bind_some] at held
  obtain ⟨later, continued, found'⟩ := Option.bind_eq_some_iff.mp held
  rcases finished_record_kept rfl sampleRun_condition (by decide) run continued found finished with
    absent | ⟨same, found'', kept⟩
  · rw [absent] at found'
    cases found'
  · exact ⟨phone, old, later, same, run, found, continued, found'', kept⟩

end

end LoraEval.App

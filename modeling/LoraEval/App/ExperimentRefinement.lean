import LoraEval.App.ExperimentFollows
import LoraEval.App.ExperimentRuns

/-! Seen from one experiment the whole app is the screen of that experiment: in every run
of the app an experiment begins as the stored record of a form and is then followed by the
model with one experiment until it is deleted. -/

namespace LoraEval.App

open LoraEval.Core

namespace Phone

variable {platform : Platform} {prompt : Prop} {phone next : Phone} {number : BitVec 32}

theorem files_withRecord {use : Entry → Phone}
    (uses : ∀ record, (use record).files number = phone.files number) :
    (phone.withRecord platform other use).files number = phone.files number :=
  withRecord_rule (motive := fun next => next.files number = phone.files number) (fun _ => rfl)
    fun record _ => uses record

theorem files_withState {use : Bool → Phone} (record : Entry)
    (uses : ∀ ready, (use ready).files number = phone.files number) :
    (phone.withState record use).files number = phone.files number :=
  withState_rule (motive := fun next => next.files number = phone.files number) (fun _ => rfl) record uses

theorem files_onCreate (platform : Platform) (phone : Phone) (other : BitVec 32) :
    (phone.onCreate platform other).files number = phone.files number := by
  refine files_withRecord fun record => ?_
  split
  · rfl
  · refine files_withState record fun ready => ?_
    split
    · split <;> rfl
    · rfl

theorem files_follow (platform : Platform) (path : PositionPath) (fault : Fault)
    (screen : StartExperimentScreen)
    (phone : Phone) : (phone.follow platform path fault screen).files number = phone.files number := by
  have calm : Calm number (phone.display (.startExperiment screen))
      (phone.follow platform path fault screen) :=
    .follow path fault screen phone
  exact calm.files

section

variable {screen : StartExperimentScreen}

theorem files_automaticCsv (platform : Platform) (online opens : Bool) (phone : Phone)
    (different : screen.experimentNumber ≠ number) :
    (phone.automaticCsv platform online opens screen).files number = phone.files number := by
  refine files_withRecord fun record => ?_
  rw [files_follow]
  split
  · exact files_withFile platform opens phone different
  · rfl

theorem files_finishExperiment (platform : Platform) (online opens : Bool) (phone : Phone)
    (different : screen.experimentNumber ≠ number) :
    (phone.finishExperiment platform online opens screen).files number = phone.files number := by
  rw [Phone.finishExperiment]
  dsimp only
  split
  · refine (files_automaticCsv platform online opens _ ?_).trans rfl
    exact different
  · refine (files_withRecord fun record => files_withState record fun ready => ?_).trans rfl
    exact files_automaticCsv platform online opens _ different

theorem files_startNextExperiment (platform : Platform) (phone : Phone) :
    (phone.startNextExperiment platform screen).files number = phone.files number := by
  rw [Phone.startNextExperiment]
  split
  · rfl
  · refine files_withRecord fun record => ?_
    rw [files_onCreate]
    rfl

theorem files_broadcastStep (event : PhoneEvent) (phone : Phone) :
    (phone.broadcastStep event screen).files = phone.files := by
  cases event with
  | general status =>
    rw [broadcastStep]
    split
    · rfl
    · split <;> rfl
  | received fields => cases fields <;> rfl
  | _ => rfl

theorem files_userStep (different : screen.experimentNumber ≠ number)
    (taken : phone.userStep platform event screen = some next) : next.files number = phone.files number := by
  unfold Phone.userStep at taken
  split at taken
  · simp only [Phone.buttonStep] at taken
    split at taken
    · split at taken
      · obtain rfl := Option.some.inj taken
        split <;> rfl
      · cases taken
    · split at taken
      · obtain rfl := Option.some.inj taken
        rfl
      · cases taken
    · split at taken
      · obtain rfl := Option.some.inj taken
        refine files_withRecord fun record => ?_
        rw [files_follow, files_withFile platform _ phone different]
      · cases taken
    · split at taken
      · obtain rfl := Option.some.inj taken
        exact files_startNextExperiment platform phone
      · cases taken
    · obtain rfl := Option.some.inj taken
      exact files_withRecord fun record => files_withState record fun _ => rfl
    · cases taken
  · simp only [Phone.dialogStep] at taken
    split at taken
    · obtain ⟨locationIdentifier, -, rfl⟩ := Option.map_eq_some_iff.mp taken
      refine (files_withRecord fun record => ?_).trans rfl
      rw [files_follow]
    · obtain rfl := Option.some.inj taken
      rfl
    · cases taken

theorem files_experimentStep (different : screen.experimentNumber ≠ number)
    (taken : phone.experimentStep platform event screen = some next) :
    next.files number = phone.files number := by
  have heard (taken : some
      (if screen.screen.justShowingInfo then phone else phone.broadcastStep event screen) =
      some next) : next.files number = phone.files number := by
    obtain rfl := Option.some.inj taken
    split
    · rfl
    · rw [files_broadcastStep]
  cases event with
  | connection | general | received => exact heard taken
  | countedDown now currentLocation online opens =>
    obtain ⟨countdown, -, rfl⟩ := Option.map_eq_some_iff.mp taken
    cases countdown with
    | delay => rfl
    | duration => exact files_finishExperiment platform online opens phone different
  | recreated =>
    obtain rfl := Option.some.inj taken
    exact files_onCreate platform phone _
  | _ => exact files_userStep different taken

end

theorem files_overviewStep {absoluteIds : List (BitVec 32)}
    (taken : phone.overviewStep platform event absoluteIds = some next) :
    next.files number = phone.files number := by
  cases event with
  | newExperiment | left | connection | general | received =>
    obtain rfl := Option.some.inj taken
    rfl
  | select position =>
    obtain ⟨id, -, rfl⟩ := Option.map_eq_some_iff.mp taken
    refine files_withRecord fun record => files_withState record fun ready => ?_
    split
    · rfl
    · exact files_onCreate platform phone id
  | delete position =>
    obtain ⟨id, -, rfl⟩ := Option.map_eq_some_iff.mp taken
    dsimp only
    split <;> rfl
  | _ => cases taken

theorem files_customizeStep (taken : phone.customizeStep platform event = some next) :
    next.files number = phone.files number := by
  cases event with
  | experimentReady form startNow =>
    obtain rfl := Option.some.inj taken
    split
    · rfl
    · rfl
    · dsimp only
      split
      · rfl
      · rfl
      · split <;> rfl
  | left | connection | general | received =>
    obtain rfl := Option.some.inj taken
    rfl
  | _ => cases taken

theorem files_prepareStep {screen : PrepareSenderScreen}
    (taken : phone.prepareStep platform event screen = some next) :
    next.files number = phone.files number := by
  cases event with
  | connection | left | general | received =>
    obtain rfl := Option.some.inj taken
    rfl
  | prepareSender currentLocation =>
    simp only [Phone.prepareStep] at taken
    split at taken
    · cases taken
    · split at taken <;> obtain rfl := Option.some.inj taken <;> rfl
  | cancelPreparation =>
    simp only [Phone.prepareStep] at taken
    split at taken
    · obtain rfl := Option.some.inj taken
      split <;> rfl
    · cases taken
  | toStartExperiment orientation =>
    obtain rfl := Option.some.inj taken
    exact (files_onCreate platform _ _).trans rfl
  | _ => cases taken

theorem files_weatherStep (taken : phone.weatherStep platform other values opens = some next) :
    next.files = phone.files := by
  unfold Phone.weatherStep at taken
  split at taken
  · cases values with
    | none =>
      obtain rfl := Option.some.inj taken
      rfl
    | some values =>
      dsimp only at taken
      split at taken
      · obtain rfl := Option.some.inj taken
        rfl
      · split at taken
        · obtain rfl := Option.some.inj taken
          rfl
        · split at taken <;> obtain rfl := Option.some.inj taken <;> rfl
  · cases taken

theorem files_step
    (elsewhere : ∀ screen, phone.screen = .startExperiment screen → screen.experimentNumber ≠ number)
    (taken : phone.step platform event = some next) : next.files number = phone.files number := by
  unfold Phone.step at taken
  split at taken
  · rw [files_weatherStep taken]
  · obtain rfl := Option.some.inj taken
    rfl
  · split at taken
    · split at taken
      · obtain rfl := Option.some.inj taken
        rfl
      · cases taken
    · exact files_overviewStep taken
    · exact files_customizeStep taken
    · exact files_prepareStep taken
    · rename_i front
      exact files_experimentStep (elsewhere _ front) taken

/-- The first moment of an experiment: an accepted form, a ready record, an empty table and
no screen. -/
structure Born (platform : Platform) (number : BitVec 32) (form : Form) (next : Phone) : Prop where
  accepted : Accepted form
  record : next.record platform number = some (form.record number.toInt.toNat)
  rows : (next.store platform).exportedRows number = some []
  screen : next.screen.shown number = none

theorem Consistent.born (consistent : Consistent platform phone) (room : created phone.calls + 1 < 2 ^ 31)
    (new : number.toInt = created phone.calls + 1) (accepted : Accepted form)
    (calls : next.calls = phone.calls ++ [.create form.values]) (hidden : next.screen.shown number = none) :
    Born platform number form next := by
  have store : next.store platform = (phone.write [.create form.values]).store platform := by
    rw [Phone.store, calls]
    rfl
  have position : number.toInt.toNat = created phone.calls + 1 := by omega
  have few : created (phone.calls ++ [.create form.values]) < 2 ^ 31 := by
    rw [created_append]
    exact room
  have plain : (DatabaseCall.create form.values).setsKey = false := rfl
  refine ⟨accepted, ?_, ?_, hidden⟩
  · have stored := (consistent.create room form).2.2 number
    rw [if_pos new] at stored
    rw [Phone.record, store, position]
    exact stored
  · rw [store, store_write, consistent.separate.exportedRows platform.affinity plain few]
    simp [DatabaseCall.names, DatabaseCall.act, new]

/-- A number beyond those that were given out is given out by an accepted form. -/
theorem Consistent.customize_born (consistent : Consistent platform phone)
    (room : created phone.calls + event.creations < 2 ^ 31) (ungiven : created phone.calls < number.toInt)
    (taken : phone.customizeStep platform event = some next) :
    created next.calls < number.toInt ∨
      ∃ form startNow, event = .experimentReady form startNow ∧ Born platform number form next := by
  cases event with
  | experimentReady form startNow =>
    obtain rfl := Option.some.inj taken
    split
    · exact .inl ungiven
    · exact .inl ungiven
    · rename_i stored
      have accepted : Accepted form := ((experimentReady_eq_stored _).mp stored).1
      have count : created (phone.calls ++ [.create form.values]) = created phone.calls + 1 :=
        created_append _ _
      have later {last : Phone} (calls : last.calls = phone.calls ++ [.create form.values])
          (hidden : last.screen.shown number = none) : created last.calls < number.toInt ∨
            ∃ form' startNow', PhoneEvent.experimentReady form startNow = .experimentReady form' startNow' ∧
              Born platform number form' last := by
        have next : (created phone.calls : Int) + 1 ≤ number.toInt := by omega
        rcases Int.lt_or_eq_of_le next with later | now
        · left
          rw [calls, count]
          omega
        · exact .inr ⟨form, startNow, rfl, consistent.born room now.symm accepted calls hidden⟩
      dsimp only
      split
      · exact later rfl rfl
      · exact later rfl rfl
      · split
        · exact later rfl rfl
        · exact later rfl rfl
  | left | connection | general | received =>
    obtain rfl := Option.some.inj taken
    exact .inl ungiven
  | _ => cases taken

theorem Consistent.step_born (consistent : Consistent platform phone)
    (room : created phone.calls + event.creations < 2 ^ 31) (ungiven : created phone.calls < number.toInt)
    (bounded : created next.calls ≤ created phone.calls + event.creations)
    (taken : phone.step platform event = some next) :
    created next.calls < number.toInt ∨
      ∃ form startNow, event = .experimentReady form startNow ∧ Born platform number form next := by
  cases event with
  | experimentReady form startNow =>
    simp only [Phone.step] at taken
    split at taken
    · cases taken
    · cases taken
    · exact consistent.customize_born room ungiven taken
    · cases taken
    · rename_i screen front
      cases pressed : screen.dialog <;>
        simp [Phone.experimentStep, Phone.userStep, pressed, Phone.buttonStep, Phone.dialogStep] at taken
  | _ =>
    left
    simp only [PhoneEvent.creations] at bounded
    omega

/-- What a run of the app is for one experiment. -/
def screenEvents (platform : Platform) (number : BitVec 32) :
    List PhoneEvent → Phone → List (AppEvent String)
  | [], _ => []
  | event :: rest, phone =>
    match phone.step platform event with
    | none => []
    | some next => phone.observed number event next ++ screenEvents platform number rest next

theorem screenEvents_append {middle : Phone} (run : forEach before (step platform) phone = some middle)
    (taken : middle.step platform event = some next) :
    screenEvents platform number (before ++ [event]) phone =
      screenEvents platform number before phone ++ middle.observed number event next := by
  induction before generalizing phone with
  | nil =>
    obtain rfl : phone = middle := Option.some.inj run
    simp [screenEvents, taken]
  | cons first rest ih =>
    obtain ⟨between, here, later⟩ := Option.bind_eq_some_iff.mp run
    simp only [List.cons_append, screenEvents, here]
    rw [ih later, List.append_assoc]

/-- The form that was given the number. -/
def CreatedBy (platform : Platform) (number : BitVec 32) (form : Form) (events : List PhoneEvent) : Prop :=
  ∃ before startNow rest phone, events = before ++ .experimentReady form startNow :: rest ∧
    after platform before = some phone ∧ number.toInt = created phone.calls + 1

theorem CreatedBy.append (made : CreatedBy platform number form before) (event : PhoneEvent) :
    CreatedBy platform number form (before ++ [event]) := by
  obtain ⟨front, startNow, rest, phone, rfl, reached, given⟩ := made
  exact ⟨front, startNow, rest ++ [event], phone, by simp, reached, given⟩

/-- What the phone has of the experiment is what its own events have made of the stored form. -/
def Matched (platform : Platform) (number : BitVec 32) (before : List PhoneEvent) (phone : Phone) : Prop :=
  ∃ form, CreatedBy platform number form before ∧ Accepted form ∧
    Linked platform (form.record number.toInt.toNat) number phone ∧
    appRun (form.record number.toInt.toNat) (screenEvents platform number before .initial) =
      some (phone.view platform number)

theorem Matched.of_born (born : Born platform number form next) (files : next.files number = none)
    (made : CreatedBy platform number form before)
    (silent : screenEvents platform number before .initial = []) :
    Matched platform number before next := by
  have ready : (form.record number.toInt.toNat).IsReady := (Form.record_sound platform form _).1
  refine ⟨form, made, born.accepted, ⟨_, born.record, fun _ _ _ => rfl, .inl ready⟩, ?_⟩
  have state : (form.record number.toInt.toNat).experimentState = .ready := rfl
  have view : next.view platform number = .stored := by
    simp [Phone.view, born.record, born.rows, born.screen, files, state, ExperimentApp.stored]
  rw [view, silent]
  rfl

theorem Matched.step (inv : Inv platform prompt phone) (room : created phone.calls + event.creations < 2 ^ 31)
    (reached : after platform before = some phone) (taken : phone.step platform event = some next)
    (matched : Matched platform number before phone) :
    next.record platform number = none ∨ Matched platform number (before ++ [event]) next := by
  obtain ⟨form, made, accepted, linked, run⟩ := matched
  refine (Follows.of_step inv linked room taken).imp id fun follows => ?_
  refine ⟨form, made.append event, accepted, follows.linked, ?_⟩
  rw [appRun] at run
  rw [screenEvents_append reached taken, appRun, forEach_append, run]
  exact follows.run

/-- A number is not given out and has no file and no screen, or its experiment is gone, or the
model with one experiment has a run for it. -/
def Traced (platform : Platform) (number : BitVec 32) (before : List PhoneEvent) (phone : Phone) : Prop :=
  forms before < 2 ^ 31 → (Inv platform False phone ∧ created phone.calls ≤ forms before) ∧
    (created phone.calls < number.toInt ∧ phone.files number = none ∧
        screenEvents platform number before .initial = [] ∨
      number.toInt ≤ created phone.calls ∧ phone.record platform number = none ∨
      Matched platform number before phone)

theorem Inv.elsewhere (inv : Inv platform prompt phone) (ungiven : created phone.calls < number.toInt) :
    ∀ screen, phone.screen = .startExperiment screen → screen.experimentNumber ≠ number := by
  intro screen front mine
  have on := inv.screen
  rw [front] at on
  obtain ⟨record, found, -⟩ := on
  have bound := inv.toConsistent.bounded found
  rw [mine] at bound
  omega

theorem Inv.hidden (inv : Inv platform prompt phone) (ungiven : created phone.calls < number.toInt) :
    phone.screen.shown number = none := by
  cases front : phone.screen with
  | startExperiment screen => exact if_neg (inv.elsewhere ungiven screen front)
  | _ => rfl

theorem Traced.step (marker : platform.readsDouble "-1" = true) (traced : Traced platform number before phone)
    (reached : after platform before = some phone) (condition : Condition platform False before event phone)
    (taken : phone.step platform event = some next) :
    Traced platform number (before ++ [event]) next := by
  intro few
  have room := few
  rw [forms_append] at room
  obtain ⟨⟨inv, counted⟩, traced⟩ := traced (by omega)
  have steps := inv.step marker condition.1 condition.2 (by omega) taken
  have later : Reached platform False before phone := fun _ => ⟨inv, counted⟩
  have kept := later.step marker condition taken few
  refine ⟨kept, ?_⟩
  rcases traced with ⟨ungiven, unfiled, silent⟩ | ⟨given, absent⟩ | matched
  · have files : next.files number = none := (files_step (inv.elsewhere ungiven) taken).trans unfiled
    have quiet (hidden : next.screen.shown number = none) :
        screenEvents platform number (before ++ [event]) .initial = [] := by
      rw [screenEvents_append reached taken, silent]
      simp [observed, opening, inv.hidden ungiven, hidden]
    rcases inv.toConsistent.step_born (by omega) ungiven steps.bounded taken with
      later | ⟨form, startNow, rfl, born⟩
    · exact .inl ⟨later, files, quiet (kept.1.hidden later)⟩
    · have given : number.toInt = created phone.calls + 1 := by
        have bound := kept.1.toConsistent.bounded born.record
        have grown := steps.bounded
        simp only [PhoneEvent.creations] at grown
        omega
      exact .inr (.inr (.of_born born files ⟨before, startNow, [], phone, rfl, reached, given⟩
        (quiet born.screen)))
  · exact .inr (.inl ⟨given.trans (by exact_mod_cast steps.grows), steps.absent number given absent⟩)
  · have given : number.toInt ≤ created phone.calls := by
      obtain ⟨-, -, -, ⟨record, found, -⟩, -⟩ := matched
      exact inv.toConsistent.bounded found
    rcases matched.step inv (by omega) reached taken with gone | matched
    · exact .inr (.inl ⟨given.trans (by exact_mod_cast steps.grows), gone⟩)
    · exact .inr (.inr matched)

theorem traced_of_run {events : List PhoneEvent} (marker : platform.readsDouble "-1" = true)
    (sensible : ∀ event ∈ events, event.Sensible platform) (run : after platform events = some phone) :
    Traced platform number events phone := by
  have met : Meets (step platform) (Condition platform False) [] initial events :=
    .of_forall fun event member _ _ => ⟨sensible event member, False.elim⟩
  refine guarded_invariant (Traced platform number)
    (fun _ _ _ _ reached condition taken traced => traced.step marker reached condition taken) met rfl run
    fun _ => ?_
  refine ⟨⟨.initial, Nat.zero_le _⟩, ?_⟩
  by_cases positive : 0 < number.toInt
  · exact .inl ⟨positive, rfl, rfl⟩
  · exact .inr (.inl ⟨not_lt.mp positive, rfl⟩)

/-- The model with one experiment has a run for every experiment that exists. -/
theorem matched_of_run {events : List PhoneEvent} {record : Entry} (marker : platform.readsDouble "-1" = true)
    (sensible : ∀ event ∈ events, event.Sensible platform) (few : forms events < 2 ^ 31)
    (run : after platform events = some phone) (found : phone.record platform number = some record) :
    Inv platform False phone ∧ Matched platform number events phone := by
  have history : Traced platform number events phone := traced_of_run marker sensible run
  obtain ⟨⟨inv, -⟩, traced⟩ := history few
  refine ⟨inv, ?_⟩
  rcases traced with ⟨ungiven, -⟩ | ⟨-, absent⟩ | matched
  · have given := inv.toConsistent.bounded found
    omega
  · rw [absent] at found
    cases found
  · exact matched

end Phone

private theorem uploadRun_sensible : ∀ event ∈ uploadRun, event.Sensible samplePlatform := by decide

/-- The whole app refines the model with one experiment: whatever is done on all screens, to
all experiments, what the phone has of an experiment is what the events on its own screen make
of the record of the accepted form that was given its number. Typed positions are numbers, the
clock has ten digits, and there are fewer than 2^31 forms. -/
theorem app_refines_experiment {platform : Platform} {events : List PhoneEvent} {phone : Phone}
    {record : Entry} (marker : platform.readsDouble "-1" = true)
    (sensible : ∀ event ∈ events, event.Sensible platform)
    (few : forms events < 2 ^ 31) (run : Phone.after platform events = some phone)
    (found : phone.record platform number = some record) :
    ∃ form, Phone.CreatedBy platform number form events ∧ Accepted form ∧
      (form.record number.toInt.toNat).SameSettings record ∧
      appRun (form.record number.toInt.toNat) (Phone.screenEvents platform number events .initial) =
        some (phone.view platform number) := by
  obtain ⟨-, form, made, accepted, linked, matched⟩ := Phone.matched_of_run marker sensible few run found
  obtain ⟨same, found', settings, -⟩ := linked
  obtain rfl : record = same := Option.some.inj (found.symm.trans found')
  exact ⟨form, made, accepted, settings, matched⟩

theorem app_refines_experiment_sample :
    ∃ phone record, Phone.after samplePlatform uploadRun = some phone ∧
      phone.record samplePlatform 1 = some record ∧
      ∃ form, Phone.CreatedBy samplePlatform 1 form uploadRun ∧ Accepted form ∧
        (form.record 1).SameSettings record ∧
        appRun (form.record 1)
          [.opened, .general (-6), .countedDown false, .countedDown false, .createCsv, .left] =
            some (phone.view samplePlatform 1) := by
  have stored : ((Phone.after samplePlatform uploadRun).bind fun phone =>
      phone.record samplePlatform 1).isSome = true := by decide
  obtain ⟨record, held⟩ := Option.isSome_iff_exists.mp stored
  obtain ⟨phone, run, found⟩ := Option.bind_eq_some_iff.mp held
  have position : (1 : BitVec 32).toInt.toNat = 1 := rfl
  have own : Phone.screenEvents samplePlatform 1 uploadRun .initial =
      [.opened, .general (-6), .countedDown false, .countedDown false, .createCsv, .left] := by rfl
  have matched := app_refines_experiment rfl uploadRun_sensible (by decide) run found
  rw [position, own] at matched
  exact ⟨phone, record, run, found, matched⟩

/-- A file has the rows that the table began with, and it is that of a finished experiment. -/
def ExperimentApp.Filed (app : ExperimentApp α) : Prop :=
  ∀ file, app.csv = some file → app.state = .finished ∧ ∃ later, app.rows = file ++ later

theorem Effect.filed {app next : ExperimentApp α} (effect : Effect event app next) (filed : app.Filed) :
    next.Filed := by
  intro file made
  rcases effect.csv with same | ⟨finished, written⟩
  · obtain ⟨state, later, rows⟩ := filed file (same.symm.trans made)
    refine ⟨?_, ?_⟩
    · rcases effect.state with kept | ⟨-, ended⟩
      · exact kept.trans state
      · exact ended
    · rcases effect.rows with kept | ⟨-, row, longer⟩
      · exact ⟨later, kept.trans rows⟩
      · exact ⟨later ++ [row], by rw [longer, rows, List.append_assoc]⟩
  · obtain rfl := Option.some.inj (written.symm.trans made)
    exact ⟨finished, [], (List.append_nil _).symm⟩

theorem ExperimentApp.filed_of_run {app : ExperimentApp α} (run : appRun entry events = some app) :
    app.Filed := by
  refine forEach_keeps ExperimentApp.Filed
    (fun event _ state next taken => (appStep_effect taken).filed) run ?_
  intro file made
  cases made

/-- In every run of the app a result file is that of a finished experiment, and its rows are
those the experiment's table began with: what is logged later is missing, nothing else. Stored
positions are numbers, the clock has ten digits, and there are fewer than 2^31 forms. -/
theorem exported_files_of_tables {platform : Platform} {events : List PhoneEvent} {phone : Phone}
    {record : Entry} (marker : platform.readsDouble "-1" = true)
    (sensible : ∀ event ∈ events, event.Sensible platform)
    (few : forms events < 2 ^ 31) (run : Phone.after platform events = some phone)
    (found : phone.record platform number = some record) (made : phone.files number = some file) :
    record.IsFinished ∧ ∃ later, (phone.store platform).exportedRows number = some (file ++ later) := by
  obtain ⟨inv, form, -, -, -, matched⟩ := Phone.matched_of_run marker sensible few run found
  obtain ⟨state, later, rows⟩ := ExperimentApp.filed_of_run matched file made
  obtain ⟨table, stored⟩ := Option.isSome_iff_exists.mp
    (inv.toConsistent.separate.tables number (Option.isSome_of_eq_some found))
  refine ⟨?_, later, ?_⟩
  · by_contra ready
    have other : record.get Column.state ≠ some "finished" := ready
    simp [Phone.view, found, Entry.experimentState, other] at state
  · have same : table = file ++ later := by simpa [Phone.view, stored] using rows
    rw [stored, same]

/-- A packet is received before the end of the experiment, and another one after it. -/
def lateRun : List PhoneEvent :=
  uploadRun.take 8 ++
    [.received (some (.statistics "-81" "7" "0")), .received (some (.message "0" "00310_000t")),
      .countedDown (10 ^ 9) none true true,
      .received (some (.statistics "-80" "7" "0")), .received (some (.message "1" "00310_001t"))]

private def fileAndTable (phone : Phone) : Option (List (Entries String) × List (Entries String)) :=
  (phone.files 1).bind fun file =>
    ((phone.store samplePlatform).exportedRows 1).map fun table => (file, table)

theorem exported_files_of_tables_sample :
    ∃ phone record file later, Phone.after samplePlatform lateRun = some phone ∧
      phone.record samplePlatform 1 = some record ∧ phone.files 1 = some file ∧ record.IsFinished ∧
      (phone.store samplePlatform).exportedRows 1 = some (file ++ later) ∧
      file.length = 1 ∧ later.length = 1 := by
  have sensible : ∀ event ∈ lateRun, event.Sensible samplePlatform := by decide
  have lengths : (Phone.after samplePlatform lateRun).any (fun phone =>
      (phone.record samplePlatform 1).isSome && (fileAndTable phone).any fun both =>
        both.1.length = 1 && both.2.length = 2) = true := by decide
  obtain ⟨phone, run, held⟩ := (Option.any_eq_true _ _).mp lengths
  obtain ⟨known, sizes⟩ := Bool.and_eq_true_iff.mp held
  obtain ⟨record, found⟩ := Option.isSome_iff_exists.mp known
  obtain ⟨⟨file, table⟩, both, counted⟩ := (Option.any_eq_true _ _).mp sizes
  obtain ⟨file, made, tabled⟩ := Option.bind_eq_some_iff.mp both
  obtain ⟨table, stored, same⟩ := Option.map_eq_some_iff.mp tabled
  cases same
  obtain ⟨finished, later, rows⟩ := exported_files_of_tables rfl sensible (by decide) run found made
  obtain rfl : table = file ++ later := Option.some.inj (stored.symm.trans rows)
  have sum : file.length = 1 ∧ file.length + later.length = 2 := by simpa using counted
  exact ⟨phone, record, file, later, run, found, made, finished, rows, sum.1, by omega⟩

end LoraEval.App

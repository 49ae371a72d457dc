import LoraEval.App.ResultLog
import LoraEval.App.Settings
import LoraEval.App.Summary
import LoraEval.Core.Run

/-! `StartExperimentScreen` and the result table of its experiment, over any sequence of
openings, starts, broadcasts, countdowns and departures. -/

namespace LoraEval.App

open LoraEval.Core

/-- The `state` column of the experiment. -/
inductive ExperimentState where
  | ready
  | finished
deriving DecidableEq, Repr

/-- What `timer` counts down: `first` is the delay. -/
inductive Countdown where
  | delay
  | duration
deriving DecidableEq, Repr

structure ExperimentScreen (α : Type) where
  justShowingInfo : Bool
  connected : Bool
  ready : Bool
  startButton : Bool
  timer : Option Countdown
  dbEntries : Option (Entries α)
deriving DecidableEq

/-- The stored experiment, its table, the rows of its last `makeCSV`, and the screen
while it is open. -/
structure ExperimentApp (α : Type) where
  state : ExperimentState
  rows : List (Entries α)
  csv : Option (List (Entries α))
  screen : Option (ExperimentScreen α)
deriving DecidableEq

namespace ExperimentApp

def stored : ExperimentApp α := ⟨.ready, [], none, none⟩

/-- `onCreate` behind `initSummary`. Only a ready experiment gets its receivers. -/
def onCreate (app : ExperimentApp α) : ExperimentApp α :=
  { app with
    screen := some {
      justShowingInfo := app.state ≠ .ready
      connected := false
      ready := false
      startButton := app.state = .ready
      timer := none
      dbEntries := none } }

/-- `onDestroy`, or the end of the app by an exception: the table stays. -/
def close (app : ExperimentApp α) : ExperimentApp α := { app with screen := none }

def makeCSV (app : ExperimentApp α) : ExperimentApp α := { app with csv := some app.rows }

/-- `startExperiment`: the button is gone whether or not the settings are written. -/
def start (entry : Entry) (power : Byte) (hours minutes seconds : String) (screen : ExperimentScreen α)
    (app : ExperimentApp α) : ExperimentApp α :=
  match startExperiment entry power hours minutes seconds with
  | .error _ => app.close
  | .ok _ => { app with screen := some { screen with startButton := false } }

/-- The general broadcast receiver: -2 reports the synchronised configuration and -6
the acknowledgement, which starts the countdown of the delay. -/
def general (status : Int) (screen : ExperimentScreen α) (app : ExperimentApp α) : ExperimentApp α :=
  if status = -2 then { app with screen := some { screen with ready := true } }
  else if status = -6 then { app with screen := some { screen with timer := some .delay } }
  else app

/-- Both result receivers. A message that its handler cannot read ends the app. -/
def receive (fields : Option (Fields α)) (screen : ExperimentScreen α) (app : ExperimentApp α) :
    ExperimentApp α :=
  match fields with
  | none => app.close
  | some fields =>
    let log := ResultLog.receive ⟨screen.dbEntries, app.rows⟩ fields
    { app with rows := log.rows, screen := some { screen with dbEntries := log.dbEntries } }

/-- `onFinish` of the timer. At the end of the duration the file is made if the phone
is online and the positions are known. -/
def countedDown (countdown : Countdown) (exports : Bool) (screen : ExperimentScreen α)
    (app : ExperimentApp α) : ExperimentApp α :=
  match countdown with
  | .delay => { app with screen := some { screen with timer := some .duration } }
  | .duration =>
    let app := { app with
      state := .finished
      screen := some { screen with timer := none, connected := false } }
    if exports then app.makeCSV else app

end ExperimentApp

/-- What happens to the experiment: the user's actions, broadcasts, and the timer. -/
inductive AppEvent (α : Type) where
  | opened
  | connection (connected : Bool)
  | general (status : Int)
  | start (power : Byte) (hours minutes seconds : String)
  | received (fields : Option (Fields α))
  | countedDown (exports : Bool)
  | createCsv
  | left

/-- An event on the open screen. A button that is not shown cannot be pressed. -/
def screenStep (entry : Entry) (event : AppEvent α) (screen : ExperimentScreen α) (app : ExperimentApp α) :
    Option (ExperimentApp α) :=
  match event with
  | .opened => none
  | .connection connected =>
    if screen.justShowingInfo then some app
    else some { app with
      screen := some { screen with connected := connected, ready := screen.ready && connected } }
  | .general status => some (if screen.justShowingInfo then app else app.general status screen)
  | .start power hours minutes seconds =>
    if screen.startButton then some (app.start entry power hours minutes seconds screen) else none
  | .received fields => some (if screen.justShowingInfo then app else app.receive fields screen)
  | .countedDown exports => screen.timer.map fun countdown => app.countedDown countdown exports screen
  | .createCsv => if app.state = .finished then some app.makeCSV else none
  | .left => some app.close

/-- An event while the screen is closed: nobody receives a broadcast. -/
def closedStep (entry : Entry) (event : AppEvent α) (app : ExperimentApp α) : Option (ExperimentApp α) :=
  match event with
  | .opened =>
    match initSummary entry with
    | .error _ => some app
    | .ok _ => some app.onCreate
  | .connection _ | .general _ | .received _ => some app
  | .start _ _ _ _ | .countedDown _ | .createCsv | .left => none

def appStep (entry : Entry) (event : AppEvent α) (app : ExperimentApp α) : Option (ExperimentApp α) :=
  match app.screen with
  | none => closedStep entry event app
  | some screen => screenStep entry event screen app

def appRun (entry : Entry) (events : List (AppEvent α)) : Option (ExperimentApp α) :=
  forEach events (appStep entry) .stored

/-- The event writes the settings to the board: a run of the experiment begins. -/
def begins (entry : Entry) (event : AppEvent α) (app : ExperimentApp α) : Prop :=
  ∃ power hours minutes seconds settings, event = .start power hours minutes seconds ∧
    startExperiment entry power hours minutes seconds = .ok (some settings) ∧
    ∃ screen ∈ app.screen, screen.startButton = true ∧ screen.ready = true

def finishes (event : AppEvent α) (app : ExperimentApp α) : Prop :=
  (∃ exports, event = .countedDown exports) ∧ ∃ screen ∈ app.screen, screen.timer = some .duration

def logs (event : AppEvent α) (app : ExperimentApp α) : Prop :=
  (∃ fields, event = .received (some fields)) ∧
    ∃ screen ∈ app.screen, screen.justShowingInfo = false ∧ screen.dbEntries.isSome = true

/-- All that a step can do to the table, the `state` column and the file. -/
structure Effect (event : AppEvent α) (app next : ExperimentApp α) : Prop where
  rows : next.rows = app.rows ∨ logs event app ∧ ∃ row, next.rows = app.rows ++ [row]
  state : next.state = app.state ∨ finishes event app ∧ next.state = .finished
  csv : next.csv = app.csv ∨ next.state = .finished ∧ next.csv = some next.rows

theorem Effect.grows {app : ExperimentApp α} (effect : Effect event app next) :
    app.rows.length ≤ next.rows.length := by
  rcases effect.rows with same | ⟨-, row, longer⟩
  · exact same ▸ le_rfl
  · simp [longer]

theorem effect_screen (event : AppEvent α) (app : ExperimentApp α)
    (screen : Option (ExperimentScreen α)) : Effect event app { app with screen } :=
  ⟨.inl rfl, .inl rfl, .inl rfl⟩

theorem effect_same (event : AppEvent α) (app : ExperimentApp α) : Effect event app app :=
  effect_screen event app app.screen

theorem effect_receive {app : ExperimentApp α} (opened : app.screen = some screen)
    (registered : screen.justShowingInfo = false) (fields : Option (Fields α)) :
    Effect (.received fields) app (app.receive fields screen) := by
  cases fields with
  | none => exact effect_screen _ app none
  | some fields =>
    refine ⟨?_, .inl rfl, .inl rfl⟩
    cases half : screen.dbEntries with
    | none => exact .inl (by simp [ExperimentApp.receive, ResultLog.receive, half])
    | some entries =>
      exact .inr ⟨⟨⟨fields, rfl⟩, screen, opened, registered, by simp [half]⟩,
        fields.fill entries, by simp [ExperimentApp.receive, ResultLog.receive, half]⟩

theorem effect_countedDown {app : ExperimentApp α} (opened : app.screen = some screen)
    (running : screen.timer = some countdown) (exports : Bool) :
    Effect (.countedDown exports) app (app.countedDown countdown exports screen) := by
  cases countdown with
  | delay => exact effect_screen _ app _
  | duration =>
    have finished : finishes (.countedDown exports) app := ⟨⟨exports, rfl⟩, screen, opened, running⟩
    cases exports with
    | false => exact ⟨.inl rfl, .inr ⟨finished, rfl⟩, .inl rfl⟩
    | true => exact ⟨.inl rfl, .inr ⟨finished, rfl⟩, .inr ⟨rfl, rfl⟩⟩

theorem screenStep_effect {app : ExperimentApp α} (opened : app.screen = some screen)
    (taken : screenStep entry event screen app = some next) : Effect event app next := by
  cases event with
  | opened => cases taken
  | connection connected =>
    simp only [screenStep] at taken
    split at taken
    · obtain rfl := Option.some.inj taken
      exact effect_same _ _
    · obtain rfl := Option.some.inj taken
      exact effect_screen _ app _
  | general status =>
    cases taken
    unfold ExperimentApp.general
    split_ifs
    · exact effect_same _ app
    · exact effect_screen _ app _
    · exact effect_screen _ app _
    · exact effect_same _ app
  | start power hours minutes seconds =>
    obtain ⟨-, rfl⟩ : screen.startButton = true ∧
        app.start entry power hours minutes seconds screen = next := by
      simpa [screenStep] using taken
    unfold ExperimentApp.start
    cases startExperiment entry power hours minutes seconds with
    | error => exact effect_screen _ app none
    | ok => exact effect_screen _ app _
  | received fields =>
    cases taken
    cases info : screen.justShowingInfo with
    | true => simpa using effect_same _ app
    | false => simpa using effect_receive opened info fields
  | countedDown exports =>
    obtain ⟨countdown, running, rfl⟩ := Option.map_eq_some_iff.mp taken
    exact effect_countedDown opened running exports
  | createCsv =>
    obtain ⟨finished, rfl⟩ : app.state = .finished ∧ app.makeCSV = next := by
      simpa [screenStep] using taken
    exact ⟨.inl rfl, .inl rfl, .inr ⟨finished, rfl⟩⟩
  | left =>
    cases taken
    exact effect_screen _ app none

theorem appStep_effect {app : ExperimentApp α} (taken : appStep entry event app = some next) :
    Effect event app next := by
  unfold appStep at taken
  cases opened : app.screen with
  | some screen =>
    rw [opened] at taken
    exact screenStep_effect opened taken
  | none =>
    rw [opened] at taken
    cases event with
    | connection | general | received =>
      obtain rfl := Option.some.inj taken
      exact effect_same _ _
    | start | countedDown | createCsv | left => cases taken
    | opened =>
      cases summary : initSummary entry with
      | error =>
        obtain rfl : app = next := by simpa [closedStep, summary] using taken
        exact effect_same _ app
      | ok =>
        obtain rfl : app.onCreate = next := by simpa [closedStep, summary] using taken
        exact effect_screen _ app _

theorem rows_grow {app : ExperimentApp α} (run : forEach events (appStep entry) app = some final) :
    app.rows.length ≤ final.rows.length := by
  refine forEach_keeps (fun later => app.rows.length ≤ later.rows.length) ?_ run le_rfl
  intro event _ state next taken grown
  exact grown.trans (appStep_effect taken).grows

end LoraEval.App

import LoraEval.App.ExperimentScreen

/-! Which run the rows of an exported result table belong to. Nothing ties a row to a
run: the table collects what every opening of the screen has logged. -/

namespace LoraEval.Experiment

open LoraEval.Core LoraEval.App

def Begun (entry : Entry) (before : List (AppEvent α)) (event : AppEvent α) : Prop :=
  ∃ app, appRun entry before = some app ∧ begins entry event app

/-- The row with this number was logged during the last run, and that run finished. -/
def OfFinishedRun (entry : Entry) (events : List (AppEvent α)) (row : Nat) : Prop :=
  ∃ before start during finish after atStart atEnd,
    events = before ++ start :: (during ++ finish :: after) ∧
    Last (Begun entry) before start (during ++ finish :: after) ∧
    appRun entry before = some atStart ∧
    appRun entry (before ++ start :: during) = some atEnd ∧ finishes finish atEnd ∧
    atStart.rows.length ≤ row ∧ row < atEnd.rows.length

def RunOn (entry : Entry) (before : List (AppEvent α)) : Prop := Since (· ≠ .opened) (Begun entry) before

/-- A run begins with an empty table, and a row is completed only between the beginning
of a run and its end. -/
def Orderly (entry : Entry) (before : List (AppEvent α)) (event : AppEvent α) (app : ExperimentApp α) :
    Prop :=
  (begins entry event app → app.rows = []) ∧
    (logs event app → RunOn entry before ∧ app.state = .ready)

/-- The last run began with an empty table, and once the experiment is finished all rows
are older than the end of the run. -/
def OnlyLastRun (entry : Entry) (events : List (AppEvent α)) (app : ExperimentApp α) : Prop :=
  ∃ before start during atStart, events = before ++ start :: during ∧
    Last (Begun entry) before start during ∧ appRun entry before = some atStart ∧ atStart.rows = [] ∧
    (app.state = .finished → app.rows = [] ∨
      ∃ front finish back atEnd, during = front ++ finish :: back ∧
        appRun entry (before ++ start :: front) = some atEnd ∧ finishes finish atEnd ∧
        app.rows.length ≤ atEnd.rows.length)

structure TableInv (entry : Entry) (events : List (AppEvent α)) (app : ExperimentApp α) : Prop where
  unwritten : app.state = .ready → app.csv = none
  written : ∀ rows ∈ app.csv, rows.length ≤ app.rows.length
  rows : app.rows = [] ∨ OnlyLastRun entry events app
  run : RunOn entry events → OnlyLastRun entry events app

/-- An event that begins no run adds nothing but rows of the run that is on. -/
theorem OnlyLastRun.extend {app : ExperimentApp α} (only : OnlyLastRun entry events app)
    (reached : appRun entry events = some app) (effect : Effect event app next)
    (orderly : Orderly entry events event app) (unmarked : ¬ begins entry event app) :
    OnlyLastRun entry (events ++ [event]) next := by
  obtain ⟨before, start, during, atStart, rfl, last, began, empty, ended⟩ := only
  have silent : ¬ Begun entry (before ++ start :: during) event := by
    rintro ⟨state, also, begun⟩
    obtain rfl : app = state := Option.some.inj (reached.symm.trans also)
    exact unmarked begun
  refine ⟨before, start, during ++ [event], atStart, by simp, last.extend silent, began, empty, ?_⟩
  intro finished
  have unlogged (past : app.state = .finished ∨ finishes event app) : next.rows = app.rows := by
    rcases effect.rows with same | ⟨logged, -⟩
    · exact same
    · rcases past with past | ⟨⟨exports, counted⟩, -⟩
      · cases past.symm.trans (orderly.2 logged).2
      · obtain ⟨⟨fields, received⟩, -⟩ := logged
        cases counted.symm.trans received
  rcases effect.state with same | ⟨ending, -⟩
  · have past : app.state = .finished := same.symm.trans finished
    rw [unlogged (.inl past)]
    rcases ended past with none | ⟨front, finish, back, atEnd, rfl, ran, ending, enough⟩
    · exact .inl none
    · exact .inr ⟨front, finish, back ++ [event], atEnd, by simp, ran, ending, enough⟩
  · rw [unlogged (.inr ending)]
    exact .inr ⟨during, event, [], app, rfl, reached, ending, le_rfl⟩

theorem OnlyLastRun.begin {app : ExperimentApp α} (begun : begins entry event app)
    (reached : appRun entry events = some app) (empty : app.rows = []) (effect : Effect event app next) :
    OnlyLastRun entry (events ++ [event]) next := by
  refine ⟨events, event, [], app, rfl, .single ⟨app, reached, begun⟩, reached, empty, fun _ => .inl ?_⟩
  rcases effect.rows with same | ⟨⟨⟨fields, received⟩, -⟩, -⟩
  · exact same.trans empty
  · obtain ⟨power, hours, minutes, seconds, settings, started, -⟩ := begun
    cases started.symm.trans received

theorem TableInv.step {app : ExperimentApp α} (inv : TableInv entry events app)
    (reached : appRun entry events = some app) (orderly : Orderly entry events event app)
    (taken : appStep entry event app = some next) : TableInv entry (events ++ [event]) next := by
  have effect := appStep_effect taken
  have follow (only : OnlyLastRun entry events app) : OnlyLastRun entry (events ++ [event]) next := by
    by_cases begun : begins entry event app
    · exact .begin begun reached (orderly.1 begun) effect
    · exact only.extend reached effect orderly begun
  constructor
  · intro ready
    rcases effect.csv with same | ⟨finished, -⟩
    · rcases effect.state with still | ⟨-, finished⟩
      · exact same.trans (inv.unwritten (still.symm.trans ready))
      · cases finished.symm.trans ready
    · cases finished.symm.trans ready
  · intro rows found
    rcases effect.csv with same | ⟨-, new⟩
    · exact (inv.written rows (same ▸ found)).trans effect.grows
    · obtain rfl : next.rows = rows := Option.some.inj (new.symm.trans found)
      exact le_rfl
  · rcases effect.rows with same | ⟨logged, -⟩
    · rcases inv.rows with empty | only
      · exact .inl (same.trans empty)
      · exact .inr (follow only)
    · exact .inr (follow (inv.run (orderly.2 logged).1))
  · intro on
    rcases since_append.mp on with ⟨state, also, begun⟩ | ⟨-, earlier⟩
    · obtain rfl : app = state := Option.some.inj (reached.symm.trans also)
      exact .begin begun reached (orderly.1 begun) effect
    · exact follow (inv.run earlier)

theorem tableInv_run (run : appRun entry events = some final)
    (orderly : Meets (appStep entry) (Orderly entry) [] .stored events) : TableInv entry events final := by
  refine guarded_invariant (TableInv entry)
    (fun before event state next reached met taken inv => inv.step reached met taken) orderly rfl run ?_
  exact ⟨fun _ => rfl, nofun, .inl rfl, fun on => absurd on not_since_nil⟩

/-- The event neither begins a run nor completes a row, whatever the state. -/
def Silent : AppEvent α → Prop
  | .start _ _ _ _ | .received _ => False
  | _ => True

theorem silent_orderly {event : AppEvent α} (silent : Silent event) (before : List (AppEvent α))
    (app : ExperimentApp α) :
    Orderly entry before event app := by
  constructor
  · rintro ⟨power, hours, minutes, seconds, -, rfl, -⟩
    exact silent.elim
  · rintro ⟨⟨fields, rfl⟩, -⟩
    exact silent.elim

def sampleEntry : Entry := (sampleForm "50" "4").record 1

def untilMeasuring : List (AppEvent String) :=
  [.opened, .connection true, .general (-2), .start 5 "0" "0" "10", .general (-6), .countedDown false]

def onePacket : List (AppEvent String) :=
  [.received (some (.statistics "-81" "7" "0")), .received (some (.message "0" "00310_000t"))]

def packetRow : Entries String := #v[some "0", some "00310_000t", some "-81", some "7", some "0"]

def sampleScreen (started : Bool) : ExperimentScreen String := ⟨false, true, true, !started, none, none⟩

theorem sample_begins (rows : List (Entries String)) :
    begins sampleEntry (.start 5 "0" "0" "10") ⟨.ready, rows, none, some (sampleScreen false)⟩ :=
  ⟨5, "0", "0", "10", _, rfl, sampleForm_fifty_started, sampleScreen false, rfl, rfl, rfl⟩

theorem sample_runOn : RunOn sampleEntry (untilMeasuring ++ [.received fields]) := by
  refine ⟨untilMeasuring.take 3, .start 5 "0" "0" "10", untilMeasuring.drop 4 ++ [.received fields],
    rfl, ?_, ?_⟩
  · exact ⟨_, by decide +kernel, sample_begins []⟩
  · simp [untilMeasuring]

theorem sample_orderly : Meets (appStep sampleEntry) (Orderly sampleEntry) [] .stored
    (untilMeasuring ++ onePacket ++ [.countedDown true]) := by
  have opened : appStep sampleEntry .opened .stored =
      some ⟨.ready, [], none, some ⟨false, false, false, true, none, (none : Option (Entries String))⟩⟩ := by
    decide +kernel
  have started : appStep sampleEntry (.start 5 "0" "0" "10") ⟨.ready, [], none, some (sampleScreen false)⟩ =
      some ⟨.ready, [], none, some (sampleScreen true)⟩ := by
    decide +kernel
  refine .cons (silent_orderly (by trivial) _ _) opened ?_
  refine .cons (silent_orderly (by trivial) _ _) rfl ?_
  refine .cons (silent_orderly (by trivial) _ _) rfl ?_
  refine .cons ⟨fun _ => rfl, nofun⟩ started ?_
  refine .cons (silent_orderly (by trivial) _ _) rfl ?_
  refine .cons (silent_orderly (by trivial) _ _) rfl ?_
  refine .cons ⟨nofun, fun logged => ?_⟩ rfl ?_
  · obtain ⟨-, screen, opened, -, half⟩ := logged
    cases opened
    cases half
  refine .cons ⟨nofun, fun _ => ⟨sample_runOn, rfl⟩⟩ rfl ?_
  exact .cons (silent_orderly (by trivial) _ _) rfl trivial

/-- If every run begins with an empty table and rows are completed only while a run is
on, each exported row was logged during the last run, which finished. -/
theorem exported_of_finished_run (run : appRun entry events = some final)
    (orderly : Meets (appStep entry) (Orderly entry) [] .stored events)
    (exported : final.csv = some rows) (inside : row < rows.length) : OfFinishedRun entry events row := by
  have inv := tableInv_run run orderly
  have bound : row < final.rows.length := inside.trans_le (inv.written rows exported)
  have finished : final.state = .finished := by
    cases state : final.state with
    | finished => rfl
    | ready => cases exported.symm.trans (inv.unwritten state)
  have nonempty : final.rows ≠ [] := List.ne_nil_of_length_pos (by omega)
  obtain ⟨before, start, during, atStart, rfl, last, began, empty, ended⟩ := inv.rows.resolve_left nonempty
  obtain ⟨front, finish, back, atEnd, rfl, ran, ending, enough⟩ := (ended finished).resolve_left nonempty
  exact ⟨before, start, front, finish, back, atStart, atEnd, rfl, last, began, ran, ending,
    by simp [empty], bound.trans_le enough⟩

theorem exported_of_finished_run_sample :
    ∃ app, appRun sampleEntry (untilMeasuring ++ onePacket ++ [.countedDown true]) = some app ∧
      app.csv = some [packetRow] ∧
      OfFinishedRun sampleEntry (untilMeasuring ++ onePacket ++ [.countedDown true]) 0 := by
  have run : appRun sampleEntry (untilMeasuring ++ onePacket ++ [.countedDown true]) =
      some ⟨.finished, [packetRow], some [packetRow], some ⟨false, false, true, false, none, none⟩⟩ := by
    decide +kernel
  exact ⟨_, run, rfl, exported_of_finished_run run sample_orderly rfl (by decide)⟩

/-- A row that was in the table when a run began is not a row of the last run. -/
theorem older_not_ofFinishedRun {app : ExperimentApp α} (split : events = before ++ start :: after)
    (reached : appRun entry before = some app) (begun : begins entry start app)
    (older : row < app.rows.length) : ¬ OfFinishedRun entry events row := by
  rintro ⟨front, last, during, finish, back, atStart, atEnd, same, only, began, -, -, inside, -⟩
  have longer : before.length ≤ front.length :=
    only.before_le ⟨app, reached, begun⟩ (same.symm.trans split)
  obtain ⟨between, rfl⟩ : before <+: front := by
    refine List.prefix_of_prefix_length_le ⟨start :: after, ?_⟩ ⟨last :: _, same.symm⟩ longer
    exact split.symm
  obtain ⟨state, also, later⟩ := forEach_split began
  obtain rfl : app = state := Option.some.inj (reached.symm.trans also)
  have grown := rows_grow later
  omega

/-- The screen is left after the first row; the run after it logs nothing and finishes. -/
def cancelledOnce : List (AppEvent String) :=
  untilMeasuring ++ onePacket ++ [.left] ++ untilMeasuring ++ [.countedDown true]

theorem cancelled_row_exported :
    ∃ app, appRun sampleEntry cancelledOnce = some app ∧ app.csv = some [packetRow] ∧
      ¬ OfFinishedRun sampleEntry cancelledOnce 0 := by
  have run : appRun sampleEntry cancelledOnce =
      some ⟨.finished, [packetRow], some [packetRow], some ⟨false, false, true, false, none, none⟩⟩ := by
    decide +kernel
  have reached : appRun sampleEntry (cancelledOnce.take 12) =
      some ⟨.ready, [packetRow], none, some (sampleScreen false)⟩ := by
    decide +kernel
  have split : cancelledOnce = cancelledOnce.take 12 ++ .start 5 "0" "0" "10" :: cancelledOnce.drop 13 := rfl
  exact ⟨_, run, rfl, older_not_ofFinishedRun split reached (sample_begins [packetRow]) (by decide)⟩

end LoraEval.Experiment

import LoraEval.App.ExperimentView

namespace LoraEval.App

open LoraEval.Core

/-- The settings of an experiment are those of the record it was created with. -/
def Entry.SameSettings (entry record : Entry) : Prop :=
  ∀ column < 17, column ≠ Column.state → record.get column = entry.get column

theorem Entry.SameSettings.initSummary {entry record : Entry} (same : entry.SameSettings record) :
    App.initSummary record = App.initSummary entry :=
  initSummary_congr same

theorem Entry.SameSettings.startExperiment {entry record : Entry} (same : entry.SameSettings record)
    (power : Byte) (hours minutes seconds : String) :
    App.startExperiment record power hours minutes seconds =
      App.startExperiment entry power hours minutes seconds := by
  have parse (column : Nat) (early : column < 17 ∧ column ≠ Column.state) :
      record.parse Java.parseByte column = entry.parse Java.parseByte column := by
    rw [Entry.parse, same column early.1 early.2, Entry.parse]
  have settings (total : Int) : createSettingsBytes record total = createSettingsBytes entry total := by
    have messages : List.range 3 = [0, 1, 2] := rfl
    have parameters : List.range' 4 5 = [4, 5, 6, 7, 8] := rfl
    simp only [createSettingsBytes, messages, parameters, List.mapM_cons, List.mapM_nil,
      parse (0 + Column.numberOfMessages) (by decide), parse (1 + Column.numberOfMessages) (by decide),
      parse (2 + Column.numberOfMessages) (by decide), parse (4 + Column.frequencies - 4) (by decide),
      parse (5 + Column.frequencies - 4) (by decide), parse (6 + Column.frequencies - 4) (by decide),
      parse (7 + Column.frequencies - 4) (by decide), parse (8 + Column.frequencies - 4) (by decide),
      same Column.autoIncrement (by decide) (by decide)]
  simp only [App.startExperiment, settings]

/-- The screen can be opened at any time: an open one is left first. -/
theorem ExperimentApp.run_onCreate (read : initSummary entry = .ok summary) (app : ExperimentApp String) :
    forEach ((if app.screen.isSome then [.left] else []) ++ [.opened]) (appStep entry) app =
      some app.onCreate := by
  have opened (closed : ExperimentApp String) (hidden : closed.screen = none) :
      appStep entry .opened closed = some closed.onCreate := by
    simp only [appStep, hidden, closedStep, read]
  cases front : app.screen with
  | none =>
    rw [Option.isSome_none, if_neg Bool.false_ne_true, List.nil_append, forEach_cons, opened app front]
    rfl
  | some screen =>
    have left : appStep entry .left app = some app.close := by simp [appStep, front, screenStep]
    rw [Option.isSome_some, if_pos rfl, List.singleton_append, forEach_cons, left, Option.bind_eq_bind,
      Option.bind_some, forEach_cons, opened app.close rfl]
    rfl

namespace Phone

variable {platform : Platform} {prompt : Prop} {phone middle next : Phone} {number : BitVec 32}
    {entry : Entry}

/-- Events that happen only while the screen of the experiment is in front. -/
def own (number : BitVec 32) (phone : Phone) (events : List (AppEvent String)) : List (AppEvent String) :=
  if (phone.screen.shown number).isSome then events else []

def opening (number : BitVec 32) (next : Phone) : List (AppEvent String) :=
  if (next.screen.shown number).isSome then [.opened] else []

def closing (number : BitVec 32) (next : Phone) : List (AppEvent String) :=
  if (next.screen.shown number).isSome then [] else [.left]

def filing (number : BitVec 32) (phone next : Phone) : List (AppEvent String) :=
  if next.files number = phone.files number then [] else [.createCsv]

/-- What a step of the app is on the screen of an experiment, while that is in front. -/
def onScreen (number : BitVec 32) (event : PhoneEvent) (phone next : Phone) : List (AppEvent String) :=
  match event with
  | .connection connected => [.connection connected]
  | .general status => [.general status]
  | .start power hours minutes seconds => [.start power hours minutes seconds]
  | .received fields => [.received fields]
  | .countedDown .. => .countedDown false :: (filing number phone next ++ closing number next)
  | .recreated | .startNextExperiment => .left :: opening number next
  | _ => filing number phone next ++ closing number next

/-- What a step of the app is for one experiment. While another screen is in front it is at
most that the screen of the experiment is opened. -/
def observed (number : BitVec 32) (event : PhoneEvent) (phone next : Phone) : List (AppEvent String) :=
  if (phone.screen.shown number).isSome then onScreen number event phone next else opening number next

def Linked (platform : Platform) (entry : Entry) (number : BitVec 32) (phone : Phone) : Prop :=
  ∃ record, phone.record platform number = some record ∧ entry.SameSettings record ∧
    (record.IsReady ∨ record.IsFinished)

/-- The experiment still exists, and the model with one experiment gets there by these events. -/
structure Follows (platform : Platform) (entry : Entry) (number : BitVec 32)
    (events : List (AppEvent String)) (phone next : Phone) : Prop where
  linked : Linked platform entry number next
  run : forEach events (appStep entry) (phone.view platform number) = some (next.view platform number)

theorem Follows.trans (first : Follows platform entry number steps phone middle)
    (second : Follows platform entry number more middle next) :
    Follows platform entry number (steps ++ more) phone next := by
  refine ⟨second.linked, ?_⟩
  rw [forEach_append, first.run]
  exact second.run

theorem own_append (number : BitVec 32) (phone : Phone) (steps more : List (AppEvent String)) :
    own number phone (steps ++ more) = own number phone steps ++ own number phone more := by
  unfold own
  split <;> simp

theorem own_congr (same : (middle.screen.shown number).isSome = (phone.screen.shown number).isSome)
    (steps : List (AppEvent String)) : own number middle steps = own number phone steps := by
  rw [own, own, same]

theorem own_hidden (hidden : phone.screen.shown number = none) (steps : List (AppEvent String)) :
    own number phone steps = [] := by
  simp [own, hidden]

/-- One part of a step after another, with the screen in front, or not, all along. -/
theorem Follows.and_then (first : Follows platform entry number (own number phone steps) phone middle)
    (same : (middle.screen.shown number).isSome = (phone.screen.shown number).isSome)
    (second : Follows platform entry number (own number middle more) middle next) :
    Follows platform entry number (own number phone (steps ++ more)) phone next := by
  rw [own_append, ← own_congr same more]
  exact first.trans second

/-- While another screen is in front the experiment is left alone. -/
theorem Follows.to_observed (follows : Follows platform entry number (own number phone steps) phone next)
    (listed : (phone.screen.shown number).isSome → phone.observed number event next = steps) :
    Follows platform entry number (phone.observed number event next) phone next := by
  by_cases front : (phone.screen.shown number).isSome
  · rw [listed front]
    rwa [own, if_pos front] at follows
  · have hidden : phone.screen.shown number = none := by simpa using front
    rw [own_hidden hidden] at follows
    have same : phone.view platform number = next.view platform number := Option.some.inj follows.run
    have still : next.screen.shown number = none := (congrArg ExperimentApp.screen same).symm.trans hidden
    have silent : phone.observed number event next = [] := by simp [observed, opening, hidden, still]
    rw [silent]
    exact follows

theorem Linked.keeps (linked : Linked platform entry number phone)
    (keeps : Keeps platform number phone next) :
    Linked platform entry number next := by
  obtain ⟨record, found, same, state⟩ := linked
  obtain ⟨new, stored, early⟩ := keeps.record record found
  have still := early Column.state (by decide)
  exact ⟨new, stored, fun column front other => (early column front).trans (same column front other),
    state.imp still.trans still.trans⟩

/-- Nothing happens to the experiment, but its screen may be closed. -/
theorem Follows.keeps (linked : Linked platform entry number phone) (keeps : Keeps platform number phone next)
    (files : next.files number = phone.files number)
    (screen : next.screen.shown number = phone.screen.shown number ∨ next.screen.shown number = none) :
    Follows platform entry number (own number phone (closing number next)) phone next := by
  refine ⟨linked.keeps keeps, ?_⟩
  obtain ⟨record, found, -⟩ := linked
  have view := keeps.view found
  rw [files] at view
  cases front : phone.screen.shown number with
  | none =>
    have hidden : next.screen.shown number = none := screen.elim (·.trans front) id
    rw [own_hidden front, view, hidden, ← front]
    rfl
  | some shown =>
    rcases screen with same | closed
    · have silent : own number phone (closing number next) = [] := by simp [own, closing, same, front]
      rw [silent, view, same]
      rfl
    · have left : own number phone (closing number next) = [.left] := by simp [own, closing, front, closed]
      have opened : (phone.view platform number).screen = some shown := front
      rw [left, view, closed, forEach_cons, appStep, opened]
      rfl

theorem Follows.calm (linked : Linked platform entry number phone) (calm : Calm number phone next) :
    Follows platform entry number (own number phone (closing number next)) phone next :=
  .keeps linked calm.keeps calm.files calm.screen

theorem Follows.unseen (linked : Linked platform entry number phone)
    (keeps : Keeps platform number phone next)
    (files : next.files number = phone.files number)
    (same : next.screen.shown number = phone.screen.shown number) :
    Follows platform entry number [] phone next := by
  have silent : own number phone (closing number next) = [] := by
    rw [own, closing, same]
    split <;> rfl
  rw [← silent]
  exact .keeps linked keeps files (.inl same)

/-- The model follows, and then a file may be made and the screen be closed. -/
def Ends (platform : Platform) (entry : Entry) (number : BitVec 32) (steps : List (AppEvent String))
    (phone next : Phone) : Prop :=
  Follows platform entry number
    (own number phone (steps ++ (filing number phone next ++ closing number next)))
    phone next

theorem Ends.of_filed
    (first : Follows platform entry number
      (own number phone (steps ++ filing number phone middle)) phone middle)
    (same : (middle.screen.shown number).isSome = (phone.screen.shown number).isSome)
    (calm : Calm number middle next) : Ends platform entry number steps phone next := by
  have filed : filing number phone next = filing number phone middle := by
    rw [filing, calm.files, filing]
  rw [Ends, filed, ← List.append_assoc]
  exact first.and_then same (.calm first.linked calm)

theorem Ends.of_unfiled (first : Follows platform entry number (own number phone steps) phone middle)
    (files : middle.files number = phone.files number)
    (same : (middle.screen.shown number).isSome = (phone.screen.shown number).isSome)
    (calm : Calm number middle next) : Ends platform entry number steps phone next := by
  refine .of_filed ?_ same calm
  rw [filing, if_pos files, List.append_nil]
  exact first

theorem Ends.calm (linked : Linked platform entry number phone) (calm : Calm number phone next) :
    Ends platform entry number [] phone next := by
  refine .of_unfiled ⟨linked, ?_⟩ rfl rfl calm
  rw [own, ite_self]
  rfl

def Reopens (platform : Platform) (entry : Entry) (number : BitVec 32) (phone next : Phone) : Prop :=
  Follows platform entry number (own number phone [.left] ++ opening number next) phone next

theorem Reopens.calm (linked : Linked platform entry number phone) (calm : Calm number phone next)
    (hidden : next.screen.shown number = none) : Reopens platform entry number phone next := by
  have steps : own number phone [.left] ++ opening number next = own number phone (closing number next) := by
    simp [opening, closing, hidden]
  rw [Reopens, steps]
  exact .calm linked calm

theorem Reopens.after (linked : Linked platform entry number phone) (calm : Calm number phone middle)
    (same : middle.screen.shown number = phone.screen.shown number)
    (reopens : Linked platform entry number middle → Reopens platform entry number middle next) :
    Reopens platform entry number phone next := by
  have moved : Follows platform entry number [] phone middle := .unseen linked calm.keeps calm.files same
  have left : own number middle [.left] = own number phone [.left] := own_congr (by rw [same]) _
  rw [Reopens, ← left]
  exact moved.trans (reopens moved.linked)

theorem Reopens.opened (linked : Linked platform entry number phone) {record : Entry}
    (found : phone.record platform number = some record) (read : initSummary record = .ok summary)
    (calm : Calm number phone middle) (state : ready = decide (record.experimentState = .ready)) :
    Reopens platform entry number phone
      (middle.display (.startExperiment (.opened number record ready))) := by
  have keeps : Keeps platform number phone
      (middle.display (.startExperiment (.opened number record ready))) := calm.keeps.trans (.of_calls rfl)
  refine ⟨linked.keeps keeps, ?_⟩
  obtain ⟨same, found', settings, -⟩ := linked
  obtain rfl : record = same := Option.some.inj (found.symm.trans found')
  have view : (middle.display (.startExperiment (.opened number record ready))).view platform number =
      (phone.view platform number).onCreate := by
    have held : (phone.view platform number).state = record.experimentState := by simp [Phone.view, found]
    have files : (middle.display (.startExperiment (.opened number record ready))).files number =
        phone.files number := calm.files
    rw [keeps.view found, files, ExperimentApp.onCreate, held, state]
    simp [Phone.display, Screen.shown, StartExperimentScreen.opened, Phone.view, found]
  have opens : opening number (middle.display (.startExperiment (.opened number record ready))) =
      [.opened] := by
    simp [opening, Phone.display, Screen.shown, StartExperimentScreen.opened]
  rw [view, opens]
  exact ExperimentApp.run_onCreate (settings.initSummary.symm.trans read) _

theorem Ends.to_observed (ends : Ends platform entry number steps phone next)
    (listed : (phone.screen.shown number).isSome →
      phone.observed number event next = steps ++ (filing number phone next ++ closing number next)) :
    Follows platform entry number (phone.observed number event next) phone next :=
  Follows.to_observed ends listed

theorem Reopens.to_observed (reopens : Reopens platform entry number phone next)
    (listed : (phone.screen.shown number).isSome →
      phone.observed number event next = .left :: opening number next) :
    Follows platform entry number (phone.observed number event next) phone next := by
  by_cases front : (phone.screen.shown number).isSome
  · rw [Reopens, own, if_pos front] at reopens
    rw [listed front]
    exact reopens
  · rw [Reopens, own, if_neg front] at reopens
    rw [observed, if_neg front]
    exact reopens

theorem experimentState_ready {record : Entry} (state : record.get Column.state = some text)
    (sound : record.IsReady ∨ record.IsFinished) :
    decide (text = "ready") = decide (record.experimentState = .ready) := by
  rcases sound with ready | finished
  · obtain rfl : text = "ready" := Option.some.inj (state.symm.trans ready)
    simp [Entry.experimentState, state]
  · obtain rfl : text = "finished" := Option.some.inj (state.symm.trans finished)
    simp [Entry.experimentState, state]

/-- `onCreate` opens the screen of the experiment, or closes it for another one. -/
theorem Reopens.onCreate (linked : Linked platform entry number phone) (other : BitVec 32) :
    Reopens platform entry number phone (phone.onCreate platform other) := by
  rw [Phone.onCreate, Phone.withRecord]
  split
  · exact .calm linked (.crash number _ phone) rfl
  · rename_i record found
    split
    · exact .calm linked (.crash number _ phone) rfl
    · rename_i summary read
      have calm : Calm number phone (phone.write (updates other (summaryValues summary))) :=
        .write number phone (late_updates ["number_of_iterations", "duration"] rfl (by decide) other)
      rw [Phone.withState]
      split
      · exact .calm linked (calm.trans (.crash number _ _)) rfl
      · rename_i text state
        have shows (ready : Bool) (known : ready = decide (text = "ready")) :
            Reopens platform entry number phone
            ((phone.write (updates other (summaryValues summary))).display
              (.startExperiment (.opened other record ready))) := by
          by_cases mine : other = number
          · subst mine
            have link := linked
            obtain ⟨same, found', -, sound⟩ := link
            obtain rfl : record = same := Option.some.inj (found.symm.trans found')
            exact .opened linked found read calm (known.trans (experimentState_ready state sound))
          · have hidden : (Screen.startExperiment (.opened other record ready)).shown number = none :=
              if_neg mine
            exact .calm linked (calm.trans (.display _ (.inr hidden))) hidden
        split
        · rename_i ready
          split
          · exact .calm linked (calm.trans (.crash number _ _)) rfl
          · exact shows true ready.symm
        · rename_i finished
          exact shows false (by simpa using finished)

theorem view_front {screen : StartExperimentScreen} (front : phone.screen = .startExperiment screen)
    (mine : screen.experimentNumber = number) : (phone.view platform number).screen = some screen.screen := by
  simp [Phone.view, front, Screen.shown, mine]

section

variable {screen after : StartExperimentScreen}

theorem shown_other (front : phone.screen = .startExperiment screen)
    (other : screen.experimentNumber ≠ number) :
    phone.screen.shown number = none := by
  rw [front]
  exact if_neg other

theorem own_front (front : phone.screen = .startExperiment screen) (mine : screen.experimentNumber = number)
    (steps : List (AppEvent String)) : own number phone steps = steps := by
  simp [own, front, Screen.shown, mine]

theorem isSome_shown (front : phone.screen = .startExperiment screen)
    (same : after.experimentNumber = screen.experimentNumber) :
    ((Screen.startExperiment after).shown number).isSome = (phone.screen.shown number).isSome := by
  rw [front, Screen.shown, Screen.shown, same]
  split <;> rfl

/-- An event on the screen of one experiment changes at most that screen. -/
theorem Follows.on_screen (linked : Linked platform entry number phone)
    (front : phone.screen = .startExperiment screen) (keeps : Keeps platform number phone next)
    (files : next.files number = phone.files number)
    (still : screen.experimentNumber ≠ number → next.screen.shown number = none) (event : AppEvent String)
    (taken : screen.experimentNumber = number →
      screenStep entry event screen.screen (phone.view platform number) =
        some { phone.view platform number with screen := next.screen.shown number }) :
    Follows platform entry number (own number phone [event]) phone next := by
  refine ⟨linked.keeps keeps, ?_⟩
  obtain ⟨record, found, -⟩ := linked
  rw [keeps.view found, files]
  by_cases mine : screen.experimentNumber = number
  · rw [own_front front mine, forEach_cons, appStep, view_front front mine]
    dsimp only
    rw [taken mine]
    rfl
  · have hidden := shown_other front mine
    rw [own_hidden hidden, still mine, ← hidden]
    rfl

theorem Follows.display (linked : Linked platform entry number phone)
    (front : phone.screen = .startExperiment screen) (same : after.experimentNumber = screen.experimentNumber)
    (keeps : Keeps platform number phone middle) (files : middle.files number = phone.files number)
    (event : AppEvent String)
    (taken : screenStep entry event screen.screen (phone.view platform number) =
      some { phone.view platform number with screen := some after.screen }) :
    Follows platform entry number (own number phone [event]) phone
      (middle.display (.startExperiment after)) := by
  have kept : Keeps platform number phone (middle.display (.startExperiment after)) :=
    keeps.trans (.of_calls rfl)
  refine .on_screen linked front kept files (fun other => ?_) event fun mine => ?_
  · exact if_neg (same ▸ other)
  · have shown : (middle.display (.startExperiment after)).screen.shown number = some after.screen :=
      if_pos (same.trans mine)
    rw [shown]
    exact taken

theorem receive_rows (dbEntries : Option (Entries String)) (rows : List (Entries String))
    (fields : Fields String) :
    ResultLog.receive ⟨dbEntries, rows⟩ fields =
      ⟨(ResultLog.receive ⟨dbEntries, []⟩ fields).dbEntries,
        rows ++ (ResultLog.receive ⟨dbEntries, []⟩ fields).rows⟩ := by
  cases dbEntries <;> simp [ResultLog.receive]

theorem Follows.logged (consistent : Consistent platform phone) (linked : Linked platform entry number phone)
    (front : phone.screen = .startExperiment screen) (registered : screen.screen.justShowingInfo = false)
    (fields : Fields String) :
    Follows platform entry number (own number phone [.received (some fields)]) phone
      (phone.broadcastStep (.received (some fields)) screen) := by
  by_cases mine : screen.experimentNumber = number
  · subst mine
    obtain ⟨record, found, settings, state⟩ := linked
    obtain ⟨rows, table⟩ := Option.isSome_iff_exists.mp
      (consistent.separate.tables screen.experimentNumber (Option.isSome_of_eq_some found))
    have kept :
        (phone.broadcastStep (.received (some fields)) screen).record platform screen.experimentNumber =
        some record := (record_rows platform phone screen.experimentNumber _).trans found
    have logged : ((phone.broadcastStep (.received (some fields)) screen).store platform).exportedRows
        screen.experimentNumber =
          some (rows ++ (ResultLog.receive ⟨screen.screen.dbEntries, []⟩ fields).rows) := by
      refine (exportedRows_rows platform phone screen.experimentNumber _).trans ?_
      rw [if_pos rfl, table]
      rfl
    have files : (phone.broadcastStep (.received (some fields)) screen).files = phone.files := rfl
    have shown : (phone.broadcastStep (.received (some fields)) screen).screen.shown screen.experimentNumber =
        some { screen.screen with
          dbEntries := (ResultLog.receive ⟨screen.screen.dbEntries, []⟩ fields).dbEntries } :=
      if_pos rfl
    refine ⟨⟨record, kept, settings, state⟩, ?_⟩
    rw [own_front front rfl, forEach_cons, appStep, view_front front rfl]
    simp only [screenStep, registered, Bool.false_eq_true, if_false, ExperimentApp.receive]
    rw [receive_rows]
    simp [forEach_nil, Phone.view, kept, logged, found, table, files, shown, registered]
  · have hidden := shown_other front mine
    rw [own_hidden hidden]
    exact .unseen linked ((Keeps.rows_other mine _).trans (.of_calls rfl)) rfl
      ((if_neg mine).trans hidden.symm)

theorem Follows.ignored (linked : Linked platform entry number phone)
    (front : phone.screen = .startExperiment screen) (event : AppEvent String)
    (taken : screenStep entry event screen.screen (phone.view platform number) =
      some (phone.view platform number)) :
    Follows platform entry number (own number phone [event]) phone phone :=
  .on_screen linked front (.of_calls rfl) rfl (shown_other front) event fun _ => taken

theorem Follows.crashes (linked : Linked platform entry number phone)
    (front : phone.screen = .startExperiment screen) (event : AppEvent String) (fault : Fault)
    (taken : screen.experimentNumber = number →
      screenStep entry event screen.screen (phone.view platform number) =
        some (phone.view platform number).close) :
    Follows platform entry number (own number phone [event]) phone (phone.crash fault) := by
  have kept : Keeps platform number phone (phone.crash fault) := .of_calls rfl
  exact .on_screen linked front kept rfl (fun _ => rfl) event taken

theorem Follows.connection (linked : Linked platform entry number phone)
    (front : phone.screen = .startExperiment screen) (connected : Bool) :
    Follows platform entry number (own number phone [.connection connected]) phone
      (if screen.screen.justShowingInfo then phone
        else phone.broadcastStep (.connection connected) screen) := by
  split
  · rename_i info
    exact .ignored linked front (.connection connected) (by simp [screenStep, info])
  · rename_i registered
    refine .display linked front ?_ (.of_calls rfl) rfl (.connection connected) ?_
    · rfl
    · simp [screenStep, registered]

theorem Follows.general (linked : Linked platform entry number phone)
    (front : phone.screen = .startExperiment screen) (status : Int) :
    Follows platform entry number (own number phone [.general status]) phone
      (if screen.screen.justShowingInfo then phone else phone.broadcastStep (.general status) screen) := by
  split
  · rename_i info
    exact .ignored linked front (.general status) (by simp [screenStep, info])
  · rename_i registered
    by_cases configured : status = -2
    · rw [broadcastStep, if_pos configured]
      refine .display linked front ?_ (.of_calls rfl) rfl (.general status) ?_
      · rfl
      · simp [screenStep, registered, ExperimentApp.general, configured]
    · by_cases acknowledged : status = -6
      · rw [broadcastStep, if_neg configured, if_pos acknowledged]
        refine .display linked front ?_ (.of_calls rfl) rfl (.general status) ?_
        · rfl
        · simp [screenStep, registered, ExperimentApp.general, acknowledged]
      · rw [broadcastStep, if_neg configured, if_neg acknowledged]
        exact .ignored linked front (.general status)
          (by simp [screenStep, registered, ExperimentApp.general, configured, acknowledged])

theorem Follows.received (consistent : Consistent platform phone)
    (linked : Linked platform entry number phone)
    (front : phone.screen = .startExperiment screen) (fields : Option (Fields String)) :
    Follows platform entry number (own number phone [.received fields]) phone
      (if screen.screen.justShowingInfo then phone else phone.broadcastStep (.received fields) screen) := by
  split
  · rename_i info
    exact .ignored linked front (.received fields) (by simp [screenStep, info])
  · rename_i registered
    cases fields with
    | none =>
      exact .crashes linked front (.received none) .broadcast fun _ => by
        simp [screenStep, registered, ExperimentApp.receive]
    | some fields => exact .logged consistent linked front (by simpa using registered) fields

theorem Ends.startMeasurement (linked : Linked platform entry number phone)
    (front : phone.screen = .startExperiment screen) (running : screen.screen.timer = some .delay) (now : Nat)
    (currentLocation : Option Location) :
    Ends platform entry number [.countedDown false] phone
      (phone.startMeasurement now currentLocation screen) := by
  have late : ∀ call ∈ updates screen.experimentNumber (("start_time", toString now) ::
      if screen.gpsLogged then [] else receiverPosition currentLocation), call.late = true := by
    split
    · exact late_updates ["start_time"] rfl (by decide) _
    · exact late_updates ["start_time", "receiver_latitude", "receiver_longitude", "receiver_altitude"] rfl
        (by decide) _
  have measured : Follows platform entry number (own number phone [.countedDown false]) phone
      (phone.startMeasurement now currentLocation screen) := by
    refine .display linked front ?_ (.write late) rfl (.countedDown false) ?_
    · rfl
    · simp [screenStep, running, ExperimentApp.countedDown]
  exact .of_unfiled measured rfl (isSome_shown front rfl) (.refl number _)

theorem Follows.makeCSV (linked : Linked platform entry number phone)
    (front : phone.screen = .startExperiment screen)
    (finished : ∀ record, phone.record platform screen.experimentNumber = some record → record.IsFinished)
    (table : (phone.store platform).exportedRows screen.experimentNumber = some rows)
    (mine : screen.experimentNumber = number) :
    Follows platform entry number [.createCsv] phone (phone.makeCSV screen.experimentNumber rows) := by
  have keeps : Keeps platform number phone (phone.makeCSV screen.experimentNumber rows) := .of_calls rfl
  subst mine
  refine ⟨linked.keeps keeps, ?_⟩
  obtain ⟨record, found, -⟩ := linked
  have state : (phone.view platform screen.experimentNumber).state = .finished := by
    have held : record.get Column.state = some "finished" := finished record found
    simp [Phone.view, found, Entry.experimentState, held]
  have made : screenStep entry .createCsv screen.screen (phone.view platform screen.experimentNumber) =
      some (phone.view platform screen.experimentNumber).makeCSV := if_pos state
  simp only [forEach_cons, appStep, view_front front rfl, made, keeps.view found]
  simp [forEach_nil, ExperimentApp.makeCSV, Phone.makeCSV, Phone.view, table]

theorem isFinished_written (platform : Platform) (phone : Phone) (other : BitVec 32) {record : Entry}
    (found : (phone.write (updates other [("state", "finished")])).record platform other = some record) :
    record.IsFinished := by
  rw [record_updates platform phone other (by decide), if_pos rfl] at found
  obtain ⟨old, -, rfl⟩ := Option.map_eq_some_iff.mp found
  have column := columnOf_eq "finished" (show infoColumns[Column.state]? = some "state" from rfl)
  rw [Entry.IsFinished, Entry.update_cons, Entry.update_nil, column, get_set_self _ _ (by decide)]

theorem Follows.finished (linked : Linked platform entry number phone)
    (front : phone.screen = .startExperiment screen) (running : screen.screen.timer = some .duration)
    (same : after.experimentNumber = screen.experimentNumber)
    (ended : after.screen = { screen.screen with timer := none, connected := false }) :
    Follows platform entry number (own number phone [.countedDown false]) phone
      ((phone.write (updates screen.experimentNumber [("state", "finished")])).display
        (.startExperiment after)) := by
  have inside : ∀ value ∈ [("state", "finished")], 0 < columnOf value ∧ columnOf value < 34 := by decide
  by_cases mine : screen.experimentNumber = number
  · subst mine
    obtain ⟨record, found, settings, -⟩ := linked
    have stored : ((phone.write (updates screen.experimentNumber [("state", "finished")])).display
        (.startExperiment after)).record platform screen.experimentNumber =
          some (record.update [("state", "finished")]) := by
      refine (record_updates platform phone screen.experimentNumber inside _).trans ?_
      rw [if_pos rfl, found]
      rfl
    have column := columnOf_eq "finished" (show infoColumns[Column.state]? = some "state" from rfl)
    have finished := isFinished_written platform phone screen.experimentNumber stored
    have state : (record.update [("state", "finished")]).experimentState = .finished := if_pos finished
    refine ⟨⟨_, stored, fun place early other => ?_, .inr finished⟩, ?_⟩
    · rw [Entry.get_update _ (by simpa [column] using other)]
      exact settings place early other
    · have table : (((phone.write (updates screen.experimentNumber [("state", "finished")])).display
          (.startExperiment after)).store platform).exportedRows screen.experimentNumber =
            (phone.store platform).exportedRows screen.experimentNumber :=
        exportedRows_updates platform phone screen.experimentNumber inside
      have shown : ((phone.write (updates screen.experimentNumber [("state", "finished")])).display
          (.startExperiment after)).screen.shown screen.experimentNumber =
            some { screen.screen with timer := none, connected := false } := by
        rw [← ended]
        exact if_pos same
      have files : ((phone.write (updates screen.experimentNumber [("state", "finished")])).display
          (.startExperiment after)).files = phone.files := rfl
      rw [own_front front rfl, forEach_cons, appStep, view_front front rfl]
      simp [forEach_nil, screenStep, running, ExperimentApp.countedDown, Phone.view, stored, state, table,
        shown, files]
  · have hidden := shown_other front mine
    have keeps : Keeps platform number phone
        (phone.write (updates screen.experimentNumber [("state", "finished")])) :=
      .updates_other (Ne.symm mine) inside
    rw [own_hidden hidden]
    exact .unseen linked (keeps.trans (.of_calls rfl)) rfl ((if_neg (same ▸ mine)).trans hidden.symm)

theorem withFile_cases (platform : Platform) (opens : Bool) (other : BitVec 32) (phone : Phone) :
    phone.withFile platform opens other = phone ∨
      ∃ rows, (phone.store platform).exportedRows other = some rows ∧
        phone.withFile platform opens other = phone.makeCSV other rows := by
  rw [Phone.withFile]
  split
  · cases table : (phone.store platform).exportedRows other with
    | none => exact .inl rfl
    | some rows => exact .inr ⟨rows, rfl, rfl⟩
  · exact .inl rfl

theorem withFile_display (platform : Platform) (opens : Bool) (other : BitVec 32) (phone : Phone)
    (screen : Screen) :
    (phone.withFile platform opens other).display screen =
        (phone.display screen).withFile platform opens other := by
  have same : (phone.display screen).store platform = phone.store platform := rfl
  rw [Phone.withFile, Phone.withFile, same]
  split
  · split <;> rfl
  · rfl

theorem withFile_screen (platform : Platform) (opens : Bool) (other : BitVec 32) (phone : Phone) :
    (phone.withFile platform opens other).screen = phone.screen := by
  rcases withFile_cases platform opens other phone with same | ⟨rows, -, made⟩
  · rw [same]
  · rw [made]
    rfl

theorem files_withFile (platform : Platform) (opens : Bool) (phone : Phone) (different : other ≠ number) :
    (phone.withFile platform opens other).files number = phone.files number := by
  rcases withFile_cases platform opens other phone with same | ⟨rows, -, made⟩
  · rw [same]
  · rw [made]
    exact Function.update_of_ne (Ne.symm different) _ _

theorem Follows.withFile (linked : Linked platform entry number phone)
    (front : phone.screen = .startExperiment screen)
    (finished : ∀ record, phone.record platform screen.experimentNumber = some record → record.IsFinished)
    (opens : Bool) :
    Follows platform entry number
      (own number phone (filing number phone (phone.withFile platform opens screen.experimentNumber))) phone
      (phone.withFile platform opens screen.experimentNumber) := by
  obtain ⟨calls, -⟩ := withFile_frame platform opens screen.experimentNumber phone
  by_cases same : (phone.withFile platform opens screen.experimentNumber).files number = phone.files number
  · rw [filing, if_pos same, own, ite_self]
    exact .unseen linked (.of_calls calls) same (by rw [withFile_screen])
  · have mine : screen.experimentNumber = number := by
      by_contra other
      exact same (files_withFile platform opens phone other)
    rw [filing, if_neg same, own_front front mine]
    rcases withFile_cases platform opens screen.experimentNumber phone with unchanged | ⟨rows, table, made⟩
    · exact absurd (by rw [unchanged]) same
    · rw [made]
      exact .makeCSV linked front finished table mine

theorem Ends.automaticCsv (linked : Linked platform entry number phone)
    (front : phone.screen = .startExperiment screen) (running : screen.screen.timer = some .duration)
    (same : after.experimentNumber = screen.experimentNumber)
    (ended : after.screen = { screen.screen with timer := none, connected := false }) (online opens : Bool) :
    Ends platform entry number [.countedDown false] phone
      ((phone.write (updates screen.experimentNumber [("state", "finished")])).automaticCsv platform online
        opens after) := by
  have done := Follows.finished linked front running same ended
  have shown : (((phone.write (updates screen.experimentNumber [("state", "finished")])).display
      (.startExperiment after)).screen.shown number).isSome = (phone.screen.shown number).isSome :=
    isSome_shown front same
  refine withRecord_rule (fun fault => .of_unfiled done rfl shown (.crashed _ _ fault)) fun record _ => ?_
  split
  · have finished (record : Entry) (found : ((phone.write (updates screen.experimentNumber
        [("state", "finished")])).display (.startExperiment after)).record platform after.experimentNumber =
          some record) : record.IsFinished := by
      rw [same] at found
      exact isFinished_written platform phone screen.experimentNumber found
    have filed := Follows.withFile done.linked rfl finished opens
    rw [← withFile_display] at filed
    refine .of_filed (done.and_then shown filed) ?_ (.follow _ _ after _)
    rw [← shown]
    rfl
  · exact .of_unfiled done rfl shown (.follow _ _ after _)

theorem Ends.finishExperiment (linked : Linked platform entry number phone)
    (front : phone.screen = .startExperiment screen) (running : screen.screen.timer = some .duration)
    (online opens : Bool) :
    Ends platform entry number [.countedDown false] phone
      (phone.finishExperiment platform online opens screen) := by
  have ended (after : StartExperimentScreen) (same : after.experimentNumber = screen.experimentNumber)
      (stopped : after.screen = { screen.screen with timer := none, connected := false }) :
      Ends platform entry number [.countedDown false] phone
        ((phone.write (updates screen.experimentNumber [("state", "finished")])).automaticCsv platform online
          opens after) :=
    .automaticCsv linked front running same stopped online opens
  have crashed (fault : Fault) : Ends platform entry number [.countedDown false] phone
      ((phone.write (updates screen.experimentNumber [("state", "finished")])).crash fault) := by
    have done : Follows platform entry number (own number phone [.countedDown false]) phone
        ((phone.write (updates screen.experimentNumber [("state", "finished")])).display (.startExperiment
          { screen with screen := { screen.screen with timer := none, connected := false } })) :=
      .finished linked front running rfl rfl
    exact .of_unfiled done rfl (isSome_shown front rfl) (.crashed _ _ fault)
  rw [Phone.finishExperiment]
  dsimp only
  split
  · exact ended _ rfl rfl
  · exact withRecord_rule crashed fun record _ => withState_rule crashed record fun ready => ended _ rfl rfl

theorem Reopens.startNextExperiment (linked : Linked platform entry number phone) :
    Reopens platform entry number phone (phone.startNextExperiment platform screen) := by
  have crashed (fault : Fault) : Reopens platform entry number phone (phone.crash fault) :=
    .calm linked (.crash number fault phone) rfl
  rw [Phone.startNextExperiment]
  split
  · exact crashed _
  · rename_i following listed
    refine withRecord_rule crashed fun record _ => ?_
    have late : ∀ call ∈
        [DatabaseCall.setValueInExpInfo (record.get Column.senderLatitude) "sender_latitude" following,
        .setValueInExpInfo (record.get Column.senderLongitude) "sender_longitude" following,
        .setValueInExpInfo (record.get Column.senderAltitude) "sender_altitude" following],
          call.late = true := by
      simp only [List.forall_mem_cons, DatabaseCall.late, List.not_mem_nil, false_implies, implies_true,
        and_true]
      decide
    exact .after linked (.write number phone late) rfl fun moved => .onCreate moved following

theorem Follows.start (linked : Linked platform entry number phone)
    (front : phone.screen = .startExperiment screen) (visible : screen.screen.startButton = true)
    (loaded : ∀ record, phone.record platform screen.experimentNumber = some record →
      record.SameSettings screen.entry)
    (taken : phone.buttonStep platform (.start power hours minutes seconds) screen = some next) :
    Follows platform entry number (own number phone [.start power hours minutes seconds]) phone next := by
  have link := linked
  obtain ⟨record, found, stored, -⟩ := link
  have same (mine : screen.experimentNumber = number) :
      startExperiment screen.entry power hours minutes seconds =
        startExperiment entry power hours minutes seconds := by
    have held := loaded record (by rw [mine, found])
    have settings : entry.SameSettings screen.entry := fun column early other =>
      (held column early other).trans (stored column early other)
    exact settings.startExperiment power hours minutes seconds
  rw [Phone.buttonStep, if_pos visible] at taken
  obtain rfl := Option.some.inj taken
  split
  · rename_i exception failed
    refine .crashes linked front _ _ fun mine => ?_
    rw [same mine] at failed
    simp [screenStep, visible, ExperimentApp.start, failed]
  · rename_i settings written
    by_cases mine : screen.experimentNumber = number
    · rw [same mine] at written
      refine .display linked front ?_ (.of_calls rfl) rfl (.start power hours minutes seconds) ?_
      · rfl
      · simp [screenStep, visible, ExperimentApp.start, written]
    · have hidden := shown_other front mine
      rw [own_hidden hidden]
      exact .unseen linked (.of_calls rfl) rfl ((if_neg mine).trans hidden.symm)

theorem Follows.button (inv : Inv platform prompt phone) (linked : Linked platform entry number phone)
    (front : phone.screen = .startExperiment screen)
    (taken : phone.buttonStep platform event screen = some next) :
    Follows platform entry number (phone.observed number event next) phone next := by
  have on := inv.screen
  rw [front] at on
  obtain ⟨record, found, shows, -⟩ := on
  have crashed (fault : Fault) : Ends platform entry number [] phone (phone.crash fault) :=
    .calm linked (.crash number fault phone)
  cases event with
  | start power hours minutes seconds =>
    have visible : screen.screen.startButton = true := by
      by_contra hidden
      simp [Phone.buttonStep, hidden] at taken
    have started : Follows platform entry number (own number phone [.start power hours minutes seconds])
        phone next := by
      refine .start linked front visible (fun other found' => ?_) taken
      obtain rfl : record = other := Option.some.inj (found.symm.trans found')
      exact shows.loaded
    exact started.to_observed fun shown => if_pos shown
  | logLocation currentLocation orientation =>
    simp only [Phone.buttonStep] at taken
    split at taken
    · obtain rfl := Option.some.inj taken
      have logged : Calm number phone (phone.write (updates screen.experimentNumber
          (receiverPosition currentLocation ++ [("receiver_orientation", orientation)]))) :=
        .write number phone (late_updates
          ["receiver_latitude", "receiver_longitude", "receiver_altitude", "receiver_orientation"] rfl
          (by decide) screen.experimentNumber)
      have shown : (Screen.startExperiment { screen with gpsLogged := true }).shown number =
          phone.screen.shown number := by rw [front]; rfl
      exact (Ends.calm linked (logged.trans (.display _ (.inl shown)))).to_observed fun shown => if_pos shown
    · cases taken
  | createCsv opens =>
    simp only [Phone.buttonStep] at taken
    split at taken
    · rename_i visible
      obtain rfl := Option.some.inj taken
      refine Ends.to_observed (withRecord_rule crashed fun held _ => ?_) fun shown => if_pos shown
      have finished (other : Entry) (found' : phone.record platform screen.experimentNumber = some other) :
          other.IsFinished := by
        obtain rfl : record = other := Option.some.inj (found.symm.trans found')
        exact shows.finished (.inl visible)
      have filed := Follows.withFile linked front finished opens
      have shown := withFile_screen platform opens screen.experimentNumber phone
      have displayed : (Screen.startExperiment screen).shown number =
          (phone.withFile platform opens screen.experimentNumber).screen.shown number := by rw [shown, front]
      exact .of_filed filed (by rw [shown]) (Calm.trans (.display _ (.inl displayed)) (.follow _ _ screen _))
    · cases taken
  | startNextExperiment =>
    simp only [Phone.buttonStep] at taken
    split at taken
    · obtain rfl := Option.some.inj taken
      exact (Reopens.startNextExperiment linked).to_observed fun shown => if_pos shown
    · cases taken
  | left =>
    obtain rfl := Option.some.inj taken
    exact Ends.to_observed (withRecord_rule crashed fun record _ => withState_rule crashed record fun _ =>
      .calm linked (.display phone (.inr rfl))) fun shown => if_pos shown
  | _ => cases taken

theorem Follows.dialog (linked : Linked platform entry number phone)
    (front : phone.screen = .startExperiment screen)
    (taken : phone.dialogStep platform event column screen = some next) :
    Follows platform entry number (phone.observed number event next) phone next := by
  have shown : (Screen.startExperiment { screen with dialog := none }).shown number =
      phone.screen.shown number := by rw [front]; rfl
  cases event with
  | confirm loc =>
    obtain ⟨locationIdentifier, listed, rfl⟩ := Option.map_eq_some_iff.mp taken
    have named : ∀ name ∈ locationIdentifiers, name ∈ infoColumns.drop 17 := by decide
    have entered : Calm number phone
        (phone.write (updates screen.experimentNumber [(locationIdentifier, loc)])) :=
      .write number phone (late_updates [locationIdentifier] rfl
        (by simpa using named _ (List.mem_of_getElem? listed)) _)
    have asked : Calm number (phone.write (updates screen.experimentNumber [(locationIdentifier, loc)]))
        ((phone.write (updates screen.experimentNumber [(locationIdentifier, loc)])).display
          (.startExperiment { screen with dialog := none })) := .display _ (.inl shown)
    refine (Ends.calm linked (entered.trans ?_)).to_observed fun shown => if_pos shown
    exact withRecord_rule (fun fault => .crash number fault _) fun record _ => asked.trans (.follow _ _ _ _)
  | dismiss =>
    obtain rfl := Option.some.inj taken
    exact (Ends.calm linked (.display phone (.inl shown))).to_observed fun shown => if_pos shown
  | _ => cases taken

theorem Follows.user (inv : Inv platform prompt phone) (linked : Linked platform entry number phone)
    (front : phone.screen = .startExperiment screen)
    (taken : phone.userStep platform event screen = some next) :
    Follows platform entry number (phone.observed number event next) phone next := by
  unfold Phone.userStep at taken
  split at taken
  · exact .button inv linked front taken
  · exact .dialog linked front taken

theorem Follows.experiment (inv : Inv platform prompt phone) (linked : Linked platform entry number phone)
    (front : phone.screen = .startExperiment screen)
    (taken : phone.experimentStep platform event screen = some next) :
    Follows platform entry number (phone.observed number event next) phone next := by
  cases event with
  | connection connected =>
    obtain rfl := Option.some.inj taken
    exact (Follows.connection linked front connected).to_observed fun shown => if_pos shown
  | general status =>
    obtain rfl := Option.some.inj taken
    exact (Follows.general linked front status).to_observed fun shown => if_pos shown
  | received fields =>
    obtain rfl := Option.some.inj taken
    exact (Follows.received inv.toConsistent linked front fields).to_observed fun shown => if_pos shown
  | countedDown now currentLocation online opens =>
    obtain ⟨countdown, running, rfl⟩ := Option.map_eq_some_iff.mp taken
    cases countdown with
    | delay =>
      exact (Ends.startMeasurement linked front running now currentLocation).to_observed
        fun shown => if_pos shown
    | duration =>
      exact (Ends.finishExperiment linked front running online opens).to_observed fun shown => if_pos shown
  | recreated =>
    obtain rfl := Option.some.inj taken
    exact (Reopens.onCreate linked _).to_observed fun shown => if_pos shown
  | _ => exact .user inv linked front taken

end

theorem Ends.weather (linked : Linked platform entry number phone)
    (taken : phone.weatherStep platform other values opens = some next) :
    Ends platform entry number [] phone next := by
  have started : Calm number phone { phone with fetching := phone.fetching.erase other } :=
    ⟨⟨[], by simp, by simp⟩, rfl, .inl rfl⟩
  unfold Phone.weatherStep at taken
  split at taken
  · cases values with
    | none =>
      obtain rfl := Option.some.inj taken
      exact .calm linked started
    | some values =>
      have behind : ∀ name ∈ weatherColumns, name ∈ infoColumns.drop 17 := by decide
      have late : ∀ call ∈ updates other (weatherColumns.zip values), call.late = true := by
        refine late_updates _ rfl (fun name member => ?_) other
        obtain ⟨value, paired, rfl⟩ := List.mem_map.mp member
        exact behind _ (List.of_mem_zip paired).1
      have stored := started.trans (.write number _ late)
      dsimp only at taken
      split at taken
      · obtain rfl := Option.some.inj taken
        exact .calm linked stored
      · split at taken
        · obtain rfl := Option.some.inj taken
          exact .calm linked (stored.trans (.crash number _ _))
        · split at taken
          · obtain rfl := Option.some.inj taken
            exact .calm linked (stored.trans ⟨⟨[], by simp, by simp⟩, rfl, .inl rfl⟩)
          · obtain rfl := Option.some.inj taken
            exact .calm linked stored
  · cases taken

theorem Keeps.delete (different : other ≠ number) :
    Keeps platform number phone (phone.write [.deleteExperiment other]) := by
  refine ⟨fun old found => ⟨old, ?_, fun _ _ => rfl⟩, ?_⟩
  · rw [Phone.record, store_write, DatabaseCall.perform, getExperimentInfo_deleteExperiment, if_neg different]
    exact found
  · rw [store_write, DatabaseCall.perform, exportedRows_deleteExperiment, if_neg different]

theorem record_delete (platform : Platform) (phone : Phone) (number : BitVec 32) :
    (phone.write [.deleteExperiment number]).record platform number = none := by
  rw [record, store_write, DatabaseCall.perform, getExperimentInfo_deleteExperiment, if_pos rfl]

/-- Another screen than that of an experiment is in front, and the experiment's may be opened. -/
theorem Reopens.hidden (hidden : phone.screen.shown number = none)
    (reopens : Reopens platform entry number phone next) :
    Follows platform entry number (phone.observed number event next) phone next :=
  reopens.to_observed fun shown => by simp [hidden] at shown

theorem Reopens.crash (linked : Linked platform entry number phone) (fault : Fault) :
    Reopens platform entry number phone (phone.crash fault) :=
  .calm linked (.crash number fault phone) rfl

theorem Reopens.keeps (linked : Linked platform entry number phone) (keeps : Keeps platform number phone next)
    (files : next.files number = phone.files number) (hidden : next.screen.shown number = none) :
    Reopens platform entry number phone next := by
  have steps : own number phone [.left] ++ opening number next = own number phone (closing number next) := by
    simp [opening, closing, hidden]
  rw [Reopens, steps]
  exact .keeps linked keeps files (.inr hidden)

theorem Reopens.overview {absoluteIds : List (BitVec 32)} (linked : Linked platform entry number phone)
    (front : phone.screen.shown number = none)
    (taken : phone.overviewStep platform event absoluteIds = some next) :
    next.record platform number = none ∨ Reopens platform entry number phone next := by
  cases event with
  | newExperiment | left =>
    obtain rfl := Option.some.inj taken
    exact .inr (.calm linked (.display phone (.inr rfl)) rfl)
  | select position =>
    obtain ⟨id, -, rfl⟩ := Option.map_eq_some_iff.mp taken
    refine .inr (withRecord_rule (.crash linked) fun record _ =>
      withState_rule (.crash linked) record fun _ => ?_)
    split
    · exact .calm linked (.display phone (.inr rfl)) rfl
    · exact .onCreate linked id
  | delete position =>
    obtain ⟨id, -, rfl⟩ := Option.map_eq_some_iff.mp taken
    by_cases mine : id = number
    · subst mine
      left
      dsimp only
      split
      · exact record_delete platform phone id
      · exact record_delete platform phone id
    · right
      have keeps : Keeps platform number phone (phone.write [.deleteExperiment id]) := .delete mine
      dsimp only
      split
      · exact .keeps linked (keeps.trans (.of_calls rfl)) rfl rfl
      · exact .keeps linked (keeps.trans (.of_calls rfl)) rfl rfl
  | connection | general | received =>
    obtain rfl := Option.some.inj taken
    exact .inr (.calm linked (.refl number phone) front)
  | _ => cases taken

theorem Keeps.create (consistent : Consistent platform phone) (room : created phone.calls + 1 < 2 ^ 31)
    (given : number.toInt ≤ created phone.calls) (form : Form) :
    Keeps platform number phone (phone.write [.create form.values]) := by
  have other : number.toInt ≠ created phone.calls + 1 := by omega
  have few : created (phone.calls ++ [.create form.values]) < 2 ^ 31 := by
    rw [created_append]
    exact room
  have plain : (DatabaseCall.create form.values).setsKey = false := rfl
  refine ⟨fun old found => ⟨old, ?_, fun _ _ => rfl⟩, ?_⟩
  · rw [(consistent.create room form).2.2, if_neg other, found]
  · rw [store_write, consistent.separate.exportedRows platform.affinity plain few]
    simp [DatabaseCall.names, other]

theorem Reopens.customize (consistent : Consistent platform phone)
    (linked : Linked platform entry number phone)
    (front : phone.screen.shown number = none) (room : created phone.calls + event.creations < 2 ^ 31)
    (taken : phone.customizeStep platform event = some next) :
    Reopens platform entry number phone next := by
  cases event with
  | experimentReady form startNow =>
    obtain rfl := Option.some.inj taken
    split
    · exact .crash linked _
    · exact .calm linked (.refl number phone) front
    · have link := linked
      obtain ⟨record, found, -⟩ := link
      have keeps : Keeps platform number phone (phone.write [.create form.values]) :=
        .create consistent room (consistent.bounded found) form
      dsimp only
      split
      · exact .keeps linked (keeps.trans (.of_calls rfl)) rfl rfl
      · exact .keeps linked (keeps.trans (.of_calls rfl)) rfl rfl
      · split
        · exact .keeps linked (keeps.trans (.of_calls rfl)) rfl rfl
        · exact .keeps linked (keeps.trans (.of_calls rfl)) rfl rfl
  | left =>
    obtain rfl := Option.some.inj taken
    exact .calm linked (.display phone (.inr rfl)) rfl
  | connection | general | received =>
    obtain rfl := Option.some.inj taken
    exact .calm linked (.refl number phone) front
  | _ => cases taken

theorem Reopens.prepare {screen : PrepareSenderScreen} (linked : Linked platform entry number phone)
    (front : phone.screen.shown number = none)
    (taken : phone.prepareStep platform event screen = some next) :
    Reopens platform entry number phone next := by
  cases event with
  | connection | left =>
    obtain rfl := Option.some.inj taken
    exact .calm linked (.display phone (.inr rfl)) rfl
  | prepareSender currentLocation =>
    have located : Calm number phone
        (phone.write (updates screen.experimentNumber (senderPosition currentLocation))) :=
      .write number phone (late_updates ["sender_latitude", "sender_longitude", "sender_altitude"] rfl
        (by decide) screen.experimentNumber)
    simp only [Phone.prepareStep] at taken
    split at taken
    · cases taken
    · split at taken
      · obtain rfl := Option.some.inj taken
        exact .calm linked (located.trans (.display _ (.inr rfl))) rfl
      · obtain rfl := Option.some.inj taken
        exact .calm linked (.refl number phone) front
  | cancelPreparation =>
    simp only [Phone.prepareStep] at taken
    split at taken
    · obtain rfl := Option.some.inj taken
      split
      · exact .calm linked (.display phone (.inr rfl)) rfl
      · exact .calm linked (.refl number phone) front
    · cases taken
  | toStartExperiment orientation =>
    obtain rfl := Option.some.inj taken
    have late : ∀ call ∈ updates screen.experimentNumber
        ((if screen.isPrepared then [] else senderPosition none) ++ [("sender_orientation", orientation)]),
          call.late = true := by
      split
      · exact late_updates ["sender_orientation"] rfl (by decide) _
      · exact late_updates ["sender_latitude", "sender_longitude", "sender_altitude",
          "sender_orientation"] rfl
          (by decide) _
    exact .after linked (.write number phone late) rfl fun moved => .onCreate moved _
  | general | received =>
    obtain rfl := Option.some.inj taken
    exact .calm linked (.refl number phone) front
  | _ => cases taken

/-- Every step of the app takes the experiment away, or the model with one experiment follows
with what the step is on its screen. -/
theorem Follows.of_step (inv : Inv platform prompt phone) (linked : Linked platform entry number phone)
    (room : created phone.calls + event.creations < 2 ^ 31) (taken : phone.step platform event = some next) :
    next.record platform number = none ∨
      Follows platform entry number (phone.observed number event next) phone next := by
  unfold Phone.step at taken
  split at taken
  · exact .inr ((Ends.weather linked taken).to_observed fun shown => if_pos shown)
  · obtain rfl := Option.some.inj taken
    have killed : Calm number phone { phone with screen := .closed none, fetching := [] } :=
      ⟨⟨[], by simp, by simp⟩, rfl, .inr rfl⟩
    exact .inr ((Ends.calm linked killed).to_observed fun shown => if_pos shown)
  · split at taken
    · rename_i front
      have hidden : phone.screen.shown number = none := by rw [front]; rfl
      split at taken
      · obtain rfl := Option.some.inj taken
        exact .inr (Reopens.hidden hidden (.calm linked (.display phone (.inr rfl)) rfl))
      · cases taken
    · rename_i front
      have hidden : phone.screen.shown number = none := by rw [front]; rfl
      exact (Reopens.overview linked hidden taken).imp id (Reopens.hidden hidden)
    · rename_i front
      have hidden : phone.screen.shown number = none := by rw [front]; rfl
      exact .inr (Reopens.hidden hidden (.customize inv.toConsistent linked hidden room taken))
    · rename_i front
      have hidden : phone.screen.shown number = none := by rw [front]; rfl
      exact .inr (Reopens.hidden hidden (.prepare linked hidden taken))
    · rename_i front
      exact .inr (.experiment inv linked front taken)

end Phone

end LoraEval.App

import LoraEval.App.CommandScreen

/-! When the commands of a screen are written to an open connection. The flag `ready`
does not ensure it: a button, the loop dialogs and a handler do not ask for it, and it is
cleared some time after the disconnection. -/

namespace LoraEval.App

open LoraEval.Core

namespace CommandScreen

/-- The messages that `sendOrPing` takes. -/
def short (msg : String) : Bool := decide (((javaText msg).map JavaChar.size).sum ≤ 18)

/-- The clicks on `SenderExploreScreen` that call a write method. -/
def exploreWrites (click : Click) (screen : CommandScreen) : Bool :=
  match click with
  | .changeConfig => screen.ready
  | .transmitSendCommand msg => screen.ready && short msg
  | .sendPing msg => screen.ready && short ("&" ++ msg)
  | .cancelSendLoopCommand => true
  | _ => false

/-- The clicks on `PrepareSenderScreen` that call a write method. -/
def prepareWrites (click : Click) (screen : CommandScreen) : Bool :=
  match click with
  | .prepareSender | .cancelPreparation => screen.ready
  | _ => false

/-- The clicks in the confirmation of the start that call a write method. -/
def confirmationWrites (entry : Entry) (click : Click) (screen : CommandScreen) : Bool :=
  match click with
  | .yes power hours minutes seconds =>
    match startExperiment entry power hours minutes seconds with
    | .ok (some _) => screen.ready
    | _ => false
  | _ => false

def clickWrites (kind : ScreenKind) (entry : Entry) (click : Click) (screen : CommandScreen) : Bool :=
  match kind, screen.dialog with
  | .senderExplore, some _ => match click with | .confirm _ => true | _ => false
  | .senderExplore, none => screen.exploreWrites click
  | .prepareSender, _ => screen.prepareWrites click
  | .startExperiment, some _ => screen.confirmationWrites entry click
  | .startExperiment, none => match click with | .pingDevice => screen.ready | _ => false

/-- An event calls a write method of `BLEHandler`. -/
def Writes (kind : ScreenKind) (entry : Entry) (event : ScreenEvent) (screen : CommandScreen) : Bool :=
  match event with
  | .clicked click => screen.clickWrites kind entry click
  | .handled => screen.handlers.head? = some .startLoop
  | _ => false

/-- What an event on the screen does: the connection stays, and a write is marked if there
is no client to write to. -/
structure Effect (writes : Bool) (screen next : CommandScreen) : Prop where
  connection : next.connection = screen.connection
  nullWrite : next.nullWrite = (screen.nullWrite || writes && screen.connection.currentGatt.isNone)

theorem Effect.quiet {screen next : CommandScreen} (connection : next.connection = screen.connection)
    (nullWrite : next.nullWrite = screen.nullWrite) : Effect false screen next :=
  ⟨connection, by simp [nullWrite]⟩

theorem Effect.write (screen : CommandScreen) : Effect true screen screen.write := by
  unfold CommandScreen.write
  cases found : screen.connection.currentGatt with
  | none => exact ⟨rfl, by simp [found]⟩
  | some number => exact ⟨rfl, by simp [found]⟩

theorem Effect.andThen {screen next : CommandScreen} {rest : CommandScreen → CommandScreen}
    (effect : Effect writes screen next)
    (keeps : ∀ screen, (rest screen).connection = screen.connection ∧
      (rest screen).nullWrite = screen.nullWrite) : Effect writes screen (next.andThen rest) := by
  unfold CommandScreen.andThen
  split
  · exact effect
  · exact ⟨(keeps next).1.trans effect.connection, (keeps next).2.trans effect.nullWrite⟩

theorem Effect.writeIfReady (screen : CommandScreen) : Effect screen.ready screen screen.writeIfReady := by
  unfold CommandScreen.writeIfReady
  cases ready : screen.ready with
  | false => exact .quiet rfl rfl
  | true => exact .write screen

theorem Effect.sendOrPing (msg : String) (screen : CommandScreen) :
    Effect (screen.ready && short msg) screen
      (screen.sendOrPing msg) := by
  unfold CommandScreen.sendOrPing
  cases ready : screen.ready with
  | false => exact .quiet rfl rfl
  | true =>
    by_cases long : 18 < ((javaText msg).map JavaChar.size).sum
    · simpa [short, long, Nat.not_le.mpr long] using Effect.quiet rfl rfl
    · simpa [short, long, Nat.not_lt.mp long] using Effect.write screen

theorem Effect.behind {earlier screen next : CommandScreen} (effect : Effect writes earlier next)
    (connection : earlier.connection = screen.connection) (nullWrite : earlier.nullWrite = screen.nullWrite) :
    Effect writes screen next :=
  ⟨effect.connection.trans connection, by rw [effect.nullWrite, connection, nullWrite]⟩

theorem Effect.confirm (shown : Dialog) (num : String) (screen : CommandScreen) :
    Effect true screen (screen.confirm shown num) := by
  refine Effect.andThen ((Effect.write { screen with dialog := none }).behind rfl rfl) fun after => ?_
  unfold confirmed
  cases Java.parseInt num with
  | error exception => exact ⟨rfl, rfl⟩
  | ok value => by_cases first : shown = .numberOfMessages <;> simp [first]

theorem Effect.start (entry : Entry) (power : Byte) (hours minutes seconds : String)
    (screen : CommandScreen) :
    Effect (screen.confirmationWrites entry (.yes power hours minutes seconds)) screen
      (screen.start entry power hours minutes seconds) := by
  simp only [confirmationWrites, CommandScreen.start]
  cases startExperiment entry power hours minutes seconds with
  | error exception => exact .quiet rfl rfl
  | ok settings =>
    cases settings with
    | none => exact .quiet rfl rfl
    | some bytes =>
      have written := Effect.writeIfReady { screen with dialog := none, startButton := false }
      exact written.behind rfl rfl

theorem clickExplore_effect {screen : CommandScreen} (taken : screen.clickExplore pressed = some next) :
    Effect (screen.exploreWrites pressed) screen next := by
  cases pressed with
  | changeConfig =>
    obtain ⟨-, same⟩ := Option.ite_none_left_eq_some.mp taken
    exact Option.some.inj same ▸ .writeIfReady screen
  | transmitSendCommand msg =>
    obtain ⟨-, same⟩ := Option.ite_none_left_eq_some.mp taken
    exact Option.some.inj same ▸ .sendOrPing msg screen
  | sendPing msg =>
    obtain ⟨-, same⟩ := Option.ite_none_left_eq_some.mp taken
    exact Option.some.inj same ▸ .sendOrPing ("&" ++ msg) screen
  | transmitSendLoopCommand msg =>
    obtain ⟨-, same⟩ := Option.ite_none_left_eq_some.mp taken
    split at same <;> exact Option.some.inj same ▸ .quiet rfl rfl
  | cancelSendLoopCommand =>
    obtain ⟨-, same⟩ := Option.ite_none_right_eq_some.mp taken
    exact Option.some.inj same ▸ (Effect.write { screen with looping := false }).behind rfl rfl
  | _ => simp [clickExplore] at taken

private theorem Effect.guarded {screen : CommandScreen} {rest : CommandScreen → CommandScreen}
    (taken : (if screen.ready then some (screen.write.andThen rest) else some screen) = some next)
    (keeps : ∀ screen, (rest screen).connection = screen.connection ∧
      (rest screen).nullWrite = screen.nullWrite) : Effect screen.ready screen next := by
  cases ready : screen.ready with
  | false =>
    obtain rfl : screen = next := by simpa [ready] using taken
    exact .quiet rfl rfl
  | true =>
    obtain rfl : screen.write.andThen rest = next := by simpa [ready] using taken
    exact (Effect.write screen).andThen keeps

theorem clickPrepare_effect {screen : CommandScreen} (taken : screen.clickPrepare pressed = some next) :
    Effect (screen.prepareWrites pressed) screen next := by
  cases pressed with
  | prepareSender =>
    obtain ⟨-, same⟩ := Option.ite_none_left_eq_some.mp taken
    exact Effect.guarded same fun _ => ⟨rfl, rfl⟩
  | cancelPreparation =>
    obtain ⟨-, same⟩ := Option.ite_none_right_eq_some.mp taken
    exact Effect.guarded same fun _ => ⟨rfl, rfl⟩
  | _ => simp [clickPrepare] at taken

theorem onClick_effect {screen : CommandScreen} (taken : screen.onClick kind entry pressed = some next) :
    Effect (screen.clickWrites kind entry pressed) screen next := by
  unfold onClick at taken
  unfold clickWrites
  cases kind with
  | senderExplore =>
    cases shown : screen.dialog with
    | none => exact clickExplore_effect (by simpa [shown] using taken)
    | some asked =>
      rw [shown] at taken
      cases pressed with
      | confirm num => exact Option.some.inj taken ▸ .confirm asked num screen
      | dismiss => exact Option.some.inj taken ▸ .quiet rfl rfl
      | _ => simp [clickLoopDialog] at taken
  | prepareSender => exact clickPrepare_effect taken
  | startExperiment =>
    cases shown : screen.dialog with
    | none =>
      rw [shown] at taken
      cases pressed with
      | makeConfirmationDialog =>
        obtain ⟨-, same⟩ := Option.ite_none_right_eq_some.mp taken
        exact Option.some.inj same ▸ .quiet rfl rfl
      | pingDevice =>
        obtain ⟨-, same⟩ := Option.ite_none_right_eq_some.mp taken
        exact Option.some.inj same ▸ .writeIfReady screen
      | _ => simp [clickStart] at taken
    | some asked =>
      rw [shown] at taken
      cases pressed with
      | yes power hours minutes seconds =>
        exact Option.some.inj taken ▸ .start entry power hours minutes seconds screen
      | dismiss => exact Option.some.inj taken ▸ .quiet rfl rfl
      | _ => simp [clickConfirmation] at taken

theorem runHandler_effect (handler : Handler) (screen : CommandScreen) :
    Effect (handler = .startLoop) screen (screen.runHandler handler) := by
  cases handler with
  | setReady connected => exact .quiet rfl rfl
  | startLoop =>
    rw [decide_eq_true rfl, runHandler]
    exact (Effect.write screen).andThen fun _ => ⟨rfl, rfl⟩

theorem onReceive_effect (kind : ScreenKind) (notice : Notice) (screen : CommandScreen) :
    Effect false screen (screen.onReceive kind notice) := by
  cases kind <;> cases notice
  case startExperiment.general status =>
    by_cases synchronised : status = -2
    · exact .quiet (by simp [onReceive, synchronised]) (by simp [onReceive, synchronised])
    · by_cases acknowledged : status = -6 <;>
        exact .quiet (by simp [onReceive, synchronised, acknowledged])
          (by simp [onReceive, synchronised, acknowledged])
  all_goals exact .quiet rfl rfl

/-- An event after which the scanner has no client: a disconnection that starts a new
scan, the end of the experiment, and the end of the screen. -/
def Resets (event : ScreenEvent) (screen : CommandScreen) : Prop :=
  match event with
  | .disconnected gatt => screen.connection.reopens gatt.owner = true
  | .countedDown => screen.timer = some .duration
  | .destroyed => True
  | _ => False

inductive Linked (screen : CommandScreen) : ScreenEvent → CommandScreen → Prop where
  | scanned (number : Nat)
      (connection : next.connection = { screen.connection with queued := number }.onScanResult)
      (crashed : next.crashed = next.connection.nullCentral) : Linked screen .scanResult next
  | restarted (resets : screen.Resets event)
      (connection : next.connection = (screen.connection.closeGatt number).startScanning) :
      Linked screen event next
  | closed (resets : screen.Resets event)
      (connection : next.connection = screen.connection.closeConnection) : Linked screen event next
  | kept (other : event ≠ .scanResult) (calm : ¬ screen.Resets event)
      (central : next.connection.central = screen.connection.central)
      (centrals : next.connection.centrals = screen.connection.centrals) : Linked screen event next

/-- What an event does: to the connection, and to the mark of a write without client. -/
structure Acted (kind : ScreenKind) (entry : Entry) (event : ScreenEvent)
    (screen next : CommandScreen) : Prop where
  linked : Linked screen event next
  nullWrite : next.nullWrite =
    (screen.nullWrite || screen.Writes kind entry event && screen.connection.currentGatt.isNone)

theorem Acted.of_effect {screen next : CommandScreen}
    (effect : Effect (screen.Writes kind entry event) screen next) (other : event ≠ .scanResult)
    (calm : ¬ screen.Resets event) : Acted kind entry event screen next :=
  ⟨.kept other calm (by rw [effect.connection]) (by rw [effect.connection]),
    effect.nullWrite⟩

theorem Acted.of_callback {screen : CommandScreen}
    (taken : screen.connectionEvent (.connected gatt) notices = some next)
    (silent : screen.Writes kind entry event = false) (other : event ≠ .scanResult)
    (calm : ¬ screen.Resets event) : Acted kind entry event screen next := by
  obtain ⟨connection, linked, rfl⟩ := Option.map_eq_some_iff.mp taken
  cases Connection.step_taken linked with
  | connected member => exact ⟨.kept other calm rfl rfl, by simp [silent]⟩

theorem act_disconnected {screen : CommandScreen}
    (taken : screen.connectionEvent (.disconnected gatt) notices = some next) :
    Acted kind entry (.disconnected gatt) screen next := by
  obtain ⟨connection, linked, rfl⟩ := Option.map_eq_some_iff.mp taken
  refine ⟨?_, by simp [Writes]⟩
  cases Connection.step_taken linked with
  | disconnected member =>
    by_cases reopens : screen.connection.reopens gatt.owner = true
    · exact .restarted reopens (if_pos reopens)
    · exact .kept (by simp) reopens (by simp [Connection.onDisconnected, reopens, Connection.closeGatt])
        (by simp [Connection.onDisconnected, reopens, Connection.closeGatt])

theorem act_countedDown {screen : CommandScreen}
    (taken : screen.act kind entry .countedDown = some next) : Acted kind entry .countedDown screen next := by
  obtain ⟨countdown, found, rfl⟩ := Option.map_eq_some_iff.mp taken
  cases countdown with
  | delay =>
    exact ⟨.kept (by simp) (by simp [Resets, found]) rfl rfl, by simp [Writes, onFinish]⟩
  | duration =>
    exact ⟨.closed found rfl, by simp [Writes, onFinish]⟩

theorem acted {screen : CommandScreen} (taken : screen.act kind entry event = some next) :
    Acted kind entry event screen next := by
  cases event with
  | found =>
    obtain ⟨connection, linked, rfl⟩ := Option.map_eq_some_iff.mp taken
    cases Connection.step_taken linked with
    | found => exact ⟨.kept (by simp) id rfl rfl, by simp [Writes]⟩
  | scanResult =>
    obtain ⟨connection, linked, rfl⟩ := Option.map_eq_some_iff.mp taken
    cases Connection.step_taken linked with
    | scanResult number => exact ⟨.scanned number rfl rfl, by simp [Writes]⟩
  | connected gatt => exact .of_callback taken rfl (by simp) id
  | servicesDiscovered gatt => exact .of_callback taken rfl (by simp) id
  | notified gatt bytes => exact .of_callback taken rfl (by simp) id
  | disconnected gatt => exact act_disconnected taken
  | foreign notice => exact .of_effect (Option.some.inj taken ▸ .quiet rfl rfl) (by simp) id
  | received =>
    obtain ⟨-, mapped⟩ := Option.ite_none_left_eq_some.mp taken
    obtain ⟨notice, -, rfl⟩ := Option.map_eq_some_iff.mp mapped
    exact .of_effect ((onReceive_effect kind notice _).behind rfl rfl) (by simp) id
  | handled =>
    obtain ⟨handler, head, rfl⟩ := Option.map_eq_some_iff.mp taken
    have effect : Effect (handler = .startLoop) screen _ :=
      (runHandler_effect handler { screen with handlers := screen.handlers.tail }).behind rfl rfl
    exact .of_effect (by simpa [Writes, head] using effect) (by simp) id
  | clicked pressed =>
    obtain ⟨-, clicked⟩ := Option.ite_none_left_eq_some.mp taken
    exact .of_effect (onClick_effect clicked) (by simp) id
  | loopFinished =>
    obtain ⟨-, same⟩ := Option.ite_none_right_eq_some.mp taken
    exact .of_effect (Option.some.inj same ▸ .quiet rfl rfl) (by simp) id
  | countedDown => exact act_countedDown taken
  | destroyed =>
    obtain ⟨-, same⟩ := Option.ite_none_left_eq_some.mp taken
    obtain rfl : screen.onDestroy = next := Option.some.inj same
    exact ⟨.closed trivial rfl, by simp [Writes, onDestroy]⟩

/-- The scanner last handled a result: since then no disconnection has started a new scan,
and neither the end of the experiment nor that of the screen has closed the connection. -/
def Served (kind : ScreenKind) (entry : Entry) : List ScreenEvent → Prop :=
  SinceGiven (fun before event => ∀ screen, run kind entry before = some screen → ¬ screen.Resets event)
    (fun _ event => event = .scanResult)

/-- The client of the scanner in terms of the events so far. -/
structure Inv (kind : ScreenKind) (entry : Entry) (before : List ScreenEvent) (screen : CommandScreen) :
    Prop where
  reached : run kind entry before = some screen
  valid : ∀ index, screen.connection.central = some index → index < screen.connection.centrals.length
  served : screen.crashed = false → (screen.connection.currentGatt.isSome ↔ Served kind entry before)

theorem Inv.initial (kind : ScreenKind) (entry : Entry) : Inv kind entry [] onCreate := by
  refine ⟨rfl, ?_, fun _ => iff_of_false ?_ not_sinceGiven_nil⟩
  · simp [onCreate, Connection.startScanning, Connection.initial]
  · simp [onCreate, Connection.startScanning, Connection.initial, Connection.currentGatt, Connection.gattOf]

theorem Inv.served_append (inv : Inv kind entry before screen) :
    Served kind entry (before ++ [event]) ↔
      event = .scanResult ∨ ¬ screen.Resets event ∧ Served kind entry before := by
  rw [Served, sinceGiven_append]
  simp [inv.reached]

theorem Inv.not_served (inv : Inv kind entry before screen) (resets : screen.Resets event) :
    ¬ Served kind entry (before ++ [event]) := by
  rw [inv.served_append]
  rintro (rfl | ⟨calm, -⟩)
  · exact resets
  · exact calm resets

theorem Inv.step (inv : Inv kind entry before screen) (taken : screen.step kind entry event = some next) :
    Inv kind entry (before ++ [event]) next := by
  obtain ⟨alive, act⟩ := Option.ite_none_left_eq_some.mp taken
  have running : screen.crashed = false := by simpa using alive
  have reached := forEach_extend inv.reached taken
  cases (acted act).linked with
  | scanned number connection crashed =>
    cases central : screen.connection.central with
    | none =>
      refine ⟨reached, by simp [connection, Connection.onScanResult, central], fun alive => ?_⟩
      simp [crashed, connection, Connection.onScanResult, central] at alive
    | some index =>
      have opened : next.connection.currentGatt = some screen.connection.opened := by
        rw [connection]
        exact Connection.currentGatt_onScanResult central (inv.valid index central)
      refine ⟨reached, ?_, fun _ => iff_of_true (by simp [opened]) (inv.served_append.mpr (.inl rfl))⟩
      simpa [connection, Connection.onScanResult, central, Connection.connectGatt,
        Connection.stopScanning] using inv.valid index central
  | restarted resets connection =>
    refine ⟨reached, by simp [connection, Connection.startScanning], fun _ => ?_⟩
    rw [connection, Connection.currentGatt_startScanning]
    exact iff_of_false (by simp) (inv.not_served resets)
  | closed resets connection =>
    obtain ⟨central, -⟩ := screen.connection.closeConnection_flags
    refine ⟨reached, by simp [connection, central], fun _ => ?_⟩
    rw [connection, Connection.currentGatt, central]
    exact iff_of_false (by simp) (inv.not_served resets)
  | kept other calm central centrals =>
    refine ⟨reached, by simpa [central, centrals] using inv.valid, fun _ => ?_⟩
    rw [inv.served_append]
    simp [other, calm, Connection.currentGatt_congr central centrals, inv.served running]

/-- Every write method runs with a `Central` that has a client exactly if it runs after a
scan result, with no disconnection that starts a new scan and no end of the experiment or
the screen in between. -/
theorem writes_open_iff (ran : run kind entry events = some final) :
    Always (step kind entry) (fun _ screen => screen.nullWrite = false) [] onCreate events ↔
      Meets (step kind entry) (fun before event screen => screen.Writes kind entry event = true →
        Served kind entry before) [] onCreate events := by
  refine always_iff (Inv kind entry) ?_ (fun _ _ _ _ taken inv _ _ => inv.step taken) ran
    (Inv.initial kind entry) rfl
  intro before event screen next taken inv holding
  obtain ⟨alive, act⟩ := Option.ite_none_left_eq_some.mp taken
  have running : screen.crashed = false := by simpa using alive
  rw [(acted act).nullWrite, holding, ← inv.served running]
  cases screen.Writes kind entry event <;> cases screen.connection.currentGatt <;> simp

theorem served_of_calm (kind : ScreenKind) (entry : Entry) (before : List ScreenEvent)
    (calm : ∀ event ∈ after, ∀ screen, ¬ Resets event screen) :
    Served kind entry (before ++ .scanResult :: after) := by
  refine ⟨before, .scanResult, after, rfl, rfl, ?_⟩
  rintro front next back rfl screen -
  exact calm next (by simp) screen

private def sampleEntry : Entry := Vector.replicate 34 none

private def configured : List ScreenEvent :=
  [.found, .scanResult, .connected ⟨0, 0⟩, .received, .notified ⟨0, 0⟩ [-2], .received]

theorem writes_open_sample :
    Always (step .senderExplore sampleEntry) (fun _ screen => screen.nullWrite = false) [] onCreate
      (configured ++ [.clicked .changeConfig]) := by
  have ran : run .senderExplore sampleEntry (configured ++ [.clicked .changeConfig]) = some _ := rfl
  refine (writes_open_iff ran).mpr ?_
  -- before the click nothing is written
  iterate 6 refine .cons (fun writes => absurd writes (by decide)) rfl ?_
  refine .cons (fun _ => ?_) rfl trivial
  exact served_of_calm .senderExplore sampleEntry [.found] (by simp [Resets])

private theorem not_open (ran : (run kind entry events).map (·.nullWrite) = some true) :
    ¬ Always (step kind entry) (fun _ screen => screen.nullWrite = false) [] onCreate events := by
  obtain ⟨final, reached, marked⟩ := Option.map_eq_some_iff.mp ran
  intro always
  have unmarked := always.finish reached
  simp [marked] at unmarked

/-- After a disconnection: the loop dialog of the sender screen is confirmed, the sender is
prepared before the delayed handler has cleared `ready`, and the receiver is pinged before
the broadcast has arrived. -/
theorem written_without_client :
    ¬ Always (step .senderExplore sampleEntry) (fun _ screen => screen.nullWrite = false) [] onCreate
        (configured ++ [.clicked (.transmitSendLoopCommand "hi"), .disconnected ⟨0, 0⟩, .received,
          .clicked (.confirm "5")]) ∧
      ¬ Always (step .prepareSender sampleEntry) (fun _ screen => screen.nullWrite = false) [] onCreate
        [.found, .scanResult, .connected ⟨0, 0⟩, .received, .handled, .disconnected ⟨0, 0⟩, .received,
          .clicked .prepareSender] ∧
      ¬ Always (step .startExperiment sampleEntry) (fun _ screen => screen.nullWrite = false) [] onCreate
        (configured ++ [.disconnected ⟨0, 0⟩, .clicked .pingDevice]) :=
  ⟨not_open (by decide +kernel), not_open (by decide +kernel), not_open (by decide +kernel)⟩

end CommandScreen

end LoraEval.App

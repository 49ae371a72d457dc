import LoraEval.App.Central
import LoraEval.App.Connection
import LoraEval.App.ExperimentScreen
import LoraEval.App.ResultFile

/-! The screens that write commands to a board: `SenderExploreScreen`,
`PrepareSenderScreen` and `StartExperimentScreen`. Each owns a connection. It learns of
the connection by broadcasts, which arrive some time after they are sent, and acts on
clicks and on handlers that it has posted with a delay. -/

namespace LoraEval.App

open LoraEval.Core

inductive ScreenKind where
  | senderExplore
  | prepareSender
  | startExperiment
deriving DecidableEq, Repr

def ScreenKind.device : ScreenKind → Device
  | senderExplore | prepareSender => .sender
  | startExperiment => .receiver

/-- The broadcasts that concern the connection. -/
inductive Notice where
  | connState (connected : Bool)
  | general (status : Int)
deriving DecidableEq, Repr

/-- The general broadcast that a notification leads to. The other broadcasts do not
concern the connection, and the Bluetooth stack catches an exception in its callback. -/
def ScreenKind.notices (kind : ScreenKind) (bytes : List Byte) : List Notice :=
  match onCharacteristicChanged kind.device bytes with
  | .ok (some (.general status)) => [.general status]
  | _ => []

/-- A posted runnable: the update of `ready` two seconds after a broadcast, and the start
of a loop 200 milliseconds after its last dialog. -/
inductive Handler where
  | setReady (connected : Bool)
  | startLoop
deriving DecidableEq, Repr

inductive Dialog where
  | numberOfMessages
  | timeBetween
  | confirmStart
deriving DecidableEq, Repr

structure CommandScreen where
  connection : Connection
  ready : Bool
  /-- Broadcasts sent and not received yet. -/
  broadcasts : List Notice
  handlers : List Handler
  dialog : Option Dialog
  /-- The loop buttons of `adjustGUIToLooping`. -/
  looping : Bool
  loopTimer : Bool
  /-- The button that cancels the preparation is shown. -/
  prepared : Bool
  startButton : Bool
  timer : Option Countdown
  destroyed : Bool
  /-- The app has ended with an exception. -/
  crashed : Bool
  /-- A write method met no `Central` or a `Central` without client. -/
  nullWrite : Bool
deriving DecidableEq

inductive Click where
  | changeConfig
  | transmitSendCommand (msg : String)
  | sendPing (msg : String)
  | transmitSendLoopCommand (msg : String)
  | confirm (num : String)
  | dismiss
  | cancelSendLoopCommand
  | prepareSender
  | cancelPreparation
  | makeConfirmationDialog
  | yes (power : Byte) (hours minutes seconds : String)
  | pingDevice
deriving DecidableEq

namespace CommandScreen

def onCreate : CommandScreen where
  connection := Connection.initial.startScanning
  ready := false
  broadcasts := []
  handlers := []
  dialog := none
  looping := false
  loopTimer := false
  prepared := false
  startButton := true
  timer := none
  destroyed := false
  crashed := false
  nullWrite := false

/-- The write methods of `BLEHandler`: `scanner.getCentral()` and its `bluetoothGatt` are
used unchecked. -/
def write (screen : CommandScreen) : CommandScreen :=
  if screen.connection.currentGatt.isSome then screen
  else { screen with crashed := true, nullWrite := true }

/-- `if (ready)` around a write. -/
def writeIfReady (screen : CommandScreen) : CommandScreen :=
  if screen.ready then screen.write else screen

/-- The code behind a statement, which an exception skips. -/
def andThen (screen : CommandScreen) (rest : CommandScreen → CommandScreen) : CommandScreen :=
  if screen.crashed then screen else rest screen

def sendOrPing (msg : String) (screen : CommandScreen) : CommandScreen :=
  if screen.ready then
    if 18 < ((javaText msg).map JavaChar.size).sum then screen else screen.write
  else screen

def hasSpecialCharacters (msg : String) : Bool :=
  msg.startsWith "!" || msg.startsWith "#" || msg.startsWith "$"

/-- What follows the write in `onClick` of the two loop dialogs. -/
def confirmed (dialog : Dialog) (num : String) (screen : CommandScreen) : CommandScreen :=
  match Java.parseInt num with
  | .error _ => { screen with crashed := true }
  | .ok _ =>
    if dialog = .numberOfMessages then { screen with dialog := some .timeBetween }
    else { screen with looping := true, handlers := screen.handlers ++ [.startLoop] }

/-- `onClick` of the two loop dialogs: the command is written before the number is read. -/
def confirm (dialog : Dialog) (num : String) (screen : CommandScreen) : CommandScreen :=
  write { screen with dialog := none } |>.andThen (confirmed dialog num)

/-- `startExperiment`: the buttons are gone whether or not the settings are written. -/
def start (entry : Entry) (power : Byte) (hours minutes seconds : String) (screen : CommandScreen) :
    CommandScreen :=
  let screen := { screen with dialog := none, startButton := false }
  match startExperiment entry power hours minutes seconds with
  | .error _ => { screen with crashed := true }
  | .ok none => screen
  | .ok (some _) => screen.writeIfReady

def clickLoopDialog (dialog : Dialog) (click : Click) (screen : CommandScreen) : Option CommandScreen :=
  match click with
  | .confirm num => some (screen.confirm dialog num)
  | .dismiss => some { screen with dialog := none }
  | _ => none

/-- A click on `SenderExploreScreen`. The buttons are enabled or shown by `looping`; the
one that cancels a loop is the only one that does not ask for `ready`. -/
def clickExplore (click : Click) (screen : CommandScreen) : Option CommandScreen :=
  match click with
  | .changeConfig => if screen.looping then none else some screen.writeIfReady
  | .transmitSendCommand msg => if screen.looping then none else some (screen.sendOrPing msg)
  | .sendPing msg => if screen.looping then none else some (screen.sendOrPing ("&" ++ msg))
  | .transmitSendLoopCommand msg =>
    if screen.looping then none
    else if screen.ready && !hasSpecialCharacters msg then
      some { screen with dialog := some .numberOfMessages }
    else some screen
  | .cancelSendLoopCommand =>
    if screen.looping then some { screen with looping := false }.write else none
  | _ => none

/-- A click on `PrepareSenderScreen`. -/
def clickPrepare (click : Click) (screen : CommandScreen) : Option CommandScreen :=
  match click with
  | .prepareSender =>
    if screen.prepared then none
    else if screen.ready then some (screen.write.andThen fun screen => { screen with prepared := true })
    else some screen
  | .cancelPreparation =>
    if screen.prepared then
      if screen.ready then some (screen.write.andThen fun screen => { screen with prepared := false })
      else some screen
    else none
  | _ => none

def clickConfirmation (entry : Entry) (click : Click) (screen : CommandScreen) : Option CommandScreen :=
  match click with
  | .yes power hours minutes seconds => some (screen.start entry power hours minutes seconds)
  | .dismiss => some { screen with dialog := none }
  | _ => none

/-- A click on `StartExperimentScreen`. -/
def clickStart (click : Click) (screen : CommandScreen) : Option CommandScreen :=
  match click with
  | .makeConfirmationDialog =>
    if screen.startButton then some { screen with dialog := some .confirmStart } else none
  | .pingDevice => if screen.startButton then some screen.writeIfReady else none
  | _ => none

def onClick (kind : ScreenKind) (entry : Entry) (click : Click) (screen : CommandScreen) :
    Option CommandScreen :=
  match kind, screen.dialog with
  | .senderExplore, some dialog => screen.clickLoopDialog dialog click
  | .senderExplore, none => screen.clickExplore click
  | .prepareSender, _ => screen.clickPrepare click
  | .startExperiment, some _ => screen.clickConfirmation entry click
  | .startExperiment, none => screen.clickStart click

/-- The broadcast receivers. `PrepareSenderScreen` posts what the others do at once, and
takes every connection for a ready one. -/
def onReceive (kind : ScreenKind) (notice : Notice) (screen : CommandScreen) : CommandScreen :=
  match kind, notice with
  | .prepareSender, .connState connected =>
    { screen with handlers := screen.handlers ++ [.setReady connected] }
  | .prepareSender, .general _ => screen
  | _, .connState connected => { screen with ready := screen.ready && connected }
  | .senderExplore, .general status => { screen with ready := screen.ready || status = -2 }
  | .startExperiment, .general status =>
    if status = -2 then { screen with ready := true }
    else if status = -6 then { screen with timer := some .delay }
    else screen

def runHandler (handler : Handler) (screen : CommandScreen) : CommandScreen :=
  match handler with
  | .setReady connected => { screen with ready := connected }
  | .startLoop => screen.write.andThen fun screen => { screen with loopTimer := true }

/-- `onFinish` of the timer of `StartExperimentScreen`. -/
def onFinish (countdown : Countdown) (screen : CommandScreen) : CommandScreen :=
  match countdown with
  | .delay => { screen with timer := some .duration }
  | .duration => { screen with timer := none, connection := screen.connection.closeConnection }

/-- `onDestroy`: posted runnables still run. -/
def onDestroy (screen : CommandScreen) : CommandScreen :=
  { screen with
    connection := screen.connection.closeConnection, dialog := none, timer := none, destroyed := true }

/-- A result of the scan, or a callback of a client. An exception in the result's handler
ends the app. -/
def connectionEvent (event : ConnectionEvent) (notices : List Notice) (screen : CommandScreen) :
    Option CommandScreen :=
  (screen.connection.step event).map fun connection =>
    { screen with
      connection
      broadcasts := screen.broadcasts ++ notices
      crashed := connection.nullCentral }

end CommandScreen

/-- What can happen to a screen. Broadcasts reach every open screen, also those sent for
the connection of another one (`foreign`). -/
inductive ScreenEvent where
  | found
  | scanResult
  | connected (gatt : Gatt)
  | servicesDiscovered (gatt : Gatt)
  | notified (gatt : Gatt) (bytes : List Byte)
  | disconnected (gatt : Gatt)
  | foreign (notice : Notice)
  | received
  | handled
  | clicked (click : Click)
  | loopFinished
  | countedDown
  | destroyed
deriving DecidableEq

namespace CommandScreen

/-- An event while the app runs. The runnable posted by `onServicesDiscovered` writes
through its own client and not through `BLEHandler`. -/
def act (kind : ScreenKind) (entry : Entry) (event : ScreenEvent) (screen : CommandScreen) :
    Option CommandScreen :=
  match event with
  | .found => screen.connectionEvent .found []
  | .scanResult => screen.connectionEvent .scanResult []
  | .connected gatt => screen.connectionEvent (.connected gatt) [.connState true]
  | .servicesDiscovered gatt => screen.connectionEvent (.connected gatt) []
  | .notified gatt bytes => screen.connectionEvent (.connected gatt) (kind.notices bytes)
  | .disconnected gatt => screen.connectionEvent (.disconnected gatt) [.connState false]
  | .foreign notice => some { screen with broadcasts := screen.broadcasts ++ [notice] }
  | .received =>
    if screen.destroyed then none
    else screen.broadcasts.head?.map fun notice =>
      onReceive kind notice { screen with broadcasts := screen.broadcasts.tail }
  | .handled =>
    screen.handlers.head?.map fun handler =>
      runHandler handler { screen with handlers := screen.handlers.tail }
  | .clicked click => if screen.destroyed then none else screen.onClick kind entry click
  | .loopFinished =>
    if screen.loopTimer then some { screen with looping := false, loopTimer := false } else none
  | .countedDown => screen.timer.map fun countdown => screen.onFinish countdown
  | .destroyed => if screen.destroyed then none else some screen.onDestroy

/-- After an exception nothing happens. -/
def step (kind : ScreenKind) (entry : Entry) (event : ScreenEvent) (screen : CommandScreen) :
    Option CommandScreen :=
  if screen.crashed then none else screen.act kind entry event

def run (kind : ScreenKind) (entry : Entry) (events : List ScreenEvent) : Option CommandScreen :=
  forEach events (step kind entry) onCreate

end CommandScreen

end LoraEval.App

import LoraEval.App.ExperimentIsolation
import LoraEval.App.ExperimentScreen
import LoraEval.App.Positions

/-! The experiment mode of the app: the overview, the form, `PrepareSenderScreen` and
`StartExperimentScreen` over one database, with the weather requests that outlive a screen.
The form and `PrepareSenderScreen` are not kept in the history, so every screen is left to
the overview. -/

namespace LoraEval.App

open LoraEval.Core

namespace Column

def state : Nat := 11
def startTime : Nat := 19
def senderLongitude : Nat := 21
def senderAltitude : Nat := 22
def receiverLatitude : Nat := 23
def receiverLongitude : Nat := 24

end Column

/-- What the platform decides: how the database converts a key, which texts are numbers to
`Double.parseDouble`, and the texts of the two differences of a record's positions. -/
structure Platform where
  affinity : String → Option Int
  readsDouble : String → Bool
  distance : Entry → String
  altitudeDifference : Entry → String

/-- The exceptions that end the app, by what they come from. -/
inductive Fault where
  | input (exception : Java.Exception)
  | broadcast
  | position
  | nullColumn
  | missingRow
  | missingNext
  | shortTime
  | database (error : DatabaseError)
  | deletedRow
deriving DecidableEq, Repr

structure Location where
  latitude : String
  longitude : String
  altitude : String

namespace Location

/-- The getters of `LocationHandler`: without a fix they return a marker. -/
def getLatitude (currentLocation : Option Location) : String := (currentLocation.map latitude).getD "-1"
def getLongitude (currentLocation : Option Location) : String := (currentLocation.map longitude).getD "-1"
def getAltitude (currentLocation : Option Location) : String := (currentLocation.map altitude).getD "-1"

end Location

structure PrepareSenderScreen where
  experimentNumber : BitVec 32
  connected : Bool
  ready : Bool
  isPrepared : Bool

/-- `StartExperimentScreen`. `entry` is the record as `initSummary` read it, `dialog` the
column that a dialog asks for. -/
structure StartExperimentScreen where
  experimentNumber : BitVec 32
  entry : Entry
  screen : ExperimentScreen String
  locationCard : Bool
  gpsLogged : Bool
  finishedLayout : Bool
  nextExpButton : Bool
  dialog : Option Nat

/-- The screen in front. `closed` is the start screen, or the end by an exception. -/
inductive Screen where
  | closed (fault : Option Fault)
  | overview (absoluteIds : List (BitVec 32))
  | customize
  | prepareSender (screen : PrepareSenderScreen)
  | startExperiment (screen : StartExperimentScreen)

/-- The two files that were uploaded, as the record and the rows they were made of. -/
structure Upload where
  number : BitVec 32
  information : Entry
  data : Option (List (Entries String))

/-- The calls that made the database, the result files, the weather requests under way
and the uploads. -/
structure Phone where
  calls : List DatabaseCall
  files : BitVec 32 → Option (List (Entries String))
  fetching : List (BitVec 32)
  uploads : List Upload
  screen : Screen

/-- What `experimentReady` hands to `logExperiment`. -/
def Form.values (form : Form) : Vector String 16 :=
  #v[form.noMsgs, form.timeBetween, form.msgLength, "0", toString form.autoIncrement,
    form.description, form.distance, form.heightSender, form.heightReceiver, form.environment, "ready",
    byteColumn form.boxes.frequencies.toList, byteColumn form.boxes.bandwidths.toList,
    byteColumn form.boxes.spreadingFactors.toList, byteColumn form.boxes.codingRates.toList,
    byteColumn form.boxes.powers.toList]

theorem newEntry_values (form : Form) (rowId : Nat) : newEntry rowId form.values = form.record rowId := rfl

/-- `getPrimaryColumn`: the ids as `getInt` reads them. -/
def ExperimentStore.getPrimaryColumn (store : ExperimentStore) : List (BitVec 32) :=
  store.experiments.keys.map (BitVec.ofInt 32)

/-- The position behind that of a number; `indexOf` is -1 for a number that is not listed. -/
def nextPosition (experiments : List (BitVec 32)) (number : BitVec 32) : Nat :=
  match experiments.idxOf? number with
  | some position => position + 1
  | none => 0

/-- One `setValueInExpInfo` after another. -/
def updates (number : BitVec 32) (values : List (String × String)) : List DatabaseCall :=
  values.map fun value => .setValueInExpInfo (some value.2) value.1 number

def senderPosition (currentLocation : Option Location) : List (String × String) :=
  [("sender_latitude", Location.getLatitude currentLocation),
    ("sender_longitude", Location.getLongitude currentLocation),
    ("sender_altitude", Location.getAltitude currentLocation)]

def receiverPosition (currentLocation : Option Location) : List (String × String) :=
  [("receiver_latitude", Location.getLatitude currentLocation),
    ("receiver_longitude", Location.getLongitude currentLocation),
    ("receiver_altitude", Location.getAltitude currentLocation)]

def summaryValues (summary : Summary) : List (String × String) :=
  [("number_of_iterations", toString summary.iterations.toInt), ("duration", toString summary.duration.toInt)]

def weatherColumns : List String :=
  ["temperature_values", "humidity_values", "pressure_values", "weather_descriptions"]

/-- Parse columns in turn; the first that is null or no number is an exception. -/
def parsePositions (platform : Platform) (entry : Entry) : List Nat → Option Fault
  | [] => none
  | column :: rest =>
    match entry.get column with
    | none => some .nullColumn
    | some text => if platform.readsDouble text then parsePositions platform entry rest else some .position

/-- The screen as `onCreate` leaves it. Only a ready experiment gets its receivers. -/
def StartExperimentScreen.opened (number : BitVec 32) (entry : Entry) (ready : Bool) :
    StartExperimentScreen where
  experimentNumber := number
  entry := entry
  screen := {
    justShowingInfo := !ready
    connected := false
    ready := false
    startButton := ready
    timer := none
    dbEntries := none }
  locationCard := ready
  gpsLogged := false
  finishedLayout := !ready
  nextExpButton := false
  dialog := none

namespace Phone

def initial : Phone := ⟨[], fun _ => none, [], [], .closed none⟩

section

variable (platform : Platform)

def store (phone : Phone) : ExperimentStore := databaseAfter platform.affinity phone.calls

def record (phone : Phone) (number : BitVec 32) : Option Entry :=
  (phone.store platform).getExperimentInfo number

def write (calls : List DatabaseCall) (phone : Phone) : Phone := { phone with calls := phone.calls ++ calls }

def display (screen : Screen) (phone : Phone) : Phone := { phone with screen := screen }

/-- An exception ends the process with its threads; the database stays. -/
def crash (fault : Fault) (phone : Phone) : Phone :=
  { phone with screen := .closed (some fault), fetching := [] }

/-- Reading a column of a row that does not exist is an exception. -/
def withRecord (number : BitVec 32) (use : Entry → Phone) (phone : Phone) : Phone :=
  match phone.record platform number with
  | none => phone.crash .missingRow
  | some entry => use entry

/-- `equals` on the state column. -/
def withState (entry : Entry) (use : Bool → Phone) (phone : Phone) : Phone :=
  match entry.get Column.state with
  | none => phone.crash .nullColumn
  | some state => use (state = "ready")

/-- `onStart` of the overview, which lists the experiments anew. -/
def showOverview (phone : Phone) : Phone := phone.display (.overview (phone.store platform).getPrimaryColumn)

/-- `onCreate` of `StartExperimentScreen`, with `initSummary` and `setupLocationHandler`. -/
def onCreate (number : BitVec 32) (phone : Phone) : Phone :=
  phone.withRecord platform number fun entry =>
    match initSummary entry with
    | .error exception => phone.crash (.input exception)
    | .ok summary =>
      let phone := phone.write (updates number (summaryValues summary))
      phone.withState entry fun ready =>
        if ready then
          match parsePositions platform entry
              [Column.senderLatitude, Column.senderLongitude, Column.senderAltitude] with
          | some fault => phone.crash fault
          | none => phone.display (.startExperiment (.opened number entry true))
        else phone.display (.startExperiment (.opened number entry false))

/-- `getWeatherData`: the first ten characters of the start time go into the request. -/
def getWeatherData (number : BitVec 32) (phone : Phone) : Phone :=
  phone.withRecord platform number fun entry =>
    match entry.get Column.startTime with
    | none => phone.crash .nullColumn
    | some time =>
      if time.length < 10 then phone.crash .shortTime
      else { phone with fetching := phone.fetching ++ [number] }

def enterDiffValuesIntoDB (number : BitVec 32) (phone : Phone) : Phone :=
  phone.withRecord platform number fun entry =>
    match parsePositions platform entry [Column.senderLatitude, Column.senderLongitude,
        Column.receiverLatitude, Column.receiverLongitude] with
    | some fault => phone.crash fault
    | none =>
      let phone := phone.write (updates number [("actual_distance", platform.distance entry)])
      match parsePositions platform entry [Column.senderAltitude, Column.receiverAltitude] with
      | some fault => phone.crash fault
      | none =>
        (phone.write (updates number [("altitude_difference", platform.altitudeDifference entry)])
          ).getWeatherData platform number

def makeCSV (number : BitVec 32) (rows : List (Entries String)) (phone : Phone) : Phone :=
  { phone with files := Function.update phone.files number (some rows) }

/-- How `makeCSV` ends: the file is opened before the table is read. -/
def csvResult (opens : Bool) (number : BitVec 32) (phone : Phone) : CsvResult :=
  if !opens then .ioException
  else if ((phone.store platform).exportedRows number).isSome then .made else .otherException

/-- The file after `makeCSV`. -/
def withFile (opens : Bool) (number : BitVec 32) (phone : Phone) : Phone :=
  if opens then
    match (phone.store platform).exportedRows number with
    | some rows => phone.makeCSV number rows
    | none => phone
  else phone

/-- Where a path over the positions ends. -/
def follow (path : PositionPath) (fault : Fault) (screen : StartExperimentScreen) (phone : Phone) : Phone :=
  match path with
  | .stopped => phone.display (.startExperiment screen)
  | .crashed => phone.crash fault
  | .asking column => phone.display (.startExperiment { screen with dialog := some column })
  | .entersDiffValues =>
    (phone.display (.startExperiment screen)).enterDiffValuesIntoDB platform screen.experimentNumber

/-- The end of `onFinish`: the files are made if the phone is online and the positions are
known. -/
def automaticCsv (online opens : Bool) (screen : StartExperimentScreen) (phone : Phone) : Phone :=
  phone.withRecord platform screen.experimentNumber fun entry =>
    let path := automaticCsvAndUploadIfAllGPSExistsAndInternetConnection online
      (phone.csvResult platform opens screen.experimentNumber) entry
    let phone :=
      if online && allGPSDataExists entry == some true then
        phone.withFile platform opens screen.experimentNumber
      else phone
    phone.follow platform path
      (if allGPSDataExists entry = none then .nullColumn else .database .noSuchTable) screen

/-- `onFinish` of the duration. The button for the next experiment is shown if the next
one in the list is ready. -/
def finishExperiment (online opens : Bool) (screen : StartExperimentScreen) (phone : Phone) : Phone :=
  let phone := phone.write (updates screen.experimentNumber [("state", "finished")])
  let screen := { screen with
    screen := { screen.screen with timer := none, connected := false }
    finishedLayout := true }
  let experiments := (phone.store platform).getPrimaryColumn
  match experiments[nextPosition experiments screen.experimentNumber]? with
  | none => phone.automaticCsv platform online opens screen
  | some next => phone.withRecord platform next fun entry => phone.withState entry fun ready =>
      phone.automaticCsv platform online opens
        { screen with nextExpButton := screen.nextExpButton || ready }

/-- `onFinish` of the delay. -/
def startMeasurement (now : Nat) (currentLocation : Option Location) (screen : StartExperimentScreen)
    (phone : Phone) : Phone :=
  let position := if screen.gpsLogged then [] else receiverPosition currentLocation
  (phone.write (updates screen.experimentNumber (("start_time", toString now) :: position))).display
    (.startExperiment { screen with
      screen := { screen.screen with timer := some .duration }
      locationCard := false })

/-- `startNextExperiment`: the next experiment gets the position of this one's sender. -/
def startNextExperiment (screen : StartExperimentScreen) (phone : Phone) : Phone :=
  let experiments := (phone.store platform).getPrimaryColumn
  match experiments[nextPosition experiments screen.experimentNumber]? with
  | none => phone.crash .missingNext
  | some next => phone.withRecord platform screen.experimentNumber fun entry =>
      (phone.write [.setValueInExpInfo (entry.get Column.senderLatitude) "sender_latitude" next,
        .setValueInExpInfo (entry.get Column.senderLongitude) "sender_longitude" next,
        .setValueInExpInfo (entry.get Column.senderAltitude) "sender_altitude" next]).onCreate platform next

end

end Phone

/-- What happens to the app. Every event carries what the platform reports with it. -/
inductive PhoneEvent where
  | toExperiment
  | newExperiment
  | experimentReady (form : Form) (startNow : Bool)
  | select (position : Nat)
  | delete (position : Nat)
  | connection (connected : Bool)
  | prepareSender (currentLocation : Option Location)
  | cancelPreparation
  | toStartExperiment (orientation : String)
  | general (status : Int)
  | start (power : Byte) (hours minutes seconds : String)
  | received (fields : Option (Fields String))
  | logLocation (currentLocation : Option Location) (orientation : String)
  | countedDown (now : Nat) (currentLocation : Option Location) (online opens : Bool)
  | createCsv (opens : Bool)
  | confirm (loc : String)
  | dismiss
  | startNextExperiment
  | recreated
  | left
  | killed
  | weather (number : BitVec 32) (values : Option (List String)) (opens : Bool)

namespace Phone

section

variable (platform : Platform)

def overviewStep (event : PhoneEvent) (absoluteIds : List (BitVec 32)) (phone : Phone) : Option Phone :=
  match event with
  | .newExperiment => some (phone.display .customize)
  | .select position => absoluteIds[position]?.map fun id =>
      phone.withRecord platform id fun entry => phone.withState entry fun ready =>
        if ready then phone.display (.prepareSender ⟨id, false, false, false⟩) else phone.onCreate platform id
  | .delete position => absoluteIds[position]?.map fun id =>
      let deleted := phone.write [.deleteExperiment id]
      match ((phone.store platform).deleteExperiment id).2 with
      | some error => deleted.crash (.database error)
      | none => deleted.showOverview platform
  | .left => some (phone.display (.closed none))
  | .connection _ | .general _ | .received _ => some phone
  | _ => none

def customizeStep (event : PhoneEvent) (phone : Phone) : Option Phone :=
  match event with
  | .experimentReady form startNow => some <|
      match experimentReady form (phone.store platform).nextId with
      | .error exception => phone.crash (.input exception)
      | .ok (.toast _) => phone
      | .ok (.stored _) =>
        let created := phone.write [.create form.values]
        match ((phone.store platform).create form.values).2, (created.store platform).getLastPos with
        | some error, _ => created.crash (.database error)
        | none, none => created.crash (.database .cursorIndex)
        | none, some lastPos =>
          if startNow then created.display (.prepareSender ⟨lastPos, false, false, false⟩)
          else created.showOverview platform
  | .left => some (phone.showOverview platform)
  | .connection _ | .general _ | .received _ => some phone
  | _ => none

/-- `PrepareSenderScreen`: one of its two buttons is shown, by `isPrepared`. -/
def prepareStep (event : PhoneEvent) (screen : PrepareSenderScreen) (phone : Phone) : Option Phone :=
  match event with
  | .connection connected =>
    some (phone.display (.prepareSender { screen with connected := connected, ready := connected }))
  | .prepareSender currentLocation =>
    if screen.isPrepared then none
    else if screen.ready then
      some ((phone.write (updates screen.experimentNumber (senderPosition currentLocation))).display
        (.prepareSender { screen with isPrepared := true }))
    else some phone
  | .cancelPreparation =>
    if screen.isPrepared then
      some (if screen.ready then phone.display (.prepareSender { screen with isPrepared := false })
        else phone)
    else none
  | .toStartExperiment orientation =>
    let position := if screen.isPrepared then [] else senderPosition none
    some ((phone.write (updates screen.experimentNumber
      (position ++ [("sender_orientation", orientation)]))).onCreate platform screen.experimentNumber)
  | .left => some (phone.showOverview platform)
  | .general _ | .received _ => some phone
  | _ => none

/-- The broadcasts that the open screen of a ready experiment receives. -/
def broadcastStep (event : PhoneEvent) (screen : StartExperimentScreen) (phone : Phone) : Phone :=
  match event with
  | .connection connected =>
    phone.display (.startExperiment { screen with
      screen := { screen.screen with connected := connected, ready := screen.screen.ready && connected } })
  | .general status =>
    if status = -2 then
      phone.display (.startExperiment { screen with screen := { screen.screen with ready := true } })
    else if status = -6 then
      phone.display (.startExperiment { screen with screen := { screen.screen with timer := some .delay } })
    else phone
  | .received none => phone.crash .broadcast
  | .received (some fields) =>
    let log := ResultLog.receive ⟨screen.screen.dbEntries, []⟩ fields
    (phone.write (log.rows.map (.logReceivedTransmission screen.experimentNumber))).display
      (.startExperiment { screen with screen := { screen.screen with dbEntries := log.dbEntries } })
  | _ => phone

/-- The buttons of the screen; behind a dialog none can be pressed. -/
def buttonStep (event : PhoneEvent) (screen : StartExperimentScreen) (phone : Phone) : Option Phone :=
  match event with
  | .start power hours minutes seconds =>
    if screen.screen.startButton then
      some (match startExperiment screen.entry power hours minutes seconds with
        | .error exception => phone.crash (.input exception)
        | .ok _ => phone.display (.startExperiment { screen with
            screen := { screen.screen with startButton := false } }))
    else none
  | .logLocation currentLocation orientation =>
    if screen.locationCard then
      some ((phone.write (updates screen.experimentNumber
        (receiverPosition currentLocation ++ [("receiver_orientation", orientation)]))).display
          (.startExperiment { screen with gpsLogged := true }))
    else none
  | .createCsv opens =>
    if screen.finishedLayout then
      some (phone.withRecord platform screen.experimentNumber fun entry =>
        let csv := phone.csvResult platform opens screen.experimentNumber
        (phone.withFile platform opens screen.experimentNumber).follow platform (App.createCsv csv entry).path
          (if csv = .otherException then .database .noSuchTable else .nullColumn) screen)
    else none
  | .startNextExperiment =>
    if screen.nextExpButton then some (phone.startNextExperiment platform screen) else none
  | .left => some (phone.withRecord platform screen.experimentNumber fun entry =>
      phone.withState entry fun _ => phone.showOverview platform)
  | _ => none

/-- The dialog for a missing position. -/
def dialogStep (event : PhoneEvent) (column : Nat) (screen : StartExperimentScreen) (phone : Phone) :
    Option Phone :=
  match event with
  | .confirm loc => locationIdentifiers[column - Column.senderLatitude]?.map fun locationIdentifier =>
      let phone := phone.write (updates screen.experimentNumber [(locationIdentifier, loc)])
      phone.withRecord platform screen.experimentNumber fun entry =>
        phone.follow platform (completeLocationValues (column + 1) entry) .nullColumn
          { screen with dialog := none }
  | .dismiss => some (phone.display (.startExperiment { screen with dialog := none }))
  | _ => none

/-- What the user presses is a button of the dialog, as long as one covers the screen. -/
def userStep (event : PhoneEvent) (screen : StartExperimentScreen) (phone : Phone) : Option Phone :=
  match screen.dialog with
  | none => phone.buttonStep platform event screen
  | some column => phone.dialogStep platform event column screen

def experimentStep (event : PhoneEvent) (screen : StartExperimentScreen) (phone : Phone) : Option Phone :=
  match event with
  | .connection _ | .general _ | .received _ =>
    some (if screen.screen.justShowingInfo then phone else phone.broadcastStep event screen)
  | .countedDown now currentLocation online opens =>
    screen.screen.timer.map fun countdown =>
      match countdown with
      | .delay => phone.startMeasurement now currentLocation screen
      | .duration => phone.finishExperiment platform online opens screen
  | .recreated => some (phone.onCreate platform screen.experimentNumber)
  | _ => phone.userStep platform event screen

/-- The callback of a weather request. The values are stored until one is missing; behind
the last one the information file is made, and both files are uploaded. -/
def weatherStep (number : BitVec 32) (values : Option (List String)) (opens : Bool) (phone : Phone) :
    Option Phone :=
  if number ∈ phone.fetching then
    let phone := { phone with fetching := phone.fetching.erase number }
    match values with
    | none => some phone
    | some values =>
      let phone := phone.write (updates number (weatherColumns.zip values))
      if values.length < weatherColumns.length then some phone
      else match phone.record platform number with
        | none => some (phone.crash .deletedRow)
        | some entry =>
          if opens then some { phone with uploads := phone.uploads ++ [⟨number, entry, phone.files number⟩] }
          else some phone
  else none

def step (event : PhoneEvent) (phone : Phone) : Option Phone :=
  match event with
  | .weather number values opens => phone.weatherStep platform number values opens
  | .killed => some { phone with screen := .closed none, fetching := [] }
  | _ =>
    match phone.screen with
    | .closed _ => if event matches .toExperiment then some (phone.showOverview platform) else none
    | .overview absoluteIds => phone.overviewStep platform event absoluteIds
    | .customize => phone.customizeStep platform event
    | .prepareSender screen => phone.prepareStep platform event screen
    | .startExperiment screen => phone.experimentStep platform event screen

def after (events : List PhoneEvent) : Option Phone := forEach events (step platform) initial

end

end Phone

end LoraEval.App

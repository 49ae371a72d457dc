import LoraEval.Core.Run

/-! The Bluetooth connection of a screen: `BLEHandler`, its `Scanner`, and the
`Central` objects the scanner makes, one for every scan it starts. -/

namespace LoraEval.App

open LoraEval.Core

/-- A `Central`: the client it opened last, and whether it scans again after a
disconnection. -/
structure CentralObject where
  bluetoothGatt : Option Nat
  reopenConnection : Bool
deriving DecidableEq, Repr

/-- A client that `connectGatt` has opened, with the `Central` it calls back. -/
structure Gatt where
  number : Nat
  owner : Nat
deriving DecidableEq, Repr

structure Connection where
  /-- Every `Central` made so far; its position is its identity. -/
  centrals : List CentralObject
  central : Option Nat
  /-- `bluetoothLeScanner != null`. -/
  scanning : Bool
  /-- The clients opened and not yet closed. -/
  gatts : List Gatt
  opened : Nat
  /-- Matching results of a scan that are not delivered yet. -/
  queued : Nat
  /-- A result was handled while `central` was null. -/
  nullCentral : Bool
deriving DecidableEq, Repr

namespace Connection

def initial : Connection := ⟨[], none, false, [], 0, 0, false⟩

def startScanning (connection : Connection) : Connection :=
  { connection with
    centrals := connection.centrals ++ [⟨none, true⟩]
    central := some connection.centrals.length
    scanning := true }

def stopScanning (connection : Connection) : Connection := { connection with scanning := false }

/-- `gatt.close()`. -/
def closeGatt (number : Nat) (connection : Connection) : Connection :=
  { connection with gatts := connection.gatts.filter fun gatt => gatt.number ≠ number }

/-- `Central.connect`. -/
def connectGatt (index : Nat) (connection : Connection) : Connection :=
  { connection with
    centrals := connection.centrals.modify index fun object =>
      { object with bluetoothGatt := some connection.opened }
    gatts := connection.gatts ++ [⟨connection.opened, index⟩]
    opened := connection.opened + 1 }

def onScanResult (connection : Connection) : Connection :=
  match connection.central with
  | none => { connection with nullCentral := true }
  | some index => (connection.connectGatt index).stopScanning

/-- The flag `reopenConnection` of a `Central`. -/
def reopens (connection : Connection) (index : Nat) : Bool :=
  connection.centrals[index]?.any (·.reopenConnection)

/-- `onConnectionStateChange` for a disconnection. -/
def onDisconnected (gatt : Gatt) (connection : Connection) : Connection :=
  if connection.reopens gatt.owner then (connection.closeGatt gatt.number).startScanning
  else connection.closeGatt gatt.number

/-- The `bluetoothGatt` of a `Central`. -/
def gattOf (connection : Connection) (index : Nat) : Option Nat :=
  connection.centrals[index]?.bind (·.bluetoothGatt)

/-- The client of the current `Central`. -/
def currentGatt (connection : Connection) : Option Nat := connection.central.bind connection.gattOf

/-- `Central.closeConnection`: the flag is only cleared if there is a client. -/
def closeCentral (index : Nat) (connection : Connection) : Connection :=
  match connection.gattOf index with
  | none => connection
  | some number =>
    { connection with
      centrals := connection.centrals.modify index fun object =>
        { object with reopenConnection := false } }.closeGatt number

/-- `BLEHandler.closeConnection`. -/
def closeConnection (connection : Connection) : Connection :=
  match connection.central with
  | none => connection.stopScanning
  | some index => { connection.closeCentral index with central := none }.stopScanning

theorem closeConnection_flags (connection : Connection) :
    connection.closeConnection.central = none ∧ connection.closeConnection.scanning = false ∧
      connection.closeConnection.nullCentral = connection.nullCentral := by
  unfold closeConnection
  cases central : connection.central with
  | none => exact ⟨central, rfl, rfl⟩
  | some index =>
    rcases Option.eq_none_or_eq_some (connection.gattOf index) with found | ⟨number, found⟩
    · simp [closeCentral, stopScanning, found]
    · simp [closeCentral, stopScanning, found, closeGatt]

theorem currentGatt_congr {connection other : Connection} (central : connection.central = other.central)
    (centrals : connection.centrals = other.centrals) : connection.currentGatt = other.currentGatt := by
  simp only [currentGatt, central]
  cases other.central with
  | none => rfl
  | some index => simp [gattOf, centrals]

theorem currentGatt_startScanning (connection : Connection) :
    connection.startScanning.currentGatt = none := by
  simp [currentGatt, gattOf, startScanning]

theorem currentGatt_onScanResult {connection : Connection} (central : connection.central = some index)
    (valid : index < connection.centrals.length) :
    connection.onScanResult.currentGatt = some connection.opened := by
  simp [currentGatt, gattOf, onScanResult, connectGatt, stopScanning, central, valid]

end Connection

/-- What can happen to a connection. Callbacks come for open clients only; a result
found by a scan may be delivered after the scan. -/
inductive ConnectionEvent where
  | connect
  | found
  | scanResult
  | connected (gatt : Gatt)
  | disconnected (gatt : Gatt)
  | closeConnection
deriving DecidableEq, Repr

def Connection.step (event : ConnectionEvent) (connection : Connection) : Option Connection :=
  match event with
  | .connect => some connection.startScanning
  | .found => if connection.scanning then some { connection with queued := connection.queued + 1 } else none
  | .scanResult =>
    if 0 < connection.queued then
      some { connection with queued := connection.queued - 1 }.onScanResult
    else none
  | .connected gatt => if gatt ∈ connection.gatts then some connection else none
  | .disconnected gatt => if gatt ∈ connection.gatts then some (connection.onDisconnected gatt) else none
  | .closeConnection => some connection.closeConnection

inductive Connection.Steps (connection : Connection) : ConnectionEvent → Connection → Prop where
  | connect : Steps connection .connect connection.startScanning
  | found (scanning : connection.scanning = true) :
      Steps connection .found { connection with queued := connection.queued + 1 }
  | scanResult (number : Nat) :
      Steps connection .scanResult { connection with queued := number }.onScanResult
  | connected (member : gatt ∈ connection.gatts) : Steps connection (.connected gatt) connection
  | disconnected (member : gatt ∈ connection.gatts) :
      Steps connection (.disconnected gatt) (connection.onDisconnected gatt)
  | closeConnection : Steps connection .closeConnection connection.closeConnection

theorem Connection.step_taken {connection : Connection} (taken : connection.step event = some next) :
    connection.Steps event next := by
  cases event with
  | connect => exact Option.some.inj taken ▸ .connect
  | found =>
    obtain ⟨scanning, same⟩ := Option.ite_none_right_eq_some.mp taken
    exact Option.some.inj same ▸ .found scanning
  | scanResult =>
    obtain ⟨-, same⟩ := Option.ite_none_right_eq_some.mp taken
    exact Option.some.inj same ▸ .scanResult (connection.queued - 1)
  | connected gatt =>
    obtain ⟨member, same⟩ := Option.ite_none_right_eq_some.mp taken
    exact Option.some.inj same ▸ .connected member
  | disconnected gatt =>
    obtain ⟨member, same⟩ := Option.ite_none_right_eq_some.mp taken
    exact Option.some.inj same ▸ .disconnected member
  | closeConnection => exact Option.some.inj taken ▸ .closeConnection

def Connection.run (events : List ConnectionEvent) : Option Connection :=
  forEach events step .initial

end LoraEval.App

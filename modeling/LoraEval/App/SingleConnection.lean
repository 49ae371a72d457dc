import LoraEval.App.Connection

namespace LoraEval.App

open LoraEval.Core

/-- `closeConnection` was called, and `connect` not since. -/
def Released : List ConnectionEvent → Prop :=
  Since (· ≠ .connect) (fun _ event => event = .closeConnection)

theorem released_append :
    Released (history ++ [event]) ↔
      event = .closeConnection ∨ event ≠ .connect ∧ Released history :=
  since_append

namespace Connection

/-- At most one client is open, no result met a null `Central`, and a released
connection has no client and no scan. -/
structure Single (history : List ConnectionEvent) (connection : Connection) : Prop where
  one : connection.gatts.length ≤ 1
  handled : connection.nullCentral = false
  quiet : Released history → connection.gatts = [] ∧ connection.scanning = false

/-- A result is handled during a scan and with no client open, and `closeConnection`
is called with no other client open than that of the current `Central`. -/
def Safe (event : ConnectionEvent) (connection : Connection) : Prop :=
  match event with
  | .scanResult => connection.scanning = true ∧ connection.gatts = []
  | .closeConnection => ∀ gatt ∈ connection.gatts, connection.currentGatt = some gatt.number
  | _ => True

/-- What holds as long as there is a single connection: a scan has its `Central`, and
a `Central` that does not scan has a client that will scan again. -/
structure Inv (history : List ConnectionEvent) (connection : Connection) : Prop where
  scanned : connection.scanning = true → connection.central ≠ none
  current : ∀ index, connection.central = some index → connection.reopens index = true
  served : connection.central ≠ none → connection.scanning = false →
    ∃ gatt ∈ connection.gatts, connection.reopens gatt.owner = true
  released : Released history → connection.central = none

theorem Inv.initial : Inv [] initial :=
  ⟨by simp [Connection.initial], by simp [Connection.initial], by simp [Connection.initial],
    fun released => absurd released not_since_nil⟩

theorem Single.initial : Single [] initial :=
  ⟨by simp [Connection.initial], rfl, fun released => absurd released not_since_nil⟩

@[simp] theorem reopens_startScanning (connection : Connection) :
    connection.startScanning.reopens connection.centrals.length = true := by
  simp [startScanning, reopens]

@[simp] theorem reopens_connectGatt (connection : Connection) (index other : Nat) :
    (connection.connectGatt index).reopens other = connection.reopens other := by
  simp only [connectGatt, reopens, List.getElem?_modify]
  by_cases same : index = other <;> cases connection.centrals[other]? <;> simp [same]

/-- `closeConnection` leaves the clients other than the current one. -/
theorem closeConnection_gatts (connection : Connection) :
    connection.closeConnection.gatts =
      connection.gatts.filter fun gatt => connection.currentGatt ≠ some gatt.number := by
  unfold closeConnection currentGatt
  cases central : connection.central with
  | none => simp [stopScanning]
  | some index =>
    rcases Option.eq_none_or_eq_some (connection.gattOf index) with found | ⟨number, found⟩
    · simp [closeCentral, stopScanning, found]
    · simp [closeCentral, stopScanning, found, closeGatt, eq_comm]

/-- A result keeps a single connection exactly if it is handled during a scan and with
no client open. -/
theorem single_scanResult (inv : Inv history connection) (single : Single history connection) :
    Single (history ++ [.scanResult]) { connection with queued := number }.onScanResult ↔
      connection.scanning = true ∧ connection.gatts = [] := by
  cases central : connection.central with
  | none =>
    refine iff_of_false (fun after => ?_) fun safe => inv.scanned safe.1 central
    simpa [onScanResult, central] using after.handled
  | some index =>
    constructor
    · intro after
      have empty : connection.gatts = [] := by
        simpa [onScanResult, central, connectGatt, stopScanning] using after.one
      refine ⟨?_, empty⟩
      by_contra stopped
      obtain ⟨gatt, member, -⟩ := inv.served (by simp [central]) (by simpa using stopped)
      simp [empty] at member
    · rintro ⟨-, empty⟩
      refine ⟨?_, ?_, fun released => ?_⟩
      · simp [onScanResult, connectGatt, stopScanning, empty]
      · simpa [onScanResult, central, connectGatt, stopScanning] using single.handled
      · have before : Released history := by simpa [released_append] using released
        simp [inv.released before] at central

theorem single_disconnected (single : Single history connection) (member : gatt ∈ connection.gatts) :
    Single (history ++ [.disconnected gatt]) (connection.onDisconnected gatt) := by
  have fewer : (connection.gatts.filter fun other => other.number ≠ gatt.number).length ≤ 1 :=
    Nat.le_trans (List.length_filter_le _ _) single.one
  refine ⟨?_, ?_, fun released => ?_⟩
  · unfold onDisconnected
    split <;> exact fewer
  · unfold onDisconnected
    split <;> exact single.handled
  · have before : Released history := by simpa [released_append] using released
    simp [(single.quiet before).1] at member

theorem single_closeConnection (single : Single history connection) :
    Single (history ++ [.closeConnection]) connection.closeConnection ↔
      ∀ gatt ∈ connection.gatts, connection.currentGatt = some gatt.number := by
  obtain ⟨-, scanning, handled⟩ := connection.closeConnection_flags
  constructor
  · intro after gatt member
    have empty := (after.quiet (released_append.mpr (.inl rfl))).1
    rw [closeConnection_gatts, List.filter_eq_nil_iff] at empty
    simpa using empty gatt member
  · intro current
    have empty : connection.closeConnection.gatts = [] := by
      rw [closeConnection_gatts, List.filter_eq_nil_iff]
      intro gatt member
      simp [current gatt member]
    exact ⟨by simp [empty], handled.trans single.handled, fun _ => ⟨empty, scanning⟩⟩

theorem single_step (taken : connection.step event = some next) (inv : Inv history connection)
    (single : Single history connection) :
    Single (history ++ [event]) next ↔ connection.Safe event := by
  cases step_taken taken with
  | connect => exact iff_of_true ⟨single.one, single.handled, by simp [released_append]⟩ trivial
  | found scanning =>
    exact iff_of_true ⟨single.one, single.handled, by simpa [released_append] using single.quiet⟩ trivial
  | scanResult => exact single_scanResult inv single
  | connected member =>
    exact iff_of_true ⟨single.one, single.handled, by simpa [released_append] using single.quiet⟩ trivial
  | disconnected member => exact iff_of_true (single_disconnected single member) trivial
  | closeConnection => exact single_closeConnection single

theorem Single.unique (single : Single history connection) (member : gatt ∈ connection.gatts)
    (also : other ∈ connection.gatts) : other = gatt := by
  have length : connection.gatts.length = 1 :=
    Nat.le_antisymm single.one (List.length_pos_of_mem member)
  obtain ⟨only, same⟩ := List.length_eq_one_iff.mp length
  simp_all

theorem Inv.disconnected (inv : Inv history connection) (single : Single history connection)
    (member : gatt ∈ connection.gatts) :
    Inv (history ++ [.disconnected gatt]) (connection.onDisconnected gatt) := by
  have unreleased : ¬ Released (history ++ [.disconnected gatt]) := by
    intro released
    have before : Released history := by simpa [released_append] using released
    simp [(single.quiet before).1] at member
  unfold onDisconnected
  split
  · refine ⟨by simp [startScanning], ?_, by simp [startScanning], fun released => absurd released unreleased⟩
    intro index current
    obtain rfl : (connection.closeGatt gatt.number).centrals.length = index := by
      simpa [startScanning] using current
    exact reopens_startScanning _
  · rename_i ends
    refine ⟨inv.scanned, inv.current, ?_, fun released => absurd released unreleased⟩
    intro present stopped
    obtain ⟨other, held, reopening⟩ := inv.served present stopped
    obtain rfl := single.unique member held
    exact absurd reopening ends

theorem Inv.step (taken : connection.step event = some next) (inv : Inv history connection)
    (single : Single history connection) (safe : connection.Safe event) : Inv (history ++ [event]) next := by
  cases step_taken taken with
  | connect =>
    refine ⟨by simp [startScanning], ?_, by simp [startScanning], by simp [released_append]⟩
    intro index current
    obtain rfl : connection.centrals.length = index := by simpa [startScanning] using current
    exact reopens_startScanning connection
  | found scanning =>
    exact ⟨inv.scanned, inv.current, inv.served, by simpa [released_append] using inv.released⟩
  | scanResult number =>
    obtain ⟨scanning, empty⟩ := safe
    obtain ⟨index, central⟩ := Option.ne_none_iff_exists'.mp (inv.scanned scanning)
    have result : { connection with queued := number }.onScanResult =
        ({ connection with queued := number }.connectGatt index).stopScanning := by
      simp [onScanResult, central]
    have reopening : ({ connection with queued := number }.connectGatt index).reopens index = true := by
      rw [reopens_connectGatt]
      exact inv.current index central
    rw [result]
    refine ⟨by simp [stopScanning], ?_, ?_, ?_⟩
    · intro other current
      obtain rfl : index = other := Option.some.inj (central.symm.trans current)
      exact reopening
    · intro _ _
      exact ⟨⟨connection.opened, index⟩, by simp [stopScanning, connectGatt], reopening⟩
    · intro released
      have before : Released history := by simpa [released_append] using released
      simp [inv.released before] at central
  | connected member =>
    exact ⟨inv.scanned, inv.current, inv.served, by simpa [released_append] using inv.released⟩
  | disconnected member => exact inv.disconnected single member
  | closeConnection =>
    obtain ⟨central, scanning, -⟩ := connection.closeConnection_flags
    exact ⟨by simp [scanning], by simp [central], by simp [central], fun _ => central⟩

/-- For every order of events: there is at most one open client, no result is handled
with a null `Central` and a released connection stays without client and scan, exactly
if every result is handled during a scan with no client open and every call of
`closeConnection` finds no other client open than that of the current `Central`. -/
theorem single_connection_iff (run : Connection.run events = some final) :
    Always step Single [] initial events ↔
      Meets step (fun _ event connection => Safe event connection) [] initial events :=
  always_iff Inv (fun _ _ _ _ taken inv single => single_step taken inv single)
    (fun _ _ _ _ taken inv single safe => inv.step taken single safe) run Inv.initial Single.initial

private def sampleEvents : List ConnectionEvent :=
  [.connect, .found, .scanResult, .connected ⟨0, 0⟩, .disconnected ⟨0, 0⟩, .found, .scanResult,
    .connected ⟨1, 1⟩, .closeConnection]

theorem single_connection_sample : Always step Single [] initial sampleEvents := by
  have run : Connection.run sampleEvents = some _ := rfl
  refine (single_connection_iff run).mpr ?_
  refine .cons trivial rfl (.cons trivial rfl (.cons ⟨rfl, rfl⟩ rfl (.cons trivial rfl ?_)))
  refine .cons trivial rfl (.cons trivial rfl (.cons ⟨rfl, rfl⟩ rfl (.cons trivial rfl ?_)))
  refine .cons ?_ rfl trivial
  show ∀ gatt ∈ [(⟨1, 1⟩ : Gatt)], some 1 = some gatt.number
  simp

/-- A second queued result opens a second client, a result queued when the connection is
closed meets no `Central`, and a client opened before a second `connect` survives
`closeConnection`. -/
theorem queued_result_handled :
    ¬ Always step Single [] initial [.connect, .found, .found, .scanResult, .scanResult] ∧
      ¬ Always step Single [] initial [.connect, .found, .closeConnection, .scanResult] ∧
      ¬ Always step Single [] initial [.connect, .found, .scanResult, .connect, .closeConnection] := by
  refine ⟨?_, ?_, ?_⟩
  · intro always
    exact absurd (always.finish rfl).one (by decide)
  · intro always
    exact absurd (always.finish rfl).handled (by decide)
  · intro always
    have released : Released ([.connect, .found, .scanResult, .connect] ++ [.closeConnection]) :=
      released_append.mpr (.inl rfl)
    exact absurd ((always.finish rfl).quiet released).1 (by decide)

end Connection

end LoraEval.App

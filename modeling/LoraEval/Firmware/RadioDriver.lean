import LoraEval.Core.Run
import LoraEval.Firmware.Receiver

/-! The LoRa driver (`sx12xx_common.c`) under every interleaving of the calls of one thread
with the interrupts of the radio. A received packet lies in global variables until the
thread has copied it, byte by byte. -/

namespace LoraEval.Firmware

open LoraEval.Core

/-- What the last call of a function of `Radio` has put the radio into. -/
inductive RadioMode where
  | sleeping
  | receiving
  | sending
deriving DecidableEq, Repr

/-- Where the thread is in `sx12xx_lora_recv`: outside, at `k_sem_take`, behind it, in the
`memcpy` of `length` bytes, before it reads `rssi`, `snr` and `rx_len` once more. -/
inductive RecvCall where
  | idle
  | waiting (size : Nat)
  | taken (size : Nat)
  | copying (size length : Nat) (data : List Byte)
  | strength (size : Nat) (data : List Byte)
  | ratio (size : Nat) (data : List Byte) (rssi : Int)
  | leaving (size : Nat) (data : List Byte) (rssi snr : Int)
deriving DecidableEq, Repr

/-- A return of `sx12xx_lora_recv` with a packet: the bytes written to `data`, the values
stored, and the length returned. -/
structure RecvOutcome where
  size : Nat
  data : List Byte
  rssi : Int
  snr : Int
  length : Nat
deriving DecidableEq, Repr

/-- `dev_data` with the buffer `rx_buf` points to, the mode of the radio, and the thread. -/
structure RadioDriver where
  mode : RadioMode
  dataSem : Nat
  rxBuf : Vector Byte maxTransmLen
  rxLen : Nat
  rssi : Int
  snr : Int
  call : RecvCall
  returned : List RecvOutcome

/-- Calls and steps of the thread, and interrupts. -/
inductive RadioEvent where
  | recv (size : Nat)
  | send
  | step
  | timeout
  | rxDone (reception : Reception)
  | txDone
deriving DecidableEq, Repr

namespace RadioDriver

/-- `sx12xx_init`. -/
def init : RadioDriver := ⟨.sleeping, 0, Vector.replicate maxTransmLen 0, 0, 0, 0, .idle, []⟩

/-- The next step of the thread in `sx12xx_lora_recv`. -/
def proceed (driver : RadioDriver) : Option RadioDriver :=
  match driver.call with
  | .idle => none
  | .waiting size =>
    if driver.dataSem = 0 then none
    else some { driver with dataSem := driver.dataSem - 1, call := .taken size }
  | .taken size =>
    let rxLen := if driver.rxLen > size then size else driver.rxLen
    some { driver with rxLen, call := .copying size rxLen [] }
  | .copying size length data =>
    if data.length = length then some { driver with call := .strength size data }
    else do
      let byte ← driver.rxBuf[data.length]?
      return { driver with call := .copying size length (data ++ [byte]) }
  | .strength size data => some { driver with call := .ratio size data driver.rssi }
  | .ratio size data rssi => some { driver with call := .leaving size data rssi driver.snr }
  | .leaving size data rssi snr =>
    some { driver with call := .idle, returned := driver.returned ++ [⟨size, data, rssi, snr, driver.rxLen⟩] }

/-- `sx12xx_ev_rx_done`; `rx_len` has eight bits. -/
def rxDone (reception : Reception) (driver : RadioDriver) : RadioDriver :=
  { driver with
    mode := .sleeping
    rxBuf := overwrite driver.rxBuf reception.packet
    rxLen := reception.packet.length % 256
    rssi := reception.rssi
    snr := reception.snr
    dataSem := driver.dataSem + 1 }

/-- One event. `Radio.Rx` clears the buffer before it starts to receive. A packet, of at
most 255 bytes, arrives only while the radio receives. After a timeout nothing is called,
and the radio goes on receiving. -/
def react (event : RadioEvent) (driver : RadioDriver) : Option RadioDriver :=
  match event with
  | .recv size =>
    if driver.call = .idle then
      some { driver with
        mode := .receiving, rxBuf := Vector.replicate maxTransmLen 0, call := .waiting size }
    else none
  | .send => if driver.call = .idle then some { driver with mode := .sending } else none
  | .step => driver.proceed
  | .timeout =>
    match driver.call with
    | .waiting _ => if driver.dataSem = 0 then some { driver with call := .idle } else none
    | _ => none
  | .rxDone reception =>
    if driver.mode = .receiving ∧ reception.packet.length ≤ maxTransmLen then some (driver.rxDone reception)
    else none
  | .txDone => if driver.mode = .sending then some { driver with mode := .sleeping } else none

end RadioDriver

def RadioEvent.reception? : RadioEvent → Option Reception
  | .rxDone reception => some reception
  | _ => none

def arrivals (events : List RadioEvent) : List Reception := events.filterMap RadioEvent.reception?

/-- A return with the whole packet, as far as the size of the call allows, and with its
own signal values. -/
structure RecvOutcome.Whole (reception : Reception) (outcome : RecvOutcome) : Prop where
  length : outcome.length = min reception.packet.length outcome.size
  data : outcome.data = reception.packet.take outcome.size
  rssi : outcome.rssi = reception.rssi
  snr : outcome.snr = reception.snr

/-- A packet arrives only while a call waits for it and no other packet is left over. -/
def Awaited (event : RadioEvent) (driver : RadioDriver) : Prop :=
  event.reception?.isSome → driver.dataSem = 0 ∧ ∃ size, driver.call = .waiting size

def RadioEvent.Quiet : RadioEvent → Prop
  | .step | .timeout | .txDone => True
  | .recv _ | .send | .rxDone _ => False

/-- A call has timed out, and since then nothing was called and no packet has arrived: the
radio still receives. -/
def Lingering (events : List RadioEvent) : Prop :=
  Since RadioEvent.Quiet (fun _ event => event = .timeout) events

structure RadioDriver.Holds (driver : RadioDriver) (reception : Reception) : Prop where
  buffer : driver.rxBuf.toList.take reception.packet.length = reception.packet
  rssi : driver.rssi = reception.rssi
  snr : driver.snr = reception.snr

def RecvCall.Handles (call : RecvCall) (reception : Reception) (dataSem rxLen : Nat) : Prop :=
  match call with
  | .idle => False
  | .waiting _ => dataSem = 1 ∧ rxLen = reception.packet.length
  | .taken _ => dataSem = 0 ∧ rxLen = reception.packet.length
  | .copying size length data => dataSem = 0 ∧ rxLen = min reception.packet.length size ∧ length = rxLen ∧
      data.length ≤ length ∧ data = reception.packet.take data.length
  | .strength size data => dataSem = 0 ∧ rxLen = min reception.packet.length size ∧
      data = reception.packet.take size
  | .ratio size data rssi => dataSem = 0 ∧ rxLen = min reception.packet.length size ∧
      data = reception.packet.take size ∧ rssi = reception.rssi
  | .leaving size data rssi snr => dataSem = 0 ∧ rxLen = min reception.packet.length size ∧
      data = reception.packet.take size ∧ rssi = reception.rssi ∧ snr = reception.snr

/-- Either nothing is left over, or a call handles the last packet. -/
inductive RadioDriver.Consistent (events : List RadioEvent) (driver : RadioDriver) : Prop where
  | clear (served : List.Forall₂ RecvOutcome.Whole (arrivals events) driver.returned)
      (empty : driver.dataSem = 0) (outside : driver.call = .idle ∨ ∃ size, driver.call = .waiting size)
  | pending (front : List Reception) (last : Reception) (arrived : arrivals events = front ++ [last])
      (served : List.Forall₂ RecvOutcome.Whole front driver.returned) (holds : driver.Holds last)
      (handles : driver.call.Handles last driver.dataSem driver.rxLen)

theorem arrivals_rxDone (events : List RadioEvent) (reception : Reception) :
    arrivals (events ++ [.rxDone reception]) = arrivals events ++ [reception] :=
  List.filterMap_append

theorem arrivals_silent (events : List RadioEvent) (silent : event.reception? = none) :
    arrivals (events ++ [event]) = arrivals events := by
  rw [arrivals, List.filterMap_append, List.filterMap_cons, silent]
  exact List.append_nil _

section

variable {driver next : RadioDriver} {events : List RadioEvent}

/-- What a step of the thread can do. -/
inductive RadioDriver.Proceeds (driver : RadioDriver) : RadioDriver → Prop where
  | take (call : driver.call = .waiting size) (counted : driver.dataSem ≠ 0) :
      Proceeds driver { driver with dataSem := driver.dataSem - 1, call := .taken size }
  | shorten (call : driver.call = .taken size) (shortened : length = min driver.rxLen size) :
      Proceeds driver { driver with rxLen := length, call := .copying size length [] }
  | copied (call : driver.call = .copying size length data) (complete : data.length = length) :
      Proceeds driver { driver with call := .strength size data }
  | copy (call : driver.call = .copying size length data) (more : data.length ≠ length)
      (read : driver.rxBuf[data.length]? = some byte) :
      Proceeds driver { driver with call := .copying size length (data ++ [byte]) }
  | readRssi (call : driver.call = .strength size data) :
      Proceeds driver { driver with call := .ratio size data driver.rssi }
  | readSnr (call : driver.call = .ratio size data strength) :
      Proceeds driver { driver with call := .leaving size data strength driver.snr }
  | leave (call : driver.call = .leaving size data strength ratio) :
      Proceeds driver { driver with
        call := .idle, returned := driver.returned ++ [⟨size, data, strength, ratio, driver.rxLen⟩] }

theorem RadioDriver.proceeds (taken : driver.proceed = some next) : driver.Proceeds next := by
  unfold RadioDriver.proceed at taken
  cases call : driver.call with
  | idle => simp [call] at taken
  | waiting size =>
    simp only [call] at taken
    obtain ⟨counted, same⟩ := Option.ite_none_left_eq_some.mp taken
    cases same
    exact .take call counted
  | taken size =>
    simp only [call] at taken
    cases taken
    exact .shorten call (by split <;> omega)
  | copying size length data =>
    simp only [call] at taken
    split at taken
    · cases taken
      exact .copied call ‹_›
    · obtain ⟨byte, read, same⟩ := Option.bind_eq_some_iff.mp taken
      cases same
      exact .copy call ‹_› read
  | strength size data =>
    simp only [call] at taken
    cases taken
    exact .readRssi call
  | ratio size data rssi =>
    simp only [call] at taken
    cases taken
    exact .readSnr call
  | leaving size data rssi snr =>
    simp only [call] at taken
    cases taken
    exact .leave call

/-- What an event can do. -/
inductive RadioDriver.Reacts (driver : RadioDriver) : RadioEvent → RadioDriver → Prop where
  | recv (idle : driver.call = .idle) :
      Reacts driver (.recv size) { driver with
        mode := .receiving, rxBuf := Vector.replicate maxTransmLen 0, call := .waiting size }
  | send (idle : driver.call = .idle) : Reacts driver .send { driver with mode := .sending }
  | step {next : RadioDriver} (proceeds : driver.Proceeds next) : Reacts driver .step next
  | timeout (waiting : driver.call = .waiting size) (empty : driver.dataSem = 0) :
      Reacts driver .timeout { driver with call := .idle }
  | rxDone (receiving : driver.mode = .receiving) (fits : reception.packet.length ≤ maxTransmLen) :
      Reacts driver (.rxDone reception) (driver.rxDone reception)
  | txDone (sending : driver.mode = .sending) : Reacts driver .txDone { driver with mode := .sleeping }

theorem RadioDriver.reacts (taken : driver.react event = some next) : driver.Reacts event next := by
  cases event with
  | recv size =>
    obtain ⟨idle, same⟩ := Option.ite_none_right_eq_some.mp taken
    cases same
    exact .recv idle
  | send =>
    obtain ⟨idle, same⟩ := Option.ite_none_right_eq_some.mp taken
    cases same
    exact .send idle
  | step => exact .step (RadioDriver.proceeds taken)
  | timeout =>
    simp only [RadioDriver.react] at taken
    split at taken
    · obtain ⟨empty, same⟩ := Option.ite_none_right_eq_some.mp taken
      cases same
      exact .timeout ‹_› empty
    · cases taken
  | rxDone reception =>
    obtain ⟨enabled, same⟩ := Option.ite_none_right_eq_some.mp taken
    cases same
    exact .rxDone enabled.1 enabled.2
  | txDone =>
    obtain ⟨sending, same⟩ := Option.ite_none_right_eq_some.mp taken
    cases same
    exact .txDone sending

theorem RadioDriver.Proceeds.handles (proceeds : driver.Proceeds next) (holds : driver.Holds reception)
    (handles : driver.call.Handles reception driver.dataSem driver.rxLen) :
    (next.returned = driver.returned ∧ next.Holds reception ∧
        next.call.Handles reception next.dataSem next.rxLen) ∨
      (next.call = .idle ∧ next.dataSem = 0 ∧
        ∃ outcome, outcome.Whole reception ∧ next.returned = driver.returned ++ [outcome]) := by
  have unchanged : ∀ {state : RadioDriver}, state.rxBuf = driver.rxBuf → state.rssi = driver.rssi →
      state.snr = driver.snr → state.Holds reception := fun buffer rssi snr =>
    ⟨by rw [buffer]; exact holds.buffer, rssi.trans holds.rssi, snr.trans holds.snr⟩
  cases proceeds with
  | take call counted =>
    rw [call] at handles
    exact .inl ⟨rfl, unchanged rfl rfl rfl, by simp only [RecvCall.Handles] at handles ⊢; omega⟩
  | shorten call shortened =>
    rw [call] at handles
    exact .inl ⟨rfl, unchanged rfl rfl rfl, handles.1, shortened.trans (by rw [handles.2]), rfl,
      Nat.zero_le _, rfl⟩
  | copied call complete =>
    rw [call] at handles
    obtain ⟨empty, rxLen, whole, inside, copied⟩ := handles
    refine .inl ⟨rfl, unchanged rfl rfl rfl, empty, rxLen, ?_⟩
    rw [copied, complete, whole, rxLen, Nat.min_comm]
    exact List.take_eq_take_min.symm
  | @copy size length data byte call more read =>
    rw [call] at handles
    obtain ⟨empty, rxLen, whole, inside, copied⟩ := handles
    have bound : data.length < reception.packet.length := by omega
    have found : reception.packet[data.length]? = some byte := by
      rw [← holds.buffer, List.getElem?_take_of_lt bound, Vector.getElem?_toList, read]
    refine .inl ⟨rfl, unchanged rfl rfl rfl, empty, rxLen, whole, ?_, ?_⟩
    · simp only [List.length_append, List.length_singleton]
      omega
    · rw [List.length_append, List.length_singleton, List.take_add_one, found, ← copied]
      rfl
  | readRssi call =>
    rw [call] at handles
    exact .inl ⟨rfl, unchanged rfl rfl rfl, handles.1, handles.2.1, handles.2.2, holds.rssi⟩
  | readSnr call =>
    rw [call] at handles
    obtain ⟨empty, rxLen, data, strength⟩ := handles
    exact .inl ⟨rfl, unchanged rfl rfl rfl, empty, rxLen, data, strength, holds.snr⟩
  | leave call =>
    rw [call] at handles
    obtain ⟨empty, rxLen, data, strength, ratio⟩ := handles
    exact .inr ⟨rfl, empty, _, ⟨rxLen, data, strength, ratio⟩, rfl⟩

/-- The thread moves only with a packet, and its steps leave the radio alone. -/
theorem RadioDriver.Proceeds.frame (proceeds : driver.Proceeds next) :
    next.mode = driver.mode ∧ driver.call ≠ .idle ∧ (∀ size, next.call ≠ .waiting size) ∧
      ∀ size, driver.call = .waiting size → driver.dataSem ≠ 0 := by
  cases proceeds with
  | take call counted => exact ⟨rfl, by simp [call], by simp, fun _ _ => counted⟩
  | shorten call | copied call | copy call | readRssi call | readSnr call | leave call =>
    exact ⟨rfl, by simp [call], by simp, by simp [call]⟩

theorem RadioDriver.rxDone_holds (driver : RadioDriver) (fits : reception.packet.length ≤ maxTransmLen) :
    (driver.rxDone reception).Holds reception ∧
      (driver.rxDone reception).rxLen = reception.packet.length := by
  refine ⟨⟨overwrite_take _ fits, rfl, rfl⟩, Nat.mod_eq_of_lt ?_⟩
  exact Nat.lt_of_le_of_lt fits (by decide)

/-- Outside the driver nothing is left over. -/
theorem RadioDriver.Consistent.of_idle (consistent : driver.Consistent events)
    (idle : driver.call = .idle) :
    driver.dataSem = 0 ∧ List.Forall₂ RecvOutcome.Whole (arrivals events) driver.returned := by
  cases consistent with
  | clear served empty => exact ⟨empty, served⟩
  | pending front last arrived served holds handles =>
    rw [idle] at handles
    exact handles.elim

/-- Nor while a call waits and the semaphore is not counted. -/
theorem RadioDriver.Consistent.of_waiting (consistent : driver.Consistent events)
    (waiting : driver.call = .waiting size) (empty : driver.dataSem = 0) :
    List.Forall₂ RecvOutcome.Whole (arrivals events) driver.returned := by
  cases consistent with
  | clear served => exact served
  | pending front last arrived served holds handles =>
    rw [waiting] at handles
    exact absurd (handles.1.symm.trans empty) (by decide)

theorem RadioDriver.Consistent.step (reacts : driver.Reacts event next)
    (consistent : driver.Consistent events) (awaited : Awaited event driver) :
    next.Consistent (events ++ [event]) := by
  have later (silent : event.reception? = none) := arrivals_silent events silent
  cases reacts with
  | recv idle =>
    obtain ⟨empty, served⟩ := consistent.of_idle idle
    exact .clear (by rwa [later rfl]) empty (.inr ⟨_, rfl⟩)
  | send idle =>
    obtain ⟨empty, served⟩ := consistent.of_idle idle
    exact .clear (by rwa [later rfl]) empty (.inl idle)
  | step proceeds =>
    cases consistent with
    | clear served empty outside =>
      -- No packet is there: the thread is outside or blocked.
      obtain ⟨-, busy, -, counted⟩ := proceeds.frame
      rcases outside with idle | ⟨size, waiting⟩
      · exact absurd idle busy
      · exact absurd empty (counted size waiting)
    | pending front last arrived served holds handles =>
      rcases proceeds.handles holds handles with
        ⟨same, holds, handles⟩ | ⟨idle, empty, outcome, whole, grown⟩
      · exact .pending front last (by rw [later rfl, arrived]) (same ▸ served) holds handles
      · refine .clear ?_ empty (.inl idle)
        rw [later rfl, arrived, grown]
        exact List.rel_append served (.cons whole .nil)
  | timeout waiting empty =>
    exact .clear (by rw [later rfl]; exact consistent.of_waiting waiting empty) empty (.inl rfl)
  | @rxDone reception receiving fits =>
    obtain ⟨empty, size, waiting⟩ := awaited rfl
    obtain ⟨holds, length⟩ := driver.rxDone_holds fits
    refine .pending _ reception (arrivals_rxDone events reception)
      (consistent.of_waiting waiting empty) holds ?_
    have call : (driver.rxDone reception).call = .waiting size := waiting
    have counted : (driver.rxDone reception).dataSem = 1 := congrArg (· + 1) empty
    rw [call, counted, length]
    exact ⟨rfl, rfl⟩
  | txDone =>
    cases consistent with
    | clear served empty outside => exact .clear (by rwa [later rfl]) empty outside
    | pending front last arrived served holds handles =>
      exact .pending front last (by rw [later rfl, arrived]) served
        ⟨holds.buffer, holds.rssi, holds.snr⟩ handles

/-- How mode and thread follow from the history while packets are served. -/
structure RadioDriver.Tuned (events : List RadioEvent) (driver : RadioDriver) : Prop where
  idle : driver.call = .idle → (driver.mode = .receiving ↔ Lingering events)
  busy : driver.call ≠ .idle → ¬ Lingering events
  listening : ∀ size, driver.call = .waiting size → driver.dataSem = 0 → driver.mode = .receiving
  receiving : driver.call ≠ .idle → driver.mode = .receiving →
    driver.dataSem = 0 ∧ ∃ size, driver.call = .waiting size

theorem RadioDriver.Tuned.awaited_iff (tuned : driver.Tuned events)
    (receiving : driver.mode = .receiving) :
    Awaited (.rxDone reception) driver ↔ ¬ Lingering events := by
  constructor
  · intro awaited
    obtain ⟨-, size, waiting⟩ := awaited rfl
    exact tuned.busy (by simp [waiting])
  · intro silent _
    exact tuned.receiving (fun idle => silent ((tuned.idle idle).mp receiving)) receiving

theorem RadioDriver.Tuned.step (reacts : driver.Reacts event next) (tuned : driver.Tuned events)
    (consistent : driver.Consistent events) (awaited : Awaited event driver) :
    next.Tuned (events ++ [event]) := by
  have later : Lingering (events ++ [event]) ↔
      event = .timeout ∨ event.Quiet ∧ Lingering events := since_append
  cases reacts with
  | recv idle =>
    refine ⟨fun same => by simp at same, fun _ => ?_, fun _ _ _ => rfl,
      fun _ _ => ⟨(consistent.of_idle idle).1, _, rfl⟩⟩
    rw [later]
    simp [RadioEvent.Quiet]
  | send idle =>
    refine ⟨fun _ => ?_, fun busy => absurd idle busy, fun size waiting => ?_,
      fun _ same => by simp at same⟩
    · rw [later]
      simp [RadioEvent.Quiet]
    · exact absurd (idle.symm.trans waiting) (by simp)
  | step proceeds =>
    -- A packet is being handled, so the radio does not receive any more.
    obtain ⟨mode, busy, moved, counted⟩ := proceeds.frame
    have silent : ¬ Lingering (events ++ [.step]) := by
      rw [later]
      simpa using fun _ => tuned.busy busy
    have deaf : next.mode ≠ .receiving := by
      intro receiving
      obtain ⟨empty, size, waiting⟩ := tuned.receiving busy (mode.symm.trans receiving)
      exact counted size waiting empty
    exact ⟨fun _ => iff_of_false deaf silent, fun _ => silent,
      fun size waiting => absurd waiting (moved size), fun _ receiving => absurd receiving deaf⟩
  | timeout waiting empty =>
    refine ⟨fun _ => ?_, fun busy => absurd rfl busy, fun _ same => by simp at same,
      fun busy => absurd rfl busy⟩
    exact iff_of_true (tuned.listening _ waiting empty) (later.mpr (.inl rfl))
  | @rxDone reception =>
    obtain ⟨empty, size, waiting⟩ := awaited rfl
    have silent : ¬ Lingering (events ++ [.rxDone reception]) := by
      rw [later]
      simp [RadioEvent.Quiet]
    refine ⟨fun idle => absurd (waiting.symm.trans idle) (by simp), fun _ => silent, fun _ _ none => ?_,
      fun _ same => by simp [RadioDriver.rxDone] at same⟩
    simp [RadioDriver.rxDone] at none
  | txDone sending =>
    have deaf : driver.mode ≠ .receiving := by simp [sending]
    have same : Lingering (events ++ [.txDone]) ↔ Lingering events := by
      rw [later]
      simp [RadioEvent.Quiet]
    refine ⟨fun idle => ?_, fun busy => ?_, fun size waiting empty => ?_,
      fun _ receiving => by simp at receiving⟩
    · rw [same, ← tuned.idle idle]
      exact iff_of_false (by simp) deaf
    · rw [same]
      exact tuned.busy busy
    · exact absurd (tuned.listening size waiting empty) deaf

end

end LoraEval.Firmware

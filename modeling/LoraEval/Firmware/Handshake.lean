import LoraEval.Firmware.Notification
import LoraEval.Core.Buffer
import LoraEval.Core.Run

/-! The handshake before an experiment. The receiver repeats its settings until
they come back unchanged; the sender answers pings, adopts the settings it hears
and sends them back, again for each retransmission, until its start delay is over. -/

namespace LoraEval.Firmware

open LoraEval.Core

/-- The driver of one board (`sx12xx_common.c`): the packet its buffer holds, the semaphore
that counts packets not yet taken, whether the radio receives, and whether a call of
`lora_recv` waits for the semaphore. -/
structure Driver where
  rxBuf : List Byte
  dataSem : Nat
  receiving : Bool
  waiting : Bool

namespace Driver

/-- The start of `lora_recv`: `Radio.Rx` clears the buffer and starts to receive. -/
def recv (driver : Driver) : Driver :=
  { driver with rxBuf := driver.rxBuf.map fun _ => 0, receiving := true, waiting := true }

/-- `sx12xx_ev_rx_done`: the radio sleeps until the next call. -/
def rxDone (driver : Driver) (packet : List Byte) : Driver :=
  { driver with rxBuf := packet, dataSem := driver.dataSem + 1, receiving := false }

/-- `k_sem_take` in `lora_recv`: the content of the buffer, if a packet was counted. -/
def take (driver : Driver) : Option (List Byte × Driver) :=
  if driver.waiting ∧ 0 < driver.dataSem then
    some (driver.rxBuf, { driver with dataSem := driver.dataSem - 1, waiting := false })
  else none

/-- The other end of `k_sem_take`. The radio goes on receiving. -/
def timeout (driver : Driver) : Option Driver :=
  if driver.waiting ∧ driver.dataSem = 0 then some { driver with waiting := false } else none

/-- `lora_send`: the radio transmits and then sleeps. -/
def send (driver : Driver) : Driver := { driver with receiving := false }

end Driver

/-- Where the sender's `exec_experiment` is before its measurement loops: waiting
for settings, answering a ping, sending the acknowledgement, listening for a
retransmission, or past the start delay. -/
inductive SenderPhase where
  | waiting
  | responding
  | acknowledging
  | listening
  | started
deriving DecidableEq, Repr

structure SenderSide where
  phase : SenderPhase
  data : Vector Byte maxDataLen
  driver : Driver

def pingByte : Byte := 33

/-- A return of `lora_recv` with a packet, in either loop of the sender. Bytes
beyond the packet keep what the buffer held. -/
def SenderSide.receive (sender : SenderSide) (packet : List Byte) : SenderSide :=
  let data := overwrite sender.data packet
  match sender.phase with
  | .waiting =>
    { sender with data, phase := if data[0] = pingByte then .responding else .acknowledging }
  | .listening => { sender with data, phase := .acknowledging }
  | _ => sender

/-- The transmissions of the handshake: five bytes in answer to a ping, the whole
buffer as acknowledgement. -/
def SenderSide.reply (sender : SenderSide) : Option (List Byte × SenderSide) :=
  match sender.phase with
  | .responding =>
    some (sender.data.toList.take 5,
      { sender with data := sender.data.set 0 (-1), phase := .waiting, driver := sender.driver.send })
  | .acknowledging =>
    some (sender.data.toList, { sender with phase := .listening, driver := sender.driver.send })
  | _ => none

inductive ReceiverPhase where
  | sending
  | awaiting
  | left
deriving DecidableEq, Repr

structure ReceiverSide where
  phase : ReceiverPhase
  data : Vector Byte maxDataLen
  driver : Driver

/-- A return of `lora_recv` with a packet: the loop is left when the first bytes
of the buffer are the settings. -/
def ReceiverSide.receive (settings : List Byte) (receiver : ReceiverSide) (packet : List Byte) :
    ReceiverSide :=
  let data := overwrite receiver.data packet
  { receiver with data, phase := if data.toList.take settings.length = settings then .left else .sending }

inductive Packet where
  | toSender (bytes : List Byte)
  | toReceiver (bytes : List Byte)

structure World where
  sender : SenderSide
  receiver : ReceiverSide
  air : Option Packet

/-- One step of the handshake. A board transmits whenever no packet is in the air. A packet
reaches a board whose radio receives, also after a timeout; on its way to the sender it
may be altered. -/
inductive Step (settings : List Byte) : World → World → Prop where
  | sendSettings (world : World) (free : world.air = none) (phase : world.receiver.phase = .sending) :
      Step settings world { world with
        receiver := { world.receiver with phase := .awaiting, driver := world.receiver.driver.send }
        air := some (.toSender settings) }
  | reply (world : World) (free : world.air = none) (answer : world.sender.reply = some (bytes, sender)) :
      Step settings world { world with sender, air := some (.toReceiver bytes) }
  | lose (world : World) : Step settings world { world with air := none }
  | reachSender (world : World) (flying : world.air = some (.toSender bytes))
      (hears : world.sender.driver.receiving = true) (size : altered.length = bytes.length) :
      Step settings world { world with
        sender := { world.sender with driver := world.sender.driver.rxDone altered }, air := none }
  | reachReceiver (world : World) (flying : world.air = some (.toReceiver bytes))
      (hears : world.receiver.driver.receiving = true) :
      Step settings world { world with
        receiver := { world.receiver with driver := world.receiver.driver.rxDone bytes }, air := none }
  | senderCalls (world : World) (idle : world.sender.driver.waiting = false)
      (phase : world.sender.phase = .waiting ∨ world.sender.phase = .listening) :
      Step settings world { world with
        sender := { world.sender with driver := world.sender.driver.recv } }
  | senderReceives (world : World) (taken : world.sender.driver.take = some (packet, driver))
      (phase : world.sender.phase = .waiting ∨ world.sender.phase = .listening) :
      Step settings world { world with sender := { world.sender with driver }.receive packet }
  | senderTimeout (world : World) (silent : world.sender.driver.timeout = some driver)
      (phase : world.sender.phase = .listening) :
      Step settings world { world with sender := { world.sender with driver, phase := .started } }
  | receiverCalls (world : World) (idle : world.receiver.driver.waiting = false)
      (phase : world.receiver.phase = .awaiting) :
      Step settings world { world with
        receiver := { world.receiver with driver := world.receiver.driver.recv } }
  | receiverReceives (world : World) (taken : world.receiver.driver.take = some (packet, driver))
      (phase : world.receiver.phase = .awaiting) :
      Step settings world { world with
        receiver := { world.receiver with driver }.receive settings packet }
  | receiverTimeout (world : World) (silent : world.receiver.driver.timeout = some driver)
      (phase : world.receiver.phase = .awaiting) :
      Step settings world { world with receiver := { world.receiver with driver, phase := .sending } }

/-- Both boards at the start of the handshake: nothing is on its way to the sender. The
receiver's buffer is zeroed, the sender's holds what earlier pings left, and packets from
before may wait in the receiver's driver. -/
structure World.Initial (world : World) : Prop where
  free : world.air = none
  untaken : world.sender.driver.dataSem = 0
  asleep : world.sender.driver.receiving = false
  waiting : world.sender.phase = .waiting
  sending : world.receiver.phase = .sending
  idle : world.receiver.driver.waiting = false
  zeroed : world.receiver.data = Vector.replicate maxDataLen 0

end LoraEval.Firmware

import LoraEval.Firmware.Message

/-! The measurement loops of the receiver (`exec_experiment` in `lres.c`): five
nested parameter loops around a timed reception loop, which numbers, compares
and reports every packet. -/

namespace LoraEval.Firmware

open LoraEval.Core

abbrev maxTransmLen : Nat := 255

structure Reception where
  packet : List Byte
  rssi : Int
  snr : Int
deriving DecidableEq, Repr

/-- One return of `lora_recv`: the milliseconds since the last time stamp and
the packet, if the call did not time out. -/
structure RecvResult where
  elapsed : Nat
  reception : Option Reception
deriving DecidableEq, Repr

inductive ReceiverEvent where
  | configured (params : RadioParams)
  | compared (params : RadioParams) (msgNumber : Nat) (compareData : List Byte)
  | notified (bytes : List Byte)
  | dividedByZero
deriving DecidableEq, Repr

/-- The state of the loops. `inputs` is what the radio will deliver, one list of
returns of `lora_recv` for each combination still to come. -/
structure ReceiverState where
  config : LoraModemConfig
  transmissionData : Vector Byte maxTransmLen
  compareData : Vector Byte maxTransmLen
  firstIteration : Bool
  iteration : Byte
  inputs : List (List RecvResult)
  trace : List ReceiverEvent

structure Timing where
  iterationTime : Int
  millisTotal : Int

namespace ReceiverState

/-- A receiver at the start of its loops: its buffers are declared zeroed. -/
def start (config : LoraModemConfig) (inputs : List (List RecvResult)) : ReceiverState :=
  ⟨config, Vector.replicate maxTransmLen 0, Vector.replicate maxTransmLen 0, true, 0, inputs, []⟩

/-- At the start of the loops, whatever the buffers hold. -/
structure Starts (state : ReceiverState) : Prop where
  first : state.firstIteration = true
  iteration : state.iteration = 0
  fresh : state.trace = []

theorem Starts.start (config : LoraModemConfig) (inputs : List (List RecvResult)) :
    (ReceiverState.start config inputs).Starts := ⟨rfl, rfl, rfl⟩

def emit (event : ReceiverEvent) (state : ReceiverState) : ReceiverState :=
  { state with trace := state.trace ++ [event] }

/-- A parameter loop configures its value and writes its byte of the expected message. -/
def enter (level index : Nat) (state : ReceiverState) : Option ReceiverState := do
  let config ← state.config.setParam level index
  let compareData ← store state.compareData level (digitByte index)
  return { state with config, compareData }

end ReceiverState

/-- The reception window of one combination in milliseconds; the first one
includes the start delay. -/
def iterationTime (settings : Settings) (first : Bool) (delay : Nat) : Int :=
  settings.numberOfMessages.toNat * settings.timeBetween.toNat * 1000 +
    (if first then 1000 * delay else 0) + 5000

/-- The message number computed from the time, stored in a `uint16_t`. Division
by zero is left to the run-time library, `ldiv0`. -/
def msgNumber (settings : Settings) (ldiv0 : Int → Int) (first : Bool) (delay : Nat)
    (millisTotal : Int) : Nat :=
  let elapsed := if first then millisTotal - 1000 * delay - 5000 else millisTotal - 5000
  let divisor : Int := settings.timeBetween.toNat * 1000
  let quotient := if divisor = 0 then ldiv0 elapsed else elapsed.tdiv divisor
  (quotient % 65536).toNat

def expectMessage (settings : Settings) (n : Nat) (state : ReceiverState) : Option ReceiverState := do
  let length := settings.msgLength.toNat
  let compareData ← store state.compareData 6 (digitByte (n % 256 / 100))
  let compareData ← store compareData 7 (digitByte (n % 256 / 10))
  let compareData ← store compareData 8 (digitByte (n % 256 % 10))
  let compareData ← fill (List.range' 9 (length - 1 - 9))
    (fun p => randomD[(n * (length - 9) + (p - 9)) % 200]?) compareData
  -- For a length of zero the index would be -1.
  let compareData ← if length = 0 then none else store compareData (length - 1) delimiter
  let state := { state with compareData }
  return state.emit (.compared state.config.params n compareData.toList)

def compareByte (expected received : Vector Byte size) (z : Nat) (result : Bool × Byte) :
    Option (Bool × Byte) := do
  let wanted ← expected[z]?
  let got ← received[z]?
  if wanted = got then return result
  return (false, (List.range 8).foldl (fun count i =>
    if unsignedBit wanted i != unsignedBit got i then count + 1 else count) result.2)

/-- The comparison of a received message: equality flag and `uint8_t` bit error count. -/
def compareMessage (length : Nat) (expected received : Vector Byte size) : Option (Bool × Byte) :=
  forEach (List.range length) (compareByte expected received) (true, 0)

/-- The results of one reception: the statistics, then the received header with
flag, iteration and message number written into it. -/
def reportReception (settings : Settings) (n : Nat) (reception : Reception) (state : ReceiverState) :
    Option ReceiverState := do
  let (sameContent, bitErrorCount) ←
    compareMessage settings.msgLength.toNat state.compareData state.transmissionData
  let ndata := [BitVec.ofInt 8 (-reception.rssi), BitVec.ofInt 8 reception.snr, bitErrorCount]
  let statistics ← btLresNotify ndata 0
  let transmissionData ← store state.transmissionData 9 (if sameContent then correctFlag else falseFlag)
  let transmissionData ← store transmissionData 10 state.iteration
  let transmissionData ← store transmissionData 11 (BitVec.ofNat 8 n)
  let transmissionData ← store transmissionData 12 delimiter
  let record ← btLresNotify transmissionData.toList 1
  return ({ state with transmissionData }.emit (.notified statistics)).emit (.notified record)

/-- `lora_recv` copies the packet to the front of the buffer; numbering it then
divides by the time between messages. -/
def takePacket (settings : Settings) (reception : Reception) (state : ReceiverState) : ReceiverState :=
  { state with
    transmissionData := overwrite state.transmissionData reception.packet
    trace := state.trace ++ if settings.timeBetween = 0 then [.dividedByZero] else [] }

section

variable (settings : Settings) (ldiv0 : Int → Int) (delay : Nat)

def handleReception (millisTotal : Int) (reception : Reception) (state : ReceiverState) :
    Option ReceiverState := do
  let n := msgNumber settings ldiv0 state.firstIteration delay millisTotal
  let expected ← expectMessage settings n (takePacket settings reception state)
  reportReception settings n reception expected

def receiveRound (result : RecvResult) (timing : Timing) (state : ReceiverState) :
    Option (Timing × ReceiverState) := do
  let timing := { iterationTime := timing.iterationTime - result.elapsed,
                  millisTotal := timing.millisTotal + result.elapsed }
  match result.reception with
  | none => return (timing, state)
  | some reception =>
    let state ← handleReception settings ldiv0 delay timing.millisTotal reception state
    return (timing, state)

/-- The reception loop runs while time is left. When the radio delivers nothing
more, `lora_recv` returns with a timeout of the remaining time. -/
def receiveLoop : List RecvResult → Timing → ReceiverState → Option (Timing × ReceiverState)
  | [], timing, state =>
    if 0 < timing.iterationTime then
      receiveRound settings ldiv0 delay ⟨timing.iterationTime.toNat, none⟩ timing state
    else some (timing, state)
  | result :: rest, timing, state =>
    if 0 < timing.iterationTime then do
      let (timing, state) ← receiveRound settings ldiv0 delay result timing state
      receiveLoop rest timing state
    else some (timing, state)

/-- The innermost loop body: configure the modem and receive until the window is over. -/
def receiveCombination (state : ReceiverState) : Option ReceiverState := do
  let configured := state.emit (.configured state.config.params)
  let timing : Timing := ⟨iterationTime settings state.firstIteration delay, 1000⟩
  let (_, final) ← receiveLoop settings ldiv0 delay (state.inputs.headD []) timing configured
  return { final with
    firstIteration := false, iteration := final.iteration + 1, inputs := state.inputs.tail }

/-- The measurement part of the receiver's `exec_experiment`. -/
def receiverExperiment (state : ReceiverState) : Option ReceiverState := do
  let compareData ← store state.compareData 5 underscore
  let state := { state with compareData, config := { state.config with tx := false } }
  forSelected (unsignedBit settings.frequencies) (List.range 8) (fun i state => do
    let state ← state.enter 0 i
    forSelected (unsignedBit settings.bandwidths) (List.range 3) (fun j state => do
      let state ← state.enter 1 j
      forSelected (unsignedBit settings.spreadingFactors) (List.range 6) (fun k state => do
        let state ← state.enter 2 k
        forSelected (unsignedBit settings.codingRates) (List.range 4) (fun m state => do
          let state ← state.enter 3 m
          forSelected (unsignedBit settings.powers) (List.range 8) (fun p state => do
            let state ← state.enter 4 p
            receiveCombination settings ldiv0 delay state) state) state) state) state) state

end

end LoraEval.Firmware

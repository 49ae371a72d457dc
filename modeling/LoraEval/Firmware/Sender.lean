import LoraEval.Core.Single
import LoraEval.Firmware.Message

/-! The measurement loops of the sender (`exec_experiment` in `lses.c`): five
nested parameter loops around the transmissions of one combination. -/

namespace LoraEval.Firmware

open LoraEval.Core

inductive SenderEvent where
  | configured (params : RadioParams)
  | sent (params : RadioParams) (n : Nat) (bytes : List Byte)
  | slept (milliseconds : Nat)
deriving DecidableEq, Repr

/-- The state of the loops. `char transmission_data[data[2]]` has the message
length as its size and starts with whatever the stack held. -/
structure SenderState (size : Nat) where
  config : LoraModemConfig
  transmissionData : Vector Byte size
  trace : List SenderEvent

namespace SenderState

def emit (event : SenderEvent) (state : SenderState size) : SenderState size :=
  { state with trace := state.trace ++ [event] }

def write (index : Nat) (value : Byte) (state : SenderState size) : Option (SenderState size) := do
  let transmissionData ← store state.transmissionData index value
  return { state with transmissionData }

def enter (level index : Nat) (state : SenderState size) : Option (SenderState size) := do
  let config ← state.config.setParam level index
  { state with config }.write level (digitByte index)

end SenderState

/-- The time on air in milliseconds, computed in `float`. The board has no FPU
configured: every operation rounds by itself. -/
def timeOnAir (length : Nat) (params : RadioParams) : ℚ :=
  let symbols := single (single (single (single (8 * length) - single (4 * params.datarate)) + 28) + 16)
  let ldrOpt := (params.datarate = 11 ∧ params.bandwidth = 0) ∨ params.datarate = 12
  let divisor := single (4 * if ldrOpt then single (params.datarate - 2) else params.datarate)
  let blocks := single (symbols / divisor)
  let payload := single (single ((if blocks > 0 then ⌈blocks⌉ else 0) * (params.codingRate + 4)) + 8)
  let symbolDuration := single (2 ^ params.datarate / single ((params.bandwidth + 1) * 125))
  single (single (payload * symbolDuration) + single (49 / 4 * symbolDuration))

/-- `K_MSEC(t)`: negative times count as zero, fractions are dropped. -/
def kMsec (time : ℚ) : Nat := (max time 0).floor.toNat

def iterationSleep (settings : Settings) (params : RadioParams) : Nat :=
  kMsec (single (5000 - timeOnAir settings.msgLength.toNat params))

/-- The sleep after transmission `n`; the last one does not subtract the time on air. -/
def messageSleep (settings : Settings) (params : RadioParams) (n : Nat) : Nat :=
  let airtime : Int := if (n : Int) < settings.numberOfMessages.toNat - 1
    then (timeOnAir settings.msgLength.toNat params).floor else 0
  kMsec ((settings.timeBetween.toNat * 1000 - airtime - 2 : Int) : ℚ)

/-- Number, payload and delimiter of message `n`, then its transmission. -/
def sendMessage (settings : Settings) (n : Nat) (state : SenderState settings.msgLength.toNat) :
    Option (SenderState settings.msgLength.toNat) := do
  let length := settings.msgLength.toNat
  let state ← state.write 6 (digitByte (n % 256 / 100))
  let state ← state.write 7 (digitByte (n % 256 / 10))
  let state ← state.write 8 (digitByte (n % 256 % 10))
  let transmissionData ← fill (List.range' 9 (length - 1 - 9))
    (fun p => randomD[(n * (length - 9) + (p - 9)) % 200]?) state.transmissionData
  let state ← { state with transmissionData }.write (length - 1) delimiter
  return (state.emit (.sent state.config.params n state.transmissionData.toList)).emit
    (.slept (messageSleep settings state.config.params n))

def sendCombination (settings : Settings) (state : SenderState settings.msgLength.toNat) :
    Option (SenderState settings.msgLength.toNat) :=
  let configured := state.emit (.configured state.config.params)
  let waited := configured.emit (.slept (iterationSleep settings state.config.params))
  forEach (List.range settings.numberOfMessages.toNat) (sendMessage settings) waited

/-- The measurement part of the sender's `exec_experiment`. -/
def senderExperiment (settings : Settings) (state : SenderState settings.msgLength.toNat) :
    Option (SenderState settings.msgLength.toNat) := do
  let state ← state.write 5 underscore
  let state := { state with config := { state.config with tx := true } }
  forSelected (unsignedBit settings.frequencies) (List.range 8) (fun i state => do
    let state ← state.enter 0 i
    forSelected (unsignedBit settings.bandwidths) (List.range 3) (fun j state => do
      let state ← state.enter 1 j
      forSelected (unsignedBit settings.spreadingFactors) (List.range 6) (fun k state => do
        let state ← state.enter 2 k
        forSelected (unsignedBit settings.codingRates) (List.range 4) (fun l state => do
          let state ← state.enter 3 l
          forSelected (unsignedBit settings.powers) (List.range 8) (fun m state => do
            let state ← state.enter 4 m
            sendCombination settings state) state) state) state) state) state

end LoraEval.Firmware

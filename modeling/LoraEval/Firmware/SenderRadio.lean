import LoraEval.Core.Exclusive
import LoraEval.Firmware.Radio
import LoraEval.Firmware.SenderThreads
import LoraEval.Firmware.StartDelay

/-! All threads and callbacks of `lses.c` with the radio they share. A step runs a
callback, or a thread from one blocking call to the next. -/

namespace LoraEval.Firmware

open LoraEval.Core

/-- `wait_for_ping_return` before its first statement, and waiting for the answer. -/
inductive PingThread where
  | created
  | waiting
deriving DecidableEq, Repr

/-- The globals of `lses.c`. `thread0` is `exec_loop` with its counter, `thread2`
`wait_for_ping_return`. For an acknowledging slot `progress` says that it sleeps before
its answer, for a measuring one that it has configured a combination. -/
structure SenderRadio where
  threads : SenderThreads
  progress : Slot → Bool
  thread0 : Option Nat
  thread2 : Option PingThread
  numberOfMessages : BitVec 16
  timeBetweenMsgs : Byte
  log : List RadioOp

/-- `*pc == '&'`. -/
def isPing (first : Byte) : Bool := first = 38

inductive LoopCommand where
  | setNumber
  | setTime
  | cancel
  | start
deriving DecidableEq, Repr

/-- The commands `!`, `#` and `$`; every other character is the text of a loop. -/
def LoopCommand.ofChar (first : Byte) : LoopCommand :=
  if first = 33 then .setNumber
  else if first = 35 then .setTime
  else if first = 36 then .cancel
  else .start

namespace SenderRadio

def initial (config : LoraModemConfig) : SenderRadio where
  threads := .initial config
  progress := fun _ => false
  thread0 := none
  thread2 := none
  numberOfMessages := 0
  timeBetweenMsgs := 0
  log := []

def emit (radio : SenderRadio) (ops : List RadioOp) : SenderRadio := { radio with log := radio.log ++ ops }

/-- `lora_config` with the configuration that the threads have left. -/
def configured (radio : SenderRadio) (threads : SenderThreads) : SenderRadio :=
  { radio with threads, log := radio.log ++ [.configure threads.config] }

/-- `config.tx = tx` and `lora_config`. -/
def turn (radio : SenderRadio) (tx : Bool) : SenderRadio :=
  radio.configured { radio.threads with config := { radio.threads.config with tx } }

/-- `send_command_cb`: the message is sent, and a thread waits for the answer to a ping. -/
def sendCommandCb (first : Byte) (radio : SenderRadio) : SenderRadio :=
  let radio := radio.emit [.send]
  if isPing first then { radio with thread2 := some .created } else radio

/-- `loop_command_cb`, where `text` is the memory behind `first`. -/
def loopCommandCb (first : Byte) (text : List Byte) (radio : SenderRadio) : Option SenderRadio :=
  match LoopCommand.ofChar first with
  | .setNumber => (atoi text).map fun i => { radio with numberOfMessages := BitVec.ofInt 16 i }
  | .setTime => (atoi text).map fun i => { radio with timeBetweenMsgs := BitVec.ofInt 8 i }
  | .cancel => some { radio with thread0 := none }
  | .start => some { radio with thread0 := some 0 }

theorem loopCommandCb_start {radio : SenderRadio} (start : LoopCommand.ofChar first = .start) :
    radio.loopCommandCb first text = some { radio with thread0 := some 0 } := by
  rw [loopCommandCb, start]

theorem loopCommandCb_spec {radio next : SenderRadio} (taken : radio.loopCommandCb first text = some next) :
    (LoopCommand.ofChar first = .setNumber ∧ ∃ number, next = { radio with numberOfMessages := number }) ∨
      (LoopCommand.ofChar first = .setTime ∧ ∃ time, next = { radio with timeBetweenMsgs := time }) ∨
      (LoopCommand.ofChar first = .cancel ∧ next = { radio with thread0 := none }) ∨
      (LoopCommand.ofChar first = .start ∧ next = { radio with thread0 := some 0 }) := by
  cases command : LoopCommand.ofChar first with
  | setNumber =>
    rw [loopCommandCb, command] at taken
    obtain ⟨i, -, rfl⟩ := Option.map_eq_some_iff.mp taken
    exact .inl ⟨rfl, _, rfl⟩
  | setTime =>
    rw [loopCommandCb, command] at taken
    obtain ⟨i, -, rfl⟩ := Option.map_eq_some_iff.mp taken
    exact .inr (.inl ⟨rfl, _, rfl⟩)
  | cancel =>
    rw [loopCommandCb, command] at taken
    exact .inr (.inr (.inl ⟨rfl, (Option.some.inj taken).symm⟩))
  | start =>
    rw [loopCommandCb_start command] at taken
    exact .inr (.inr (.inr ⟨rfl, (Option.some.inj taken).symm⟩))

/-- `memcpy(config_vals, buf, len)`. -/
def copied (buf : List Byte) (configVals : Vector Byte 5) : Vector Byte 5 :=
  Vector.ofFn fun i => buf.getD i (configVals.get i)

/-- `prepare_sender_cb`. More bytes than `config_vals` holds are a failure. -/
def prepareSenderCb (outside : Nat → Nat) (buf : List Byte) (radio : SenderRadio) : Option SenderRadio :=
  if buf.length = 1 then some (radio.configured radio.threads.cancelSender)
  else if buf.length ≤ 5 then
    some (radio.configured (radio.threads.prepareSender outside (copied buf radio.threads.configVals)))
  else none

end SenderRadio

/-- What happens to the sender: writes of the phone, and the progress of its threads. -/
inductive SenderAction where
  | changeConfig (pu : Vector Byte 5)
  | send (first : Byte)
  | loop (first : Byte) (text : List Byte)
  | prepare (buf : List Byte)
  | loops
  | pingStarts
  | pingEnds
  | answersPing (slot : Slot)
  | settings (slot : Slot)
  | acknowledges (slot : Slot)
  | repeated (slot : Slot)
  | countedDown (slot : Slot)
  | assigns (slot : Slot) (level index : Nat)
  | configures (slot : Slot)
  | transmits (slot : Slot)
  | ends (slot : Slot)
deriving DecidableEq, Repr

namespace SenderRadio

/-- One pass of `exec_loop`, or its end. -/
def loops (radio : SenderRadio) : Option SenderRadio :=
  radio.thread0.map fun i =>
    if i < radio.numberOfMessages.toNat then { radio.emit [.send] with thread0 := some (i + 1) }
    else { radio with thread0 := none }

/-- The thread on `slot` goes on with its experiment. -/
def proceeds (outside : Nat → Nat) (input : SenderInput) (radio : SenderRadio) : Option SenderRadio :=
  (senderStep outside input radio.threads).map fun threads => { radio with threads }

/-- The thread on `slot` turns the modem and stays in, or goes to, the acknowledging loop. -/
def acknowledging (radio : SenderRadio) (slot : Slot) (phase : ExperimentThread) (tx : Bool) :
    Option SenderRadio :=
  (radio.threads.advance slot phase .acknowledging { radio.threads.config with tx }).map fun threads =>
    { radio.configured threads with progress := Function.update radio.progress slot tx }

def step (outside : Nat → Nat) (event : SenderAction) (radio : SenderRadio) : Option SenderRadio :=
  match event with
  | .changeConfig pu =>
    some (radio.configured { radio.threads with config := changeConfig outside pu true })
  | .send first => some (radio.sendCommandCb first)
  | .loop first text => radio.loopCommandCb first text
  | .prepare buf => radio.prepareSenderCb outside buf
  | .loops => radio.loops
  | .pingStarts =>
    if radio.thread2 = some .created then some { radio.turn false with thread2 := some .waiting } else none
  | .pingEnds =>
    if radio.thread2 = some .waiting then some { radio.turn true with thread2 := none } else none
  | .answersPing slot =>
    (((radio.turn true).emit [.send]).proceeds outside (.ping slot)).map fun next =>
      next.emit [.configure next.threads.config]
  | .settings slot => radio.acknowledging slot .listening true
  | .acknowledges slot =>
    if radio.progress slot then (radio.emit [.send]).acknowledging slot .acknowledging false else none
  | .repeated slot =>
    if radio.progress slot then none else radio.acknowledging slot .acknowledging true
  | .countedDown slot =>
    if radio.progress slot then none else radio.proceeds outside (.countedDown slot)
  | .assigns slot level index => radio.proceeds outside (.assigns slot level index)
  | .configures slot =>
    if radio.threads.thread slot = .measuring then
      some { radio.configured radio.threads with progress := Function.update radio.progress slot true }
    else none
  | .transmits slot =>
    if radio.threads.thread slot = .measuring ∧ radio.progress slot = true then some (radio.emit [.send])
    else none
  | .ends slot =>
    (radio.proceeds outside (.ends slot)).map fun next => next.emit [.configure next.threads.config]

def run (outside : Nat → Nat) (config : LoraModemConfig) (history : List SenderAction) :
    Option SenderRadio :=
  forEach history (step outside) (initial config)

end SenderRadio

end LoraEval.Firmware

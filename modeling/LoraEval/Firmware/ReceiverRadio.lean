import LoraEval.Firmware.Radio
import LoraEval.Firmware.ReceiverConfig

namespace LoraEval.Firmware

open LoraEval.Core

/-- `pingSent`: `wait_for_ping_return` has sent its ping. `asked`: `exec_experiment` has
sent the settings at least once. -/
structure ReceiverRadio where
  board : ReceiverBoard
  pingSent : Bool
  asked : Bool
  log : List RadioOp
deriving DecidableEq, Repr

/-- The inputs of the board, and `lora_config` for a combination of the experiment. -/
inductive ReceiverAction where
  | takes (input : ReceiverInput)
  | configures
deriving DecidableEq, Repr

def ReceiverAction.input? : ReceiverAction → Option ReceiverInput
  | .takes input => some input
  | .configures => none

namespace ReceiverRadio

def initial (config : LoraModemConfig) : ReceiverRadio := ⟨.initial config, false, false, []⟩

def waits (radio : ReceiverRadio) : ReceiverInput → Bool
  | .sendsPing => !radio.pingSent
  | .pingEnds => radio.pingSent
  | .acknowledged => radio.asked
  | _ => true

def ops (input : ReceiverInput) (board next : ReceiverBoard) : List RadioOp :=
  match input with
  | .changeConfig _ | .pingEnds => [.configure next.config]
  | .experimentSettings buf =>
    if buf.length = 5 ∧ board.reconnect = false then [.configure next.config] else []
  | .answersPing => [.configure { board.config with tx := true }, .send, .configure next.config]
  | .sendsPing | .asks => [.send, .configure next.config]
  | .acknowledged | .assigns _ _ | .ends => []

def progressed (radio : ReceiverRadio) : ReceiverInput → ReceiverRadio
  | .experimentSettings buf =>
    if buf.length = 5 then radio
    else if buf.length = 1 then { radio with pingSent := false }
    else { radio with asked := false }
  | .sendsPing => { radio with pingSent := true }
  | .asks => { radio with asked := true }
  | _ => radio

def step (outside : Nat → Nat) (action : ReceiverAction) (radio : ReceiverRadio) : Option ReceiverRadio :=
  match action with
  | .takes input =>
    if radio.waits input then
      (receiverStep outside input radio.board).map fun board =>
        { radio.progressed input with board, log := radio.log ++ ops input radio.board board }
    else none
  | .configures =>
    if radio.board.thread1 = .measuring then
      some { radio with log := radio.log ++ [.configure radio.board.config] }
    else none

def run (outside : Nat → Nat) (config : LoraModemConfig) (history : List ReceiverAction) :
    Option ReceiverRadio :=
  forEach history (step outside) (initial config)

theorem board_run (ran : run outside config history = some radio) :
    receiverRun outside config (history.filterMap ReceiverAction.input?) = some radio.board := by
  refine history_invariant (fun history radio =>
    receiverRun outside config (history.filterMap ReceiverAction.input?) = some radio.board) rfl ?_ ran
  intro before action radio next taken reached
  rw [List.filterMap_append]
  cases action with
  | takes input =>
    obtain ⟨-, same⟩ := Option.ite_none_right_eq_some.mp taken
    obtain ⟨board, stepped, rfl⟩ := Option.map_eq_some_iff.mp same
    exact forEach_extend reached stepped
  | configures =>
    obtain ⟨-, same⟩ := Option.ite_none_right_eq_some.mp taken
    obtain rfl := Option.some.inj same
    simpa only [ReceiverAction.input?, List.filterMap_cons, List.filterMap_nil, List.append_nil] using reached

end ReceiverRadio

end LoraEval.Firmware

import LoraEval.Core.Buffer
import LoraEval.Core.Run
import LoraEval.Firmware.Modem

/-! The configuration of the receiver under the writes of the phone. Both
callbacks acknowledge a 5-byte write with -2; `experiment_settings_cb` applies it
only while `reconnect` is not set. -/

namespace LoraEval.Firmware

open LoraEval.Core

/-- The part of the receiver's `exec_experiment` that `thread1` is in, if any. -/
inductive ExperimentPhase where
  | idle
  | asking
  | measuring
deriving DecidableEq, Repr

/-- The global variables of `lres.c` behind the configuration. A flag says that
its thread is alive: `thread0` runs `receive_lora`, `thread2` `wait_for_ping_return`. -/
structure ReceiverBoard where
  config : LoraModemConfig
  reconnect : Bool
  thread0 : Bool
  thread1 : ExperimentPhase
  thread2 : Bool
deriving DecidableEq, Repr

def ReceiverBoard.initial (config : LoraModemConfig) : ReceiverBoard where
  config := config
  reconnect := false
  thread0 := false
  thread1 := .idle
  thread2 := false

/-- The board after an input, and the status it notified for a write. -/
structure Reaction where
  board : ReceiverBoard
  notified : Option Int
deriving DecidableEq, Repr

def configChanged : Int := -2

def changeConfigCb (outside : Nat → Nat) (pu : Vector Byte 5) (board : ReceiverBoard) : Reaction where
  board := { board with config := changeConfig outside pu false, thread0 := true }
  notified := some configChanged

/-- The array `experiment_data` of the board. -/
abbrev experimentDataLen : Nat := 18

/-- `experiment_settings_cb`: a configuration, a ping or the settings of an
experiment, told apart by the length. Settings that do not fit into
`experiment_data` are a failure. -/
def experimentSettingsCb (outside : Nat → Nat) (buf : List Byte) (board : ReceiverBoard) :
    Option Reaction :=
  let board := { board with thread0 := false }
  if len : buf.length = 5 then
    let pu : Vector Byte 5 := ⟨buf.toArray, by simpa using len⟩
    let board := if board.reconnect then board
      else { board with config := changeConfig outside pu true }
    some ⟨{ board with reconnect := true }, some configChanged⟩
  else if buf.length = 1 then some ⟨{ board with thread2 := true }, none⟩
  else if buf.length ≤ experimentDataLen then some ⟨{ board with thread1 := .asking }, none⟩
  else none

/-- The loop of `experiment_settings_cb` that copies the settings to `experiment_data`. -/
def copySettings (buf : List Byte) (experimentData : Vector Byte experimentDataLen) :
    Option (Vector Byte experimentDataLen) :=
  fill (List.range buf.length) (buf[·]?) experimentData

/-- The loop of `exec_experiment` that copies `experiment_data` to an array of
`exp_data_length` bytes. -/
def copyExpData (experimentData : Vector Byte experimentDataLen) (expData : Vector Byte expDataLength) :
    Option (Vector Byte expDataLength) :=
  fill (List.range expDataLength) (experimentData[·]?) expData

/-- What the receiver takes in: the writes to its two characteristics, and the
progress of its threads, up to every assignment of the parameter loops. -/
inductive ReceiverInput where
  | changeConfig (pu : Vector Byte 5)
  | experimentSettings (buf : List Byte)
  | answersPing
  | sendsPing
  | pingEnds
  | asks
  | acknowledged
  | assigns (level index : Nat)
  | ends
deriving DecidableEq, Repr

def ReceiverBoard.turn (board : ReceiverBoard) (tx : Bool) : ReceiverBoard :=
  { board with config := { board.config with tx } }

/-- One step of the receiver. A thread makes progress only while it is alive. -/
def receiverReact (outside : Nat → Nat) (input : ReceiverInput) (board : ReceiverBoard) :
    Option Reaction :=
  match input with
  | .changeConfig pu => some (changeConfigCb outside pu board)
  | .experimentSettings buf => experimentSettingsCb outside buf board
  | .answersPing => if board.thread0 then some ⟨board.turn false, none⟩ else none
  | .sendsPing => if board.thread2 then some ⟨board.turn false, none⟩ else none
  | .pingEnds => if board.thread2 then some ⟨{ board.turn true with thread2 := false }, none⟩ else none
  | .asks => if board.thread1 = .asking then some ⟨board.turn false, none⟩ else none
  | .acknowledged =>
    if board.thread1 = .asking then some ⟨{ board.turn false with thread1 := .measuring }, none⟩ else none
  | .assigns level index =>
    if board.thread1 = .measuring then do
      let config ← board.config.setParam level index
      return ⟨{ board with config }, none⟩
    else none
  | .ends =>
    if board.thread1 = .measuring then some ⟨{ board with thread1 := .idle, reconnect := false }, none⟩
    else none

def receiverStep (outside : Nat → Nat) (input : ReceiverInput) (board : ReceiverBoard) :
    Option ReceiverBoard :=
  (receiverReact outside input board).map Reaction.board

def receiverRun (outside : Nat → Nat) (config : LoraModemConfig) (history : List ReceiverInput) :
    Option ReceiverBoard :=
  forEach history (receiverStep outside) (.initial config)

def ReceiverInput.configBytes : ReceiverInput → Option (Vector Byte 5)
  | .changeConfig pu => some pu
  | .experimentSettings buf => if len : buf.length = 5 then some ⟨buf.toArray, by simpa using len⟩ else none
  | _ => none

/-- The configuration is the one decoded from `pu`, and the one of any sender that
is prepared with the same bytes. A position outside the table is read from memory
that the boards do not share. -/
def Active (outside : Nat → Nat) (pu : Vector Byte 5) (config : LoraModemConfig) : Prop :=
  config.params = (changeConfig outside pu false).params ∧
    (KnownFrequency pu → ∀ senderOutside,
      config.params = (changeConfig senderOutside pu false).params)

def AcksActive (outside : Nat → Nat) (config : LoraModemConfig) (history : List ReceiverInput) : Prop :=
  ∀ before input after, history = before ++ input :: after →
    ∀ board reaction pu, receiverRun outside config before = some board →
      receiverReact outside input board = some reaction → input.configBytes = some pu →
        reaction.notified = some configChanged → Active outside pu reaction.board.config

/-- A configuration was written on the experiment characteristic, and no experiment
has ended since. -/
def Reconnecting (history : List ReceiverInput) : Prop :=
  Since (fun input => input ≠ .ends)
    (fun _ input => ∃ pu : Vector Byte 5, input = .experimentSettings pu.toList) history

theorem active_iff : Active outside pu config ↔ config.params = (changeConfig outside pu false).params :=
  ⟨And.left, fun decoded => ⟨decoded, fun known _ => decoded.trans (changeConfig_params known)⟩⟩

theorem experimentSettingsCb_config (outside : Nat → Nat) (pu : Vector Byte 5) (board : ReceiverBoard) :
    experimentSettingsCb outside pu.toList board = some
      ⟨{ board with
          config := if board.reconnect then board.config else changeConfig outside pu true,
          reconnect := true, thread0 := false }, some configChanged⟩ := by
  cases sticky : board.reconnect <;> simp [experimentSettingsCb, sticky]
  rfl

theorem copySettings_eq (experimentData : Vector Byte experimentDataLen)
    (fits : buf.length ≤ experimentDataLen) :
    copySettings buf experimentData = some (overwrite experimentData buf) := by
  rw [copySettings, fill_copy experimentData (Nat.le_refl _) fits, List.take_length]

/-- The loop stays inside `experiment_data` exactly for settings that fit. -/
theorem copySettings_isSome_iff (buf : List Byte) (experimentData : Vector Byte experimentDataLen) :
    (copySettings buf experimentData).isSome = true ↔ buf.length ≤ experimentDataLen := by
  constructor
  · intro copied
    obtain ⟨next, filled⟩ := Option.isSome_iff_exists.mp copied
    by_contra long
    have last := fill_inside filled experimentDataLen (List.mem_range.mpr (Nat.lt_of_not_le long))
    exact absurd last (Nat.lt_irrefl _)
  · intro fits
    rw [copySettings_eq experimentData fits]
    rfl

/-- Settings of any other length than 1 or 5 start an experiment if the copy succeeds. -/
theorem experimentSettingsCb_settings (outside : Nat → Nat) (board : ReceiverBoard)
    (experimentData : Vector Byte experimentDataLen) (five : buf.length ≠ 5) (one : buf.length ≠ 1) :
    experimentSettingsCb outside buf board = (copySettings buf experimentData).map fun _ =>
      ⟨{ board with thread0 := false, thread1 := .asking }, none⟩ := by
  by_cases fits : buf.length ≤ experimentDataLen
  · simp [experimentSettingsCb, five, one, fits, copySettings_eq experimentData fits]
  · have failed := mt (copySettings_isSome_iff buf experimentData).mp fits
    rw [Option.not_isSome_iff_eq_none.mp failed]
    simp [experimentSettingsCb, five, one, fits]

theorem copyExpData_overwrite (experimentData : Vector Byte experimentDataLen)
    (fits : buf.length ≤ experimentDataLen) (expData : Vector Byte buf.length) :
    copyExpData (overwrite experimentData buf) expData = some (overwrite expData buf) := by
  have read : buf.length ≤ (overwrite experimentData buf).toList.length := by simpa using fits
  have copied := fill_copy expData read (Nat.le_refl _)
  rw [overwrite_take experimentData fits] at copied
  simpa [copyExpData] using copied

theorem length_five_iff {buf : List Byte} : buf.length = 5 ↔ ∃ pu : Vector Byte 5, buf = pu.toList := by
  constructor
  · intro len
    exact ⟨⟨buf.toArray, by simpa using len⟩, rfl⟩
  · rintro ⟨pu, rfl⟩
    simp

theorem configBytes_experimentSettings :
    (ReceiverInput.experimentSettings buf).configBytes = some pu ↔ buf = pu.toList := by
  constructor
  · intro bytes
    obtain ⟨five, rfl⟩ : ∃ five : buf.length = 5, ⟨buf.toArray, by simpa using five⟩ = pu := by
      simpa [ReceiverInput.configBytes] using bytes
    rfl
  · rintro rfl
    simp [ReceiverInput.configBytes]
    rfl

theorem receiverReact_assigns (reacted : receiverReact outside (.assigns level index) board = some reaction) :
    board.thread1 = .measuring ∧ ∃ config, reaction = ⟨{ board with config }, none⟩ := by
  obtain ⟨measuring, assigned⟩ := Option.ite_none_right_eq_some.mp reacted
  obtain ⟨config, -, same⟩ := Option.bind_eq_some_iff.mp assigned
  exact ⟨measuring, config, (Option.some.inj same).symm⟩

/-- Only the end of an experiment clears `reconnect`, only a configuration write
to the experiment characteristic sets it. -/
theorem receiverStep_reconnect (taken : receiverStep outside input board = some next) :
    next.reconnect = true ↔ (∃ pu : Vector Byte 5, input = .experimentSettings pu.toList) ∨
      input ≠ .ends ∧ board.reconnect = true := by
  obtain ⟨reaction, reacted, rfl⟩ := Option.map_eq_some_iff.mp taken
  cases input with
  | changeConfig pu =>
    obtain rfl := Option.some.inj reacted
    simp [changeConfigCb]
  | experimentSettings buf =>
    by_cases five : buf.length = 5
    · obtain ⟨pu, rfl⟩ := length_five_iff.mp five
      obtain rfl := Option.some.inj ((experimentSettingsCb_config ..).symm.trans reacted)
      simp
    · have other : ¬ ∃ pu : Vector Byte 5, buf = pu.toList := fun found => five (length_five_iff.mpr found)
      have kept : reaction.board.reconnect = board.reconnect := by
        simp only [receiverReact, experimentSettingsCb, five, dite_false] at reacted
        split at reacted
        · obtain rfl := Option.some.inj reacted
          rfl
        · obtain rfl := Option.some.inj (Option.ite_none_right_eq_some.mp reacted).2
          rfl
      simpa [kept] using fun pu same => absurd ⟨pu, same⟩ other
  | assigns level index =>
    obtain ⟨-, config, rfl⟩ := receiverReact_assigns reacted
    simp
  | answersPing | sendsPing | pingEnds | asks | acknowledged | ends =>
    obtain rfl := Option.some.inj (Option.ite_none_right_eq_some.mp reacted).2
    simp [ReceiverBoard.turn]

/-- `reconnect` is set exactly while the board takes itself to be reconnecting. -/
theorem reconnect_iff (run : receiverRun outside config history = some board) :
    board.reconnect = true ↔ Reconnecting history := by
  refine history_invariant (fun history board => board.reconnect = true ↔ Reconnecting history)
    ?_ ?_ run
  · exact iff_of_false (by simp [ReceiverBoard.initial]) not_since_nil
  · intro before input board next taken inv
    rw [receiverStep_reconnect taken, Reconnecting, since_append, inv]
    rfl

/-- A configuration write to the experiment characteristic is active afterwards
exactly if `reconnect` was clear or nothing had to change. -/
theorem experimentSettingsCb_active
    (reacted : experimentSettingsCb outside pu.toList board = some reaction) :
    Active outside pu reaction.board.config ↔
      board.reconnect = false ∨ board.config.params = (changeConfig outside pu false).params := by
  obtain rfl := Option.some.inj ((experimentSettingsCb_config ..).symm.trans reacted)
  rw [active_iff]
  cases sticky : board.reconnect with
  | false => simp [changeConfig, LoraModemConfig.params]
  | true => simp

/-- Every acknowledged configuration is active exactly if each configuration write
to the experiment characteristic comes first after the end of an experiment, or
finds its parameters in place. -/
theorem acksActive_iff (outside : Nat → Nat) (config : LoraModemConfig)
    (history : List ReceiverInput) :
    AcksActive outside config history ↔
      ∀ before pu after board, history = before ++ .experimentSettings pu.toList :: after →
        receiverRun outside config before = some board →
          ¬ Reconnecting before ∨ board.config.params = (changeConfig outside pu false).params := by
  constructor
  · intro active before pu after board split reached
    have reacted := experimentSettingsCb_config outside pu board
    have held := active before _ after split board _ pu reached reacted
      (configBytes_experimentSettings.mpr rfl) rfl
    rw [← reconnect_iff reached, Bool.not_eq_true]
    exact (experimentSettingsCb_active reacted).mp held
  · intro condition before input after split board reaction pu reached reacted bytes _
    cases input with
    | changeConfig _ =>
      obtain rfl := Option.some.inj reacted
      obtain rfl := Option.some.inj bytes
      exact active_iff.mpr rfl
    | experimentSettings buf =>
      obtain rfl := configBytes_experimentSettings.mp bytes
      have kept := condition before pu after board split reached
      rw [← reconnect_iff reached, Bool.not_eq_true] at kept
      exact (experimentSettingsCb_active reacted).mpr kept
    | _ => simp [ReceiverInput.configBytes] at bytes

/-- The phone connects, and connects again with other parameters chosen: the second
write is acknowledged, the board keeps the parameters of the first. -/
theorem second_configuration_ignored :
    let config := changeConfig (fun _ => 0) #v[0, 0, 0, 0, 0] true
    let history := [.experimentSettings [0, 0, 0, 0, 4], .experimentSettings [3, 1, 5, 0, 4]]
    (receiverRun (fun _ => 0) config history).map (fun board => board.config.params) =
        some (changeConfig (fun _ => 0) #v[0, 0, 0, 0, 4] false).params ∧
      ¬ AcksActive (fun _ => 0) config history := by
  refine ⟨rfl, fun active => ?_⟩
  have second := active [.experimentSettings [0, 0, 0, 0, 4]] (.experimentSettings [3, 1, 5, 0, 4]) [] rfl
    _ _ #v[3, 1, 5, 0, 4] rfl rfl rfl rfl
  exact absurd second.1 (by decide)

end LoraEval.Firmware

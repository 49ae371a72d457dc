import LoraEval.Firmware.ReceiverConfig
import LoraEval.Firmware.SenderRadio

namespace LoraEval.Firmware

open LoraEval.Core

/-- The threads of `lses.c` that use the radio. -/
inductive SenderThread where
  | execLoop
  | execExperiment (slot : Slot)
  | waitForPingReturn
deriving DecidableEq, Repr

def SenderRadio.Alive (radio : SenderRadio) : SenderThread → Prop
  | .execLoop => radio.thread0.isSome = true
  | .execExperiment slot => (radio.threads.thread slot).alive = true
  | .waitForPingReturn => radio.thread2.isSome = true

def SenderAction.command (event : SenderAction) (radio : SenderRadio) : Command SenderThread :=
  match event with
  | .send first => if isPing first then .restart .waitForPingReturn else .nothing
  | .loop first _ =>
    match LoopCommand.ofChar first with
    | .setNumber | .setTime => .nothing
    | .cancel => .abort .execLoop
    | .start => .restart .execLoop
  | .prepare buf =>
    ⟨fun thread => ∃ slot, thread = .execExperiment slot,
      if buf.length = 1 then none else some (.execExperiment .thread1)⟩
  | .loops =>
    if ∃ i ∈ radio.thread0, i < radio.numberOfMessages.toNat then .nothing else .abort .execLoop
  | .pingEnds => .abort .waitForPingReturn
  | .ends slot =>
    ⟨fun thread => thread = .execExperiment slot ∨ thread = .execExperiment radio.threads.successor,
      if radio.threads.successor = slot then none else some (.execExperiment radio.threads.successor)⟩
  | .changeConfig _ | .pingStarts | .answersPing _ | .settings _ | .acknowledges _ | .repeated _
  | .countedDown _ | .assigns _ _ _ | .configures _ | .transmits _ => .nothing

/-- A write that starts a thread finds the threads dead that its callback does not abort. -/
def SenderAction.StartsAlone (event : SenderAction) (radio : SenderRadio) : Prop :=
  match event with
  | .send first => isPing first = true →
    radio.thread0 = none ∧ ∀ slot, (radio.threads.thread slot).alive = false
  | .loop first _ => LoopCommand.ofChar first = .start →
    radio.thread2 = none ∧ ∀ slot, (radio.threads.thread slot).alive = false
  | .prepare buf => buf.length ≠ 1 → radio.thread0 = none ∧ radio.thread2 = none
  | _ => True

theorem SenderRadio.alive_eq {radio next : SenderRadio} (first : next.thread0.isSome = radio.thread0.isSome)
    (experiment : ∀ slot, (next.threads.thread slot).alive = (radio.threads.thread slot).alive)
    (ping : next.thread2.isSome = radio.thread2.isSome) : next.Alive = radio.Alive := by
  funext thread
  cases thread <;> simp [Alive, first, experiment, ping]

@[simp]
theorem SenderRadio.emit_alive (radio : SenderRadio) (ops : List RadioOp) :
    (radio.emit ops).Alive = radio.Alive :=
  alive_eq rfl (fun _ => rfl) rfl

@[simp]
theorem SenderRadio.turn_alive (radio : SenderRadio) (tx : Bool) : (radio.turn tx).Alive = radio.Alive :=
  alive_eq rfl (fun slot => by cases slot <;> rfl) rfl

theorem SenderRadio.proceeds_eq {radio : SenderRadio} : radio.proceeds outside input = some next ↔
    ∃ threads, senderStep outside input radio.threads = some threads ∧ { radio with threads } = next :=
  Option.map_eq_some_iff

theorem SenderRadio.proceeds_alive {radio : SenderRadio} (quiet : input.quiet = true)
    (taken : radio.proceeds outside input = some next) : next.Alive = radio.Alive := by
  obtain ⟨threads, stepped, rfl⟩ := proceeds_eq.mp taken
  exact alive_eq rfl (quiet_step quiet stepped).2 rfl

theorem SenderRadio.acknowledging_alive {radio : SenderRadio} (active : phase.alive = true)
    (taken : radio.acknowledging slot phase tx = some next) : next.Alive = radio.Alive := by
  obtain ⟨threads, advanced, rfl⟩ := Option.map_eq_some_iff.mp taken
  exact alive_eq rfl (SenderThreads.advance_alive advanced active.symm).2 rfl

theorem SenderRadio.loopCommandCb_alive {radio : SenderRadio}
    (taken : radio.loopCommandCb first text = some next) :
    next.Alive = ((SenderAction.loop first text).command radio).apply radio.Alive := by
  rcases loopCommandCb_spec taken with ⟨command, number, rfl⟩ | ⟨command, time, rfl⟩ | ⟨command, rfl⟩ |
    ⟨command, rfl⟩ <;> simp only [SenderAction.command, command]
  · exact (alive_eq rfl (fun _ => rfl) rfl).trans (Command.nothing_apply _).symm
  · exact (alive_eq rfl (fun _ => rfl) rfl).trans (Command.nothing_apply _).symm
  · funext thread
    cases thread <;> simp [Command.apply, Command.abort, Alive]
  · funext thread
    cases thread <;> simp [Command.apply, Command.restart, Alive]

theorem SenderThreads.prepareSender_alive (outside : Nat → Nat) (pu : Vector Byte 5) (state : SenderThreads)
    (slot : Slot) : ((state.prepareSender outside pu).thread slot).alive = decide (slot = .thread1) := by
  cases slot with
  | thread1 => rfl
  | thread3 => exact state.thread3.abort_alive

theorem SenderThreads.cancelSender_alive (state : SenderThreads) (slot : Slot) :
    (state.cancelSender.thread slot).alive = false := by
  cases slot <;> exact ExperimentThread.abort_alive _

theorem SenderRadio.prepareSenderCb_alive {radio : SenderRadio}
    (taken : radio.prepareSenderCb outside buf = some next) :
    next.Alive = ((SenderAction.prepare buf).command radio).apply radio.Alive := by
  unfold prepareSenderCb at taken
  split_ifs at taken with one
  · obtain rfl := Option.some.inj taken
    funext thread
    cases thread <;>
      simp [Command.apply, SenderAction.command, one, Alive, configured, SenderThreads.cancelSender_alive]
  · obtain rfl := Option.some.inj taken
    funext thread
    cases thread <;>
      simp [Command.apply, SenderAction.command, one, Alive, configured, SenderThreads.prepareSender_alive,
        @eq_comm _ Slot.thread1]

theorem SenderRadio.ends_alive {radio : SenderRadio}
    (taken : radio.proceeds outside (.ends slot) = some next) :
    next.Alive = ((SenderAction.ends slot).command radio).apply radio.Alive := by
  obtain ⟨threads, stepped, rfl⟩ := proceeds_eq.mp taken
  obtain ⟨-, rfl⟩ : _ ∧ (endExperiment outside slot radio.threads).state = threads := by
    simpa [senderStep] using stepped
  funext thread
  cases thread with
  | execLoop | waitForPingReturn =>
    by_cases self : radio.threads.successor = slot <;> simp [Command.apply, SenderAction.command, Alive, self]
  | execExperiment other =>
    by_cases self : radio.threads.successor = slot
    · simp only [Alive, (endExperiment_self outside self).2]
      by_cases same : other = slot <;>
        simp [Command.apply, SenderAction.command, self, same, ExperimentThread.abort_alive, Alive]
    · simp only [Alive, (endExperiment_other outside self).2]
      have two : other = slot ∨ other = radio.threads.successor := by
        revert self
        cases other <;> cases slot <;> cases radio.threads.successor <;> simp
      rcases two with rfl | rfl
      · simp [Command.apply, SenderAction.command, self, ExperimentThread.alive, Alive]
      · simp [Command.apply, SenderAction.command, self, ExperimentThread.alive]

/-- Every step of the sender acts on its threads as the command of its action does. -/
theorem SenderRadio.step_alive {radio : SenderRadio} (taken : radio.step outside action = some next) :
    next.Alive = (action.command radio).apply radio.Alive := by
  have quiet (same : next.Alive = radio.Alive) : next.Alive = Command.nothing.apply radio.Alive :=
    same.trans (Command.nothing_apply _).symm
  cases action with
  | changeConfig pu =>
    obtain rfl := Option.some.inj taken
    exact quiet (alive_eq rfl (fun slot => by cases slot <;> rfl) rfl)
  | send first =>
    obtain rfl := Option.some.inj taken
    cases ping : isPing first <;> funext thread <;> cases thread <;>
      simp [Command.apply, SenderAction.command, Command.restart, Command.nothing, ping, sendCommandCb, Alive,
        emit]
  | loop first text => exact loopCommandCb_alive taken
  | prepare buf => exact prepareSenderCb_alive taken
  | loops =>
    obtain ⟨i, counted, rfl⟩ := Option.map_eq_some_iff.mp taken
    by_cases more : i < radio.numberOfMessages.toNat <;> funext thread <;> cases thread <;>
      simp [Command.apply, SenderAction.command, Command.abort, Command.nothing, counted, more, Alive, emit]
  | pingStarts =>
    obtain ⟨created, same⟩ := Option.ite_none_right_eq_some.mp taken
    obtain rfl := Option.some.inj same
    refine quiet (alive_eq rfl (fun slot => by cases slot <;> rfl) ?_)
    rw [created]
    rfl
  | pingEnds =>
    obtain ⟨-, same⟩ := Option.ite_none_right_eq_some.mp taken
    obtain rfl := Option.some.inj same
    funext thread
    have kept := congrFun (radio.turn_alive true) thread
    cases thread <;> simp_all [Command.apply, SenderAction.command, Command.abort, Alive]
  | answersPing slot =>
    obtain ⟨between, proceeded, rfl⟩ := Option.map_eq_some_iff.mp taken
    have same := proceeds_alive rfl proceeded
    exact quiet (by simpa using same)
  | settings slot => exact quiet (acknowledging_alive rfl taken)
  | acknowledges slot =>
    obtain ⟨-, answered⟩ := Option.ite_none_right_eq_some.mp taken
    exact quiet (by simpa using acknowledging_alive rfl answered)
  | repeated slot =>
    obtain ⟨-, again⟩ := Option.ite_none_left_eq_some.mp taken
    exact quiet (acknowledging_alive rfl again)
  | countedDown slot =>
    obtain ⟨-, proceeded⟩ := Option.ite_none_left_eq_some.mp taken
    exact quiet (proceeds_alive rfl proceeded)
  | assigns slot level index => exact quiet (proceeds_alive rfl taken)
  | configures slot =>
    obtain ⟨-, same⟩ := Option.ite_none_right_eq_some.mp taken
    obtain rfl := Option.some.inj same
    exact quiet (alive_eq rfl (fun _ => rfl) rfl)
  | transmits slot =>
    obtain ⟨-, same⟩ := Option.ite_none_right_eq_some.mp taken
    obtain rfl := Option.some.inj same
    exact quiet (radio.emit_alive [.send])
  | ends slot =>
    obtain ⟨between, proceeded, rfl⟩ := Option.map_eq_some_iff.mp taken
    rw [emit_alive]
    exact ends_alive proceeded

theorem SenderThread.forall_iff {holds : SenderThread → Prop} : (∀ thread, holds thread) ↔
    holds .execLoop ∧ (∀ slot, holds (.execExperiment slot)) ∧ holds .waitForPingReturn := by
  constructor
  · intro all
    exact ⟨all _, fun slot => all _, all _⟩
  · rintro ⟨loop, experiment, ping⟩ thread
    cases thread with
    | execLoop => exact loop
    | execExperiment slot => exact experiment slot
    | waitForPingReturn => exact ping

/-- Among exclusive threads only a write of the phone can start a second one. -/
theorem SenderRadio.clears_iff {radio : SenderRadio} (exclusive : AtMostOne radio.Alive)
    (taken : radio.step outside action = some next) :
    (action.command radio).Clears radio.Alive ↔ action.StartsAlone radio := by
  cases action with
  | send first =>
    cases ping : isPing first <;>
      simp [Command.Clears, SenderAction.command, SenderAction.StartsAlone, Command.nothing, Command.restart,
        ping, SenderThread.forall_iff, Alive]
  | loop first text =>
    cases command : LoopCommand.ofChar first <;>
      simp [Command.Clears, SenderAction.command, SenderAction.StartsAlone, Command.nothing, Command.abort,
        Command.restart, command, SenderThread.forall_iff, Alive, and_comm]
  | prepare buf =>
    by_cases one : buf.length = 1 <;>
      simp [Command.Clears, SenderAction.command, SenderAction.StartsAlone, one, SenderThread.forall_iff,
        Alive]
  | ends slot =>
    refine iff_of_true ?_ trivial
    obtain ⟨between, proceeded, -⟩ := Option.map_eq_some_iff.mp taken
    obtain ⟨threads, stepped, -⟩ := proceeds_eq.mp proceeded
    obtain ⟨measuring, -⟩ : radio.threads.thread slot = .measuring ∧ _ := by simpa [senderStep] using stepped
    intro started _ thread active kept
    -- the only thread alive is the one that ends
    have self : thread = .execExperiment slot := exclusive _ _ active (by simp [Alive, measuring]; rfl)
    exact absurd (.inl self) kept
  | loops =>
    refine iff_of_true (.of_none ?_ _) trivial
    simp only [SenderAction.command]
    split <;> rfl
  | changeConfig | pingStarts | answersPing | settings | acknowledges | repeated | countedDown | assigns
  | configures | transmits | pingEnds => exact iff_of_true (.of_none rfl _) trivial

theorem SenderRadio.initial_alive (config : LoraModemConfig) (thread : SenderThread) :
    ¬ (initial config).Alive thread := by
  cases thread with
  | execExperiment slot => cases slot <;> exact Bool.false_ne_true
  | execLoop | waitForPingReturn => exact Bool.false_ne_true

/-- The threads of the sender are exclusive throughout a run exactly if every write that
starts one finds the others dead. -/
theorem sender_exclusive_iff (ran : SenderRadio.run outside config history = some final) :
    Throughout (SenderRadio.step outside) (fun radio => AtMostOne radio.Alive) (.initial config) history ↔
      Meets (SenderRadio.step outside) (fun _ action radio => action.StartsAlone radio) []
        (.initial config) history :=
  exclusive_run_iff (fun _ _ _ taken => SenderRadio.step_alive taken)
    (fun _ _ _ taken exclusive => SenderRadio.clears_iff exclusive taken) ran
    (SenderRadio.initial_alive config)

/-- The threads of `lres.c` that use the radio. -/
inductive ReceiverThread where
  | receiveLora
  | execExperiment
  | waitForPingReturn
deriving DecidableEq, Repr

def ReceiverBoard.Alive (board : ReceiverBoard) : ReceiverThread → Prop
  | .receiveLora => board.thread0 = true
  | .execExperiment => board.thread1 ≠ .idle
  | .waitForPingReturn => board.thread2 = true

def ReceiverInput.command (input : ReceiverInput) : Command ReceiverThread :=
  match input with
  | .changeConfig _ => .restart .receiveLora
  | .experimentSettings buf =>
    if buf.length = 5 then .abort .receiveLora
    else if buf.length = 1 then
      ⟨fun thread => thread = .receiveLora ∨ thread = .waitForPingReturn, some .waitForPingReturn⟩
    else ⟨fun thread => thread = .receiveLora ∨ thread = .execExperiment, some .execExperiment⟩
  | .pingEnds => .abort .waitForPingReturn
  | .ends => .abort .execExperiment
  | .answersPing | .sendsPing | .asks | .acknowledged | .assigns _ _ => .nothing

/-- A write that starts a thread finds the threads dead that its callback does not abort. -/
def ReceiverInput.StartsAlone (input : ReceiverInput) (board : ReceiverBoard) : Prop :=
  match input with
  | .changeConfig _ => board.thread1 = .idle ∧ board.thread2 = false
  | .experimentSettings buf =>
    if buf.length = 5 then True
    else if buf.length = 1 then board.thread1 = .idle
    else board.thread2 = false
  | _ => True

theorem ReceiverThread.forall_iff {holds : ReceiverThread → Prop} : (∀ thread, holds thread) ↔
    holds .receiveLora ∧ holds .execExperiment ∧ holds .waitForPingReturn := by
  constructor
  · intro all
    exact ⟨all _, all _, all _⟩
  · rintro ⟨receive, experiment, ping⟩ thread
    cases thread with
    | receiveLora => exact receive
    | execExperiment => exact experiment
    | waitForPingReturn => exact ping

theorem ReceiverBoard.experimentSettingsCb_alive {board : ReceiverBoard}
    (reacted : experimentSettingsCb outside buf board = some reaction) :
    reaction.board.Alive = (ReceiverInput.experimentSettings buf).command.apply board.Alive := by
  by_cases five : buf.length = 5
  · obtain ⟨pu, rfl⟩ := length_five_iff.mp five
    obtain rfl := Option.some.inj ((experimentSettingsCb_config ..).symm.trans reacted)
    funext thread
    cases thread <;> simp [Command.apply, ReceiverInput.command, Command.abort, Alive]
  simp only [experimentSettingsCb, five, dite_false] at reacted
  by_cases one : buf.length = 1
  · rw [if_pos one] at reacted
    obtain rfl := Option.some.inj reacted
    funext thread
    cases thread <;> simp [Command.apply, ReceiverInput.command, Alive, one]
  · rw [if_neg one] at reacted
    obtain rfl := Option.some.inj (Option.ite_none_right_eq_some.mp reacted).2
    funext thread
    cases thread <;> simp [Command.apply, ReceiverInput.command, Alive, one, five]

theorem ReceiverBoard.step_alive {board : ReceiverBoard}
    (taken : receiverStep outside input board = some next) :
    next.Alive = input.command.apply board.Alive := by
  obtain ⟨reaction, reacted, rfl⟩ := Option.map_eq_some_iff.mp taken
  cases input with
  | experimentSettings buf => exact experimentSettingsCb_alive reacted
  | changeConfig pu =>
    obtain rfl := Option.some.inj reacted
    funext thread
    cases thread <;> simp [Command.apply, ReceiverInput.command, Command.restart, Alive, changeConfigCb]
  | assigns level index =>
    obtain ⟨-, config, rfl⟩ := receiverReact_assigns reacted
    funext thread
    cases thread <;> simp [Command.apply, ReceiverInput.command, Command.nothing, Alive]
  | answersPing | sendsPing | asks | pingEnds | acknowledged | ends =>
    obtain ⟨phase, same⟩ := Option.ite_none_right_eq_some.mp reacted
    obtain rfl := Option.some.inj same
    funext thread
    cases thread <;>
      simp [Command.apply, ReceiverInput.command, Command.nothing, Command.abort, Alive, ReceiverBoard.turn,
        phase]

theorem ReceiverBoard.clears_iff (input : ReceiverInput) (board : ReceiverBoard) :
    input.command.Clears board.Alive ↔ input.StartsAlone board := by
  cases input with
  | changeConfig pu =>
    simp [Command.Clears, ReceiverInput.command, ReceiverInput.StartsAlone, Command.restart,
      ReceiverThread.forall_iff, Alive]
  | experimentSettings buf =>
    simp only [ReceiverInput.command, ReceiverInput.StartsAlone]
    split_ifs <;> simp [Command.Clears, Command.abort, ReceiverThread.forall_iff, Alive]
  | answersPing | sendsPing | asks | pingEnds | acknowledged | ends | assigns =>
    exact iff_of_true (.of_none rfl _) trivial

/-- The threads of the receiver are exclusive throughout a run exactly if every write
that starts one finds the others dead. -/
theorem receiver_exclusive_iff (ran : receiverRun outside config history = some final) :
    Throughout (receiverStep outside) (fun board => AtMostOne board.Alive) (.initial config) history ↔
      Meets (receiverStep outside) (fun _ input board => input.StartsAlone board) []
        (.initial config) history := by
  refine exclusive_run_iff (fun _ _ _ taken => ReceiverBoard.step_alive taken)
    (fun input board _ _ _ => ReceiverBoard.clears_iff input board) ran ?_
  intro thread active
  cases thread <;> simp [ReceiverBoard.Alive, ReceiverBoard.initial] at active

/-- On either board at most one thread drives the radio throughout a run exactly if every
write that starts a thread finds the others dead, but for those its callback aborts. -/
theorem one_radio_thread_iff (sent : SenderRadio.run outsideSender configSender actions = some sender)
    (received : receiverRun outsideReceiver configReceiver inputs = some receiver) :
    (Throughout (SenderRadio.step outsideSender) (fun radio => AtMostOne radio.Alive)
        (.initial configSender) actions ↔
      Meets (SenderRadio.step outsideSender) (fun _ action radio => action.StartsAlone radio) []
        (.initial configSender) actions) ∧
    (Throughout (receiverStep outsideReceiver) (fun board => AtMostOne board.Alive)
        (.initial configReceiver) inputs ↔
      Meets (receiverStep outsideReceiver) (fun _ input board => input.StartsAlone board) []
        (.initial configReceiver) inputs) :=
  ⟨sender_exclusive_iff sent, receiver_exclusive_iff received⟩

def sampleVals : Vector Byte 5 := #v[0, 0, 0, 0, 4]

def sampleConfig : LoraModemConfig := changeConfig (fun _ => 0) sampleVals true

def cancelledLoop : List SenderAction := [.loop 97 [], .loop 36 [], .prepare [0, 0, 0, 0, 4]]

def pingThenSettings : List ReceiverInput :=
  [.experimentSettings [0, 0, 0, 0, 4], .experimentSettings [33], .sendsPing, .pingEnds,
    .experimentSettings [50, 4, 30, 0, 1, 1, 1, 1, 1, 49, 48]]

theorem one_radio_thread_sample :
    Throughout (SenderRadio.step fun _ => 0) (fun radio => AtMostOne radio.Alive)
        (.initial sampleConfig) cancelledLoop ∧
      Throughout (receiverStep fun _ => 0) (fun board => AtMostOne board.Alive)
        (.initial sampleConfig) pingThenSettings := by
  have sent : SenderRadio.run (fun _ => 0) sampleConfig cancelledLoop = some _ := rfl
  have received : receiverRun (fun _ => 0) sampleConfig pingThenSettings = some _ := rfl
  have both := one_radio_thread_iff sent received
  refine ⟨both.1.mpr ?_, both.2.mpr ?_⟩
  · refine .cons (fun _ => ⟨rfl, fun slot => by cases slot <;> rfl⟩) rfl ?_
    refine .cons (fun start => by simp [LoopCommand.ofChar] at start) rfl ?_
    exact .cons (fun _ => ⟨rfl, rfl⟩) rfl trivial
  · refine .cons trivial rfl (.cons rfl rfl (.cons trivial rfl (.cons trivial rfl ?_)))
    exact .cons rfl rfl trivial

/-- The phone sends a ping while a loop is running, and starts the experiment while the
receiver waits for the answer to a ping. -/
theorem two_radio_threads :
    ¬ Throughout (SenderRadio.step fun _ => 0) (fun radio => AtMostOne radio.Alive)
        (.initial sampleConfig) [.loop 33 [53, 0], .loop 97 [], .send 38] ∧
      ¬ Throughout (receiverStep fun _ => 0) (fun board => AtMostOne board.Alive)
        (.initial sampleConfig) [.experimentSettings [0, 0, 0, 0, 4], .experimentSettings [33], .sendsPing,
          .experimentSettings [50, 4, 30, 0, 1, 1, 1, 1, 1, 49, 48]] := by
  constructor
  · rintro ⟨-, always⟩
    have last := ((always _ rfl).2 _ rfl).2 _ rfl
    cases last .execLoop .waitForPingReturn rfl rfl
  · rintro ⟨-, always⟩
    have last := (((always _ rfl).2 _ rfl).2 _ rfl).2 _ rfl
    cases last .execExperiment .waitForPingReturn (by simp [ReceiverBoard.Alive]) rfl

end LoraEval.Firmware

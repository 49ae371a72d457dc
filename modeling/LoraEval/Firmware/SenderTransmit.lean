import LoraEval.Firmware.RadioThreads

namespace LoraEval.Firmware

open LoraEval.Core

def SenderAction.opens : SenderAction → Bool
  | .changeConfig _ => true
  | .prepare buf => buf.length = 1
  | _ => false

/-- The sender is prepared, by a write or at the end of an experiment. -/
def SenderAction.closes : SenderAction → Bool
  | .prepare buf => buf.length ≠ 1
  | .ends _ => true
  | _ => false

/-- The sender was configured or its preparation cancelled, and not prepared since. -/
def Unprepared (history : List SenderAction) : Prop :=
  Since (fun action => action.closes = false) (fun _ action => action.opens = true) history

def SenderRadio.NoExperiment (radio : SenderRadio) : Prop :=
  ∀ slot, (radio.threads.thread slot).alive = false

/-- A message or a loop is sent only from an unprepared sender that waits for no ping, a
ping only without a loop, and the sender is prepared only without loop and ping. -/
def SenderAction.Considerate (before : List SenderAction) (action : SenderAction) (radio : SenderRadio) :
    Prop :=
  match action with
  | .send first => Unprepared before ∧ radio.NoExperiment ∧ radio.thread2 = none ∧
      (isPing first = true → radio.thread0 = none)
  | .loop first _ => LoopCommand.ofChar first = .start →
      Unprepared before ∧ radio.NoExperiment ∧ radio.thread2 = none
  | .prepare buf => buf.length ≠ 1 → radio.thread0 = none ∧ radio.thread2 = none
  | _ => True

theorem SenderAction.Considerate.startsAlone (considerate : Considerate before action radio) :
    action.StartsAlone radio := by
  cases action with
  | send first =>
    obtain ⟨-, none, -, loop⟩ := considerate
    exact fun ping => ⟨loop ping, none⟩
  | loop first text =>
    intro start
    obtain ⟨-, none, ping⟩ := considerate start
    exact ⟨ping, none⟩
  | prepare buf => exact considerate
  | _ => trivial

/-- Where the sender is sure to be in transmit configuration. -/
structure SenderInv (history : List SenderAction) (radio : SenderRadio) : Prop where
  exclusive : AtMostOne radio.Alive
  sends : SendsInTransmit radio.log
  free : Unprepared history → radio.NoExperiment → radio.thread2 = none → Transmitting radio.log
  loop : radio.thread0 ≠ none → Transmitting radio.log
  answers : ∀ slot, radio.threads.thread slot = .acknowledging → radio.progress slot = true →
    Transmitting radio.log
  measures : ∀ slot, radio.threads.thread slot = .measuring → radio.threads.config.tx = true ∧
    (radio.progress slot = true → Transmitting radio.log)

/-- While the radio transmits only the flag of the configuration matters. -/
theorem SenderInv.transmitting {radio : SenderRadio} (exclusive : AtMostOne radio.Alive)
    (sends : SendsInTransmit radio.log) (transmits : Transmitting radio.log)
    (flag : ∀ slot, radio.threads.thread slot = .measuring → radio.threads.config.tx = true) :
    SenderInv history radio where
  exclusive := exclusive
  sends := sends
  free := fun _ _ _ => transmits
  loop := fun _ => transmits
  answers := fun _ _ _ => transmits
  measures := fun slot measuring => ⟨flag slot measuring, fun _ => transmits⟩

theorem SenderInv.receiving {radio : SenderRadio} (exclusive : AtMostOne radio.Alive)
    (sends : SendsInTransmit radio.log)
    (taken : Unprepared history → radio.NoExperiment → radio.thread2 ≠ none) (loop : radio.thread0 = none)
    (answers : ∀ slot, radio.threads.thread slot = .acknowledging → radio.progress slot = false)
    (measures : ∀ slot, radio.threads.thread slot ≠ .measuring) : SenderInv history radio where
  exclusive := exclusive
  sends := sends
  free := fun unprepared none away => absurd away (taken unprepared none)
  loop := fun running => absurd loop running
  answers := fun slot acknowledging progress =>
    absurd (answers slot acknowledging) (by simp [progress])
  measures := fun slot measuring => absurd measuring (measures slot)

theorem SenderRadio.alone {radio : SenderRadio} (exclusive : AtMostOne radio.Alive)
    (active : (radio.threads.thread slot).alive = true) :
    radio.thread0 = none ∧ radio.thread2 = none ∧
      ∀ other, other ≠ slot → (radio.threads.thread other).alive = false := by
  have self : radio.Alive (.execExperiment slot) := active
  have dead (thread : SenderThread) (different : thread ≠ .execExperiment slot) : ¬ radio.Alive thread :=
    exclusive.dead thread self different
  refine ⟨?_, ?_, fun other different => ?_⟩
  · simpa [SenderRadio.Alive] using dead .execLoop (by simp)
  · simpa [SenderRadio.Alive] using dead .waitForPingReturn (by simp)
  · simpa [SenderRadio.Alive] using dead (.execExperiment other) (by simpa using different)

theorem SenderRadio.ping_alone {radio : SenderRadio} (exclusive : AtMostOne radio.Alive)
    (active : radio.thread2 = some phase) : radio.thread0 = none ∧ radio.NoExperiment := by
  have self : radio.Alive .waitForPingReturn := by simp [SenderRadio.Alive, active]
  have dead (thread : SenderThread) (different : thread ≠ .waitForPingReturn) : ¬ radio.Alive thread :=
    exclusive.dead thread self different
  refine ⟨?_, fun slot => ?_⟩
  · simpa [SenderRadio.Alive] using dead .execLoop (by simp)
  · simpa [SenderRadio.Alive] using dead (.execExperiment slot) (by simp)

theorem unprepared_append : Unprepared (history ++ [action]) ↔
    action.opens = true ∨ action.closes = false ∧ Unprepared history := since_append

def ExperimentThread.Idle (thread : ExperimentThread) : Prop :=
  thread ≠ .acknowledging ∧ thread ≠ .measuring

theorem ExperimentThread.idle_of_dead {thread : ExperimentThread} (dead : thread.alive = false) :
    thread.Idle := by
  constructor <;> rintro rfl <;> cases dead

theorem ExperimentThread.idle_listening : ExperimentThread.listening.Idle := by simp [Idle]

/-- The only thread that is alive goes on: its slot has the new phase, the others stay idle. -/
theorem SenderThreads.advance_alone {before threads : SenderThreads} {modem : LoraModemConfig}
    (advanced : before.advance slot phase reached modem = some threads)
    (others : ∀ other, other ≠ slot → (before.thread other).alive = false) :
    threads.thread slot = reached ∧ ∀ other, other ≠ slot → (threads.thread other).Idle := by
  obtain ⟨-, -, -, moved⟩ := SenderThreads.advance_spec advanced
  refine ⟨by rw [moved, if_pos rfl], fun other different => ?_⟩
  rw [moved, if_neg different]
  exact ExperimentThread.idle_of_dead (others other different)

/-- A slot with a thread that is alive contradicts `NoExperiment`. -/
theorem SenderRadio.NoExperiment.contradiction {radio : SenderRadio} (none : radio.NoExperiment)
    (here : radio.threads.thread slot = phase) (active : phase.alive = true) : False := by
  have dead := none slot
  rw [here, active] at dead
  cases dead

theorem LoraModemConfig.setParam_tx {config : LoraModemConfig}
    (set : config.setParam level index = some next) :
    next.tx = config.tx := by
  unfold LoraModemConfig.setParam at set
  split at set
  · obtain ⟨frequency, -, same⟩ := Option.bind_eq_some_iff.mp set
    obtain rfl := Option.some.inj same
    rfl
  all_goals cases set
  all_goals rfl

theorem SenderInv.send (inv : SenderInv history radio)
    (considerate : SenderAction.Considerate history (.send first) radio)
    (exclusive : AtMostOne (radio.sendCommandCb first).Alive) :
    SenderInv (history ++ [.send first]) (radio.sendCommandCb first) := by
  obtain ⟨unprepared, none, away, -⟩ := considerate
  have transmits := inv.free unprepared none away
  have log : (radio.sendCommandCb first).log = radio.log ++ [.send] := by
    unfold SenderRadio.sendCommandCb
    split <;> rfl
  have threads : (radio.sendCommandCb first).threads = radio.threads := by
    unfold SenderRadio.sendCommandCb
    split <;> rfl
  refine .transmitting exclusive (by simp [log, inv.sends, transmits]) (by simpa [log] using transmits) ?_
  intro slot measuring
  rw [threads] at measuring ⊢
  exact (inv.measures slot measuring).1

theorem SenderInv.prepare (inv : SenderInv history radio)
    (considerate : SenderAction.Considerate history (.prepare buf) radio)
    (taken : radio.prepareSenderCb outside buf = some next) (exclusive : AtMostOne next.Alive) :
    SenderInv (history ++ [.prepare buf]) next := by
  unfold SenderRadio.prepareSenderCb at taken
  split_ifs at taken with one
  · obtain rfl := Option.some.inj taken
    refine .transmitting exclusive (by simpa [SenderRadio.configured] using inv.sends)
      (by simp [SenderRadio.configured, SenderThreads.cancelSender]) ?_
    intro slot measuring
    exact absurd measuring (ExperimentThread.idle_of_dead (radio.threads.cancelSender_alive slot)).2
  · obtain rfl := Option.some.inj taken
    have idle (slot : Slot) : ((radio.threads.prepareSender outside
        (SenderRadio.copied buf radio.threads.configVals)).thread slot).Idle := by
      cases slot with
      | thread1 => exact ExperimentThread.idle_listening
      | thread3 => exact ExperimentThread.idle_of_dead (radio.threads.prepareSender_alive outside _ .thread3)
    refine .receiving exclusive (by simpa [SenderRadio.configured] using inv.sends) ?_ (considerate one).1
      (fun slot same => absurd same (idle slot).1) (fun slot => (idle slot).2)
    intro unprepared
    simp [unprepared_append, SenderAction.opens, SenderAction.closes, one] at unprepared

/-- Nothing but the loop, the numbers for it and the progress of a ping has changed. -/
theorem SenderInv.kept (inv : SenderInv history radio) (exclusive : AtMostOne next.Alive)
    (unprepared : Unprepared after → Unprepared history) (threads : next.threads = radio.threads)
    (progress : next.progress = radio.progress) (log : next.log = radio.log)
    (loop : next.thread0 ≠ none → Transmitting radio.log)
    (ping : next.thread2 = none → radio.thread2 = none) :
    SenderInv after next := by
  refine ⟨exclusive, log ▸ inv.sends, ?_, fun running => log ▸ loop running, ?_, ?_⟩
  · intro unclosed none away
    rw [log]
    refine inv.free (unprepared unclosed) (fun slot => ?_) (ping away)
    rw [← threads]
    exact none slot
  · rw [threads, progress, log]
    exact inv.answers
  · rw [threads, progress, log]
    exact inv.measures

theorem SenderInv.loopCommand (inv : SenderInv history radio)
    (considerate : SenderAction.Considerate history (.loop first text) radio)
    (taken : radio.loopCommandCb first text = some next) (exclusive : AtMostOne next.Alive) :
    SenderInv (history ++ [.loop first text]) next := by
  have earlier : Unprepared (history ++ [.loop first text]) → Unprepared history := by
    simp [unprepared_append, SenderAction.opens]
  rcases SenderRadio.loopCommandCb_spec taken with ⟨-, number, rfl⟩ | ⟨-, time, rfl⟩ | ⟨-, rfl⟩ |
    ⟨command, rfl⟩
  · exact inv.kept exclusive earlier rfl rfl rfl inv.loop id
  · exact inv.kept exclusive earlier rfl rfl rfl inv.loop id
  · exact inv.kept exclusive earlier rfl rfl rfl (absurd rfl) id
  · obtain ⟨unprepared, none, away⟩ := considerate command
    exact inv.kept exclusive earlier rfl rfl rfl (fun _ => inv.free unprepared none away) id

theorem SenderInv.loops (inv : SenderInv history radio) (taken : radio.loops = some next)
    (exclusive : AtMostOne next.Alive) : SenderInv (history ++ [.loops]) next := by
  have earlier : Unprepared (history ++ [.loops]) → Unprepared history := by
    simp [unprepared_append, SenderAction.opens]
  obtain ⟨i, running, rfl⟩ := Option.map_eq_some_iff.mp taken
  have transmits : Transmitting radio.log := inv.loop (by simp [running])
  split at exclusive
  · rename_i more
    rw [if_pos more]
    refine .transmitting exclusive ?_ (transmitting_send.mpr transmits) fun slot measuring =>
      (inv.measures slot measuring).1
    exact sendsInTransmit_send.mpr ⟨inv.sends, transmits⟩
  · rename_i last
    rw [if_neg last]
    exact inv.kept exclusive earlier rfl rfl rfl (absurd rfl) id

@[simp]
theorem SenderRadio.turn_thread (radio : SenderRadio) (tx : Bool) (slot : Slot) :
    (radio.turn tx).threads.thread slot = radio.threads.thread slot := by
  cases slot <;> rfl

/-- `wait_for_ping_return` turns the radio to receiving. -/
theorem SenderInv.pingStarts (inv : SenderInv history radio) (created : radio.thread2 = some .created)
    (exclusive : AtMostOne { radio.turn false with thread2 := some .waiting }.Alive) :
    SenderInv after { radio.turn false with thread2 := some .waiting } := by
  obtain ⟨loop, none⟩ := SenderRadio.ping_alone inv.exclusive created
  have idle (slot : Slot) := ExperimentThread.idle_of_dead (none slot)
  refine .receiving exclusive (sendsInTransmit_configure.mpr inv.sends) (by simp) loop ?_ ?_
  · intro slot acknowledging
    exact absurd ((radio.turn_thread false slot).symm.trans acknowledging) (idle slot).1
  · intro slot measuring
    exact (idle slot).2 ((radio.turn_thread false slot).symm.trans measuring)

theorem SenderInv.pingEnds (inv : SenderInv history radio)
    (exclusive : AtMostOne { radio.turn true with thread2 := none }.Alive) :
    SenderInv after { radio.turn true with thread2 := none } :=
  .transmitting exclusive (sendsInTransmit_configure.mpr inv.sends) (transmitting_configure.mpr rfl)
    fun _ _ => rfl

/-- An experiment thread turns the radio to transmitting for its answer. -/
theorem SenderInv.turned (inv : SenderInv history radio)
    (taken : radio.acknowledging slot phase true = some next) (exclusive : AtMostOne next.Alive) :
    SenderInv after next := by
  obtain ⟨threads, advanced, rfl⟩ := Option.map_eq_some_iff.mp taken
  obtain ⟨-, config, -⟩ := SenderThreads.advance_spec advanced
  refine .transmitting exclusive (sendsInTransmit_configure.mpr inv.sends) ?_ fun _ _ => ?_
  · exact transmitting_configure.mpr (by rw [config])
  · show threads.config.tx = true
    rw [config]

theorem SenderInv.acknowledges (inv : SenderInv history radio) (asleep : radio.progress slot = true)
    (taken : (radio.emit [.send]).acknowledging slot .acknowledging false = some next)
    (exclusive : AtMostOne next.Alive) : SenderInv after next := by
  obtain ⟨threads, advanced, rfl⟩ := Option.map_eq_some_iff.mp taken
  have here : radio.threads.thread slot = .acknowledging := (SenderThreads.advance_spec advanced).1
  have active : (radio.threads.thread slot).alive = true := by rw [here]; rfl
  obtain ⟨loop, -, others⟩ := SenderRadio.alone inv.exclusive active
  obtain ⟨arrived, idle⟩ := SenderThreads.advance_alone advanced others
  refine .receiving exclusive ?_ ?_ loop ?_ ?_
  · exact sendsInTransmit_configure.mpr (sendsInTransmit_send.mpr ⟨inv.sends, inv.answers slot here asleep⟩)
  · intro _ none
    exact (none.contradiction arrived rfl).elim
  · intro other acknowledging
    by_cases same : other = slot
    · simp [same]
    · exact absurd acknowledging (idle other same).1
  · intro other measuring
    by_cases same : other = slot
    · subst same
      cases arrived.symm.trans measuring
    · exact (idle other same).2 measuring

theorem SenderInv.answersPing (inv : SenderInv history radio)
    (taken : ((radio.turn true).emit [.send]).proceeds outside (.ping slot) = some next)
    (exclusive : AtMostOne (next.emit [.configure next.threads.config]).Alive) :
    SenderInv after (next.emit [.configure next.threads.config]) := by
  obtain ⟨threads, stepped, rfl⟩ := SenderRadio.proceeds_eq.mp taken
  have here : radio.threads.thread slot = .listening :=
    (radio.turn_thread true slot).symm.trans (SenderThreads.advance_spec stepped).1
  have active : (radio.threads.thread slot).alive = true := by rw [here]; rfl
  obtain ⟨loop, -, others⟩ := SenderRadio.alone inv.exclusive active
  obtain ⟨arrived, waiting⟩ := SenderThreads.advance_alone stepped fun other different =>
    (congrArg _ (radio.turn_thread true other)).trans (others other different)
  have idle (other : Slot) : (threads.thread other).Idle := by
    by_cases same : other = slot
    · rw [same, arrived]
      exact ExperimentThread.idle_listening
    · exact waiting other same
  refine .receiving exclusive ?_ ?_ loop (fun other same => absurd same (idle other).1)
    (fun other => (idle other).2)
  · refine sendsInTransmit_configure.mpr (sendsInTransmit_send.mpr ⟨?_, transmitting_configure.mpr rfl⟩)
    exact sendsInTransmit_configure.mpr inv.sends
  · intro _ none
    exact (none.contradiction arrived rfl).elim

/-- The experiment goes to, or on with, its measurements: the flag is set, and the radio
was configured if the thread says so. -/
theorem SenderInv.measuring (inv : SenderInv history radio) {modem : LoraModemConfig}
    (advanced : radio.threads.advance slot phase .measuring modem = some threads)
    (active : phase.alive = true) (flag : modem.tx = true)
    (configured : radio.progress slot = true → phase = .measuring)
    (exclusive : AtMostOne { radio with threads }.Alive) : SenderInv after { radio with threads } := by
  obtain ⟨current, config, -⟩ := SenderThreads.advance_spec advanced
  obtain ⟨loop, -, others⟩ := SenderRadio.alone inv.exclusive (by rw [current]; exact active)
  obtain ⟨arrived, idle⟩ := SenderThreads.advance_alone advanced others
  refine ⟨exclusive, inv.sends, ?_, fun running => absurd loop running, ?_, ?_⟩
  · intro _ none
    exact (none.contradiction arrived rfl).elim
  · intro other acknowledging
    by_cases same : other = slot
    · subst same
      cases arrived.symm.trans acknowledging
    · exact absurd acknowledging (idle other same).1
  · intro other measuring
    refine ⟨by rw [config]; exact flag, fun progress => ?_⟩
    by_cases same : other = slot
    · subst same
      exact (inv.measures other (current.trans (configured progress))).2 progress
    · exact absurd measuring (idle other same).2

theorem SenderInv.ends (inv : SenderInv history radio)
    (taken : radio.proceeds outside (.ends slot) = some next)
    (exclusive : AtMostOne (next.emit [.configure next.threads.config]).Alive) :
    SenderInv (history ++ [.ends slot]) (next.emit [.configure next.threads.config]) := by
  obtain ⟨threads, stepped, rfl⟩ := SenderRadio.proceeds_eq.mp taken
  obtain ⟨measuring, rfl⟩ : radio.threads.thread slot = .measuring ∧
      (endExperiment outside slot radio.threads).state = threads := by
    simpa [senderStep] using stepped
  have active : (radio.threads.thread slot).alive = true := by rw [measuring]; rfl
  obtain ⟨loop, -, others⟩ := SenderRadio.alone inv.exclusive active
  have idle (other : Slot) : ((endExperiment outside slot radio.threads).state.thread other).Idle := by
    by_cases self : radio.threads.successor = slot
    · rw [(endExperiment_self outside self).2]
      split
      · exact ExperimentThread.idle_of_dead (ExperimentThread.abort_alive _)
      · rename_i different
        exact ExperimentThread.idle_of_dead (others other different)
    · rw [(endExperiment_other outside self).2]
      split
      · exact ExperimentThread.idle_of_dead rfl
      · exact ExperimentThread.idle_listening
  refine .receiving exclusive (sendsInTransmit_configure.mpr inv.sends) ?_ loop
    (fun other same => absurd same (idle other).1) (fun other => (idle other).2)
  intro unprepared
  simp [unprepared_append, SenderAction.opens, SenderAction.closes] at unprepared

theorem SenderInv.step (inv : SenderInv history radio) (considerate : action.Considerate history radio)
    (taken : radio.step outside action = some next) : SenderInv (history ++ [action]) next := by
  have exclusive : AtMostOne next.Alive := by
    rw [SenderRadio.step_alive taken, Command.exclusive_iff inv.exclusive,
      SenderRadio.clears_iff inv.exclusive taken]
    exact considerate.startsAlone
  cases action with
  | changeConfig pu =>
    obtain rfl := Option.some.inj taken
    exact .transmitting exclusive (sendsInTransmit_configure.mpr inv.sends) (transmitting_configure.mpr rfl)
      fun _ _ => rfl
  | send first =>
    obtain rfl := Option.some.inj taken
    exact inv.send considerate exclusive
  | loop first text => exact inv.loopCommand considerate taken exclusive
  | prepare buf => exact inv.prepare considerate taken exclusive
  | loops => exact inv.loops taken exclusive
  | pingStarts =>
    obtain ⟨created, same⟩ := Option.ite_none_right_eq_some.mp taken
    obtain rfl := Option.some.inj same
    exact inv.pingStarts created exclusive
  | pingEnds =>
    obtain ⟨-, same⟩ := Option.ite_none_right_eq_some.mp taken
    obtain rfl := Option.some.inj same
    exact inv.pingEnds exclusive
  | answersPing slot =>
    obtain ⟨between, proceeded, rfl⟩ := Option.map_eq_some_iff.mp taken
    exact inv.answersPing proceeded exclusive
  | settings slot => exact inv.turned taken exclusive
  | acknowledges slot =>
    obtain ⟨asleep, answered⟩ := Option.ite_none_right_eq_some.mp taken
    exact inv.acknowledges asleep answered exclusive
  | repeated slot => exact inv.turned (Option.ite_none_left_eq_some.mp taken).2 exclusive
  | countedDown slot =>
    obtain ⟨awake, proceeded⟩ := Option.ite_none_left_eq_some.mp taken
    obtain ⟨threads, advanced, rfl⟩ := SenderRadio.proceeds_eq.mp proceeded
    exact inv.measuring advanced rfl rfl (fun progress => absurd progress awake) exclusive
  | assigns slot level index =>
    obtain ⟨threads, stepped, rfl⟩ := SenderRadio.proceeds_eq.mp taken
    obtain ⟨modem, set, advanced⟩ := Option.bind_eq_some_iff.mp stepped
    have measuring := (SenderThreads.advance_spec advanced).1
    refine inv.measuring advanced rfl ?_ (fun _ => rfl) exclusive
    rw [LoraModemConfig.setParam_tx set]
    exact (inv.measures slot measuring).1
  | configures slot =>
    obtain ⟨measuring, same⟩ := Option.ite_none_right_eq_some.mp taken
    obtain rfl := Option.some.inj same
    have flag := (inv.measures slot measuring).1
    exact .transmitting exclusive (sendsInTransmit_configure.mpr inv.sends) (transmitting_configure.mpr flag)
      fun _ _ => flag
  | transmits slot =>
    obtain ⟨⟨measuring, progress⟩, same⟩ := Option.ite_none_right_eq_some.mp taken
    obtain rfl := Option.some.inj same
    obtain ⟨flag, configured⟩ := inv.measures slot measuring
    exact .transmitting exclusive (sendsInTransmit_send.mpr ⟨inv.sends, configured progress⟩)
      (transmitting_send.mpr (configured progress)) fun _ _ => flag
  | ends slot =>
    obtain ⟨between, proceeded, rfl⟩ := Option.map_eq_some_iff.mp taken
    exact inv.ends proceeded exclusive

/-- A sender that is driven considerately only sends in transmit configuration. -/
theorem sender_sends (ran : SenderRadio.run outside config history = some radio)
    (considerate : Meets (SenderRadio.step outside) SenderAction.Considerate [] (.initial config) history) :
    SendsInTransmit radio.log := by
  refine (guarded_invariant SenderInv ?_ considerate rfl ran ?_).sends
  · intro before action state next _ met taken inv
    exact inv.step met taken
  · refine .receiving (fun first _ active => absurd active (SenderRadio.initial_alive config first))
      sendsInTransmit_nil (fun unprepared => absurd unprepared not_since_nil) rfl ?_ ?_
    · intro slot acknowledging
      cases slot <;> cases acknowledging
    · intro slot measuring
      cases slot <;> cases measuring

end LoraEval.Firmware

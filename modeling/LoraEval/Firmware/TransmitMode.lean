import LoraEval.Firmware.ReceiverRadio
import LoraEval.Firmware.SenderTransmit

namespace LoraEval.Firmware

open LoraEval.Core

/-- The action is a write that leaves the receiver listening, or that starts an experiment. -/
def ReceiverAction.Closes (action : ReceiverAction) : Prop :=
  (∃ pu, action = .takes (.changeConfig pu)) ∨
    ∃ buf : List Byte, action = .takes (.experimentSettings buf) ∧ buf.length ≠ 5 ∧ buf.length ≠ 1

/-- A configuration was written to the experiment characteristic and applied, and the
receiver neither listens nor experiments since. -/
def ReceiverReady (history : List ReceiverAction) : Prop :=
  Since (fun action => ¬ action.Closes)
    (fun before action => (∃ pu : Vector Byte 5, action = .takes (.experimentSettings pu.toList)) ∧
      ¬ Reconnecting (before.filterMap ReceiverAction.input?)) history

/-- A ping or an experiment is started only on a ready receiver with no other thread, the
explore configuration is written only beside neither, and the first transmission of the
settings is acknowledged. -/
def ReceiverAction.Considerate (before : List ReceiverAction) (action : ReceiverAction)
    (radio : ReceiverRadio) : Prop :=
  match action with
  | .takes (.changeConfig _) => radio.board.thread1 = .idle ∧ radio.board.thread2 = false
  | .takes (.experimentSettings buf) => buf.length ≠ 5 →
      ReceiverReady before ∧ radio.board.thread1 = .idle ∧ radio.board.thread2 = false
  | .takes .asks => radio.asked = false
  | _ => True

/-- Where the receiver is sure to be in transmit configuration. -/
structure ReceiverInv (history : List ReceiverAction) (radio : ReceiverRadio) : Prop where
  exclusive : AtMostOne radio.board.Alive
  sends : SendsInTransmit radio.log
  free : ReceiverReady history → radio.board.thread1 = .idle → radio.board.thread2 = false →
    Transmitting radio.log
  pings : radio.board.thread2 = true → radio.pingSent = false → Transmitting radio.log
  asks : radio.board.thread1 = .asking → radio.asked = false → Transmitting radio.log
  listens : radio.board.thread0 = true → ¬ ReceiverReady history
  runs : radio.board.thread1 ≠ .idle → radio.board.reconnect = true ∧ ¬ ReceiverReady history
  ready : ReceiverReady history → radio.board.reconnect = true

theorem receiverReady_append : ReceiverReady (history ++ [action]) ↔
    ((∃ pu : Vector Byte 5, action = .takes (.experimentSettings pu.toList)) ∧
        ¬ Reconnecting (history.filterMap ReceiverAction.input?)) ∨
      ¬ action.Closes ∧ ReceiverReady history := since_append

def ReceiverAction.isWrite : ReceiverAction → Bool
  | .takes (.changeConfig _) | .takes (.experimentSettings _) => true
  | _ => false

/-- An action other than a write leaves the receiver as ready as it was. -/
theorem receiverReady_progress (action : ReceiverAction) (progress : action.isWrite = false) :
    ReceiverReady (history ++ [action]) ↔ ReceiverReady history := by
  have unwritten (pu : Vector Byte 5) : action ≠ .takes (.changeConfig pu) := by
    rintro rfl
    cases progress
  have unasked (buf : List Byte) : action ≠ .takes (.experimentSettings buf) := by
    rintro rfl
    cases progress
  rw [receiverReady_append]
  simp [ReceiverAction.Closes, unwritten, unasked]

theorem ReceiverInv.configuration (inv : ReceiverInv history radio) {pu : Vector Byte 5}
    (reconnect : radio.board.reconnect = true ↔ Reconnecting (history.filterMap ReceiverAction.input?))
    (exclusive : AtMostOne next.board.Alive)
    (board : next.board = { radio.board with
      config := if radio.board.reconnect then radio.board.config else changeConfig outside pu true
      reconnect := true, thread0 := false })
    (ping : next.pingSent = radio.pingSent) (asked : next.asked = radio.asked)
    (log : next.log = radio.log ++
      if radio.board.reconnect then [] else [.configure (changeConfig outside pu true)]) :
    ReceiverInv (history ++ [.takes (.experimentSettings pu.toList)]) next := by
  cases sticky : radio.board.reconnect with
  | false =>
    have transmits : Transmitting next.log := by simp [log, sticky, changeConfig]
    refine ⟨exclusive, by simp [log, sticky, inv.sends], fun _ _ _ => transmits, fun _ _ => transmits,
      fun _ _ => transmits, by simp [board], ?_, by simp [board]⟩
    intro running
    have known := (inv.runs (by simpa [board] using running)).1
    cases sticky.symm.trans known
  | true =>
    have same : next.log = radio.log := by simp [log, sticky]
    have earlier : ReceiverReady (history ++ [.takes (.experimentSettings pu.toList)]) →
        ReceiverReady history := by
      intro ready
      rcases receiverReady_append.mp ready with ⟨-, fresh⟩ | ⟨-, still⟩
      · exact absurd (reconnect.mp sticky) fresh
      · exact still
    refine ⟨exclusive, same ▸ inv.sends, ?_, ?_, ?_, by simp [board], ?_, by simp [board]⟩
    · intro ready
      simpa [board, same] using inv.free (earlier ready)
    · simpa [board, same, ping] using inv.pings
    · simpa [board, same, asked] using inv.asks
    · intro running
      have known := inv.runs (by simpa [board] using running)
      exact ⟨by simp [board], fun ready => known.2 (earlier ready)⟩

theorem ReceiverInv.thread (inv : ReceiverInv history radio) (ready : ReceiverReady history)
    (idle : radio.board.thread1 = .idle) (away : radio.board.thread2 = false)
    (exclusive : AtMostOne next.board.Alive) (log : next.log = radio.log)
    (thread0 : next.board.thread0 = false) (reconnect : next.board.reconnect = radio.board.reconnect)
    (started : next.board.thread1 = .idle ∧ next.board.thread2 = true ∨
      next.board.thread1 = .asking ∧ ¬ ReceiverReady after)
    (earlier : ReceiverReady after → ReceiverReady history) : ReceiverInv after next := by
  have transmits : Transmitting next.log := log ▸ inv.free ready idle away
  refine ⟨exclusive, log ▸ inv.sends, fun _ _ _ => transmits, fun _ _ => transmits, fun _ _ => transmits,
    by simp [thread0], ?_, fun later => reconnect.trans (inv.ready (earlier later))⟩
  intro running
  rcases started with ⟨resting, -⟩ | ⟨-, unready⟩
  · exact absurd resting running
  · exact ⟨reconnect.trans (inv.ready ready), unready⟩

theorem ReceiverBoard.listening_alone {board : ReceiverBoard} (exclusive : AtMostOne board.Alive)
    (listening : board.thread0 = true) : board.thread1 = .idle ∧ board.thread2 = false := by
  have self : board.Alive .receiveLora := listening
  have experiment := exclusive.dead .execExperiment self (by simp)
  have ping := exclusive.dead .waitForPingReturn self (by simp)
  simpa [ReceiverBoard.Alive] using And.intro experiment ping

theorem ReceiverBoard.experiment_alone {board : ReceiverBoard} (exclusive : AtMostOne board.Alive)
    (running : board.thread1 ≠ .idle) : board.thread0 = false ∧ board.thread2 = false := by
  have self : board.Alive .execExperiment := running
  have listening := exclusive.dead .receiveLora self (by simp)
  have ping := exclusive.dead .waitForPingReturn self (by simp)
  simpa [ReceiverBoard.Alive] using And.intro listening ping

theorem ReceiverBoard.ping_alone {board : ReceiverBoard} (exclusive : AtMostOne board.Alive)
    (waiting : board.thread2 = true) : board.thread0 = false ∧ board.thread1 = .idle := by
  have self : board.Alive .waitForPingReturn := waiting
  have listening := exclusive.dead .receiveLora self (by simp)
  have experiment := exclusive.dead .execExperiment self (by simp)
  simpa [ReceiverBoard.Alive] using And.intro listening experiment

theorem ReceiverInv.experimentSettings (inv : ReceiverInv history radio)
    (reconnect : radio.board.reconnect = true ↔ Reconnecting (history.filterMap ReceiverAction.input?))
    (considerate : ReceiverAction.Considerate history (.takes (.experimentSettings buf)) radio)
    (stepped : receiverStep outside (.experimentSettings buf) radio.board = some board)
    (exclusive : AtMostOne board.Alive) :
    ReceiverInv (history ++ [.takes (.experimentSettings buf)])
      { radio.progressed (.experimentSettings buf) with
        board, log := radio.log ++ ReceiverRadio.ops (.experimentSettings buf) radio.board board } := by
  obtain ⟨reaction, reacted, rfl⟩ := Option.map_eq_some_iff.mp stepped
  by_cases five : buf.length = 5
  · obtain ⟨pu, rfl⟩ := length_five_iff.mp five
    obtain rfl := Option.some.inj ((experimentSettingsCb_config ..).symm.trans reacted)
    refine inv.configuration reconnect exclusive rfl (by simp [ReceiverRadio.progressed])
      (by simp [ReceiverRadio.progressed]) ?_
    cases sticky : radio.board.reconnect <;> simp [ReceiverRadio.ops, sticky]
  obtain ⟨ready, idle, away⟩ := considerate five
  have earlier (later : ReceiverReady (history ++ [.takes (.experimentSettings buf)])) :
      ReceiverReady history := by
    rcases receiverReady_append.mp later with ⟨⟨pu, same⟩, -⟩ | ⟨-, still⟩
    · cases same
      exact absurd (by simp) five
    · exact still
  simp only [receiverReact, experimentSettingsCb, five, dite_false] at reacted
  by_cases one : buf.length = 1
  · rw [if_pos one] at reacted
    obtain rfl := Option.some.inj reacted
    exact inv.thread ready idle away exclusive (by simp [ReceiverRadio.ops, five]) rfl rfl
      (.inl ⟨idle, rfl⟩) earlier
  · rw [if_neg one] at reacted
    obtain rfl := Option.some.inj (Option.ite_none_right_eq_some.mp reacted).2
    refine inv.thread ready idle away exclusive (by simp [ReceiverRadio.ops, five]) rfl rfl
      (.inr ⟨rfl, fun later => ?_⟩) earlier
    rcases receiverReady_append.mp later with ⟨⟨pu, same⟩, -⟩ | ⟨unclosed, -⟩
    · cases same
      exact absurd (by simp) five
    · exact unclosed (.inr ⟨buf, rfl, five, one⟩)

/-- `exec_experiment` goes on with its work, alone. -/
theorem ReceiverInv.experiment (inv : ReceiverInv history radio) (running : radio.board.thread1 ≠ .idle)
    (exclusive : AtMostOne next.board.Alive) (sends : SendsInTransmit next.log)
    (still : next.board.thread1 ≠ .idle) (asked : next.board.thread1 = .asking → next.asked = true)
    (reconnect : next.board.reconnect = radio.board.reconnect)
    (same : ReceiverReady after ↔ ReceiverReady history) : ReceiverInv after next := by
  obtain ⟨listening, pinging⟩ := ReceiverBoard.experiment_alone exclusive still
  obtain ⟨set, unready⟩ := inv.runs running
  refine ⟨exclusive, sends, fun _ idle => absurd idle still, by simp [pinging], ?_, by simp [listening],
    ?_, ?_⟩
  · intro asking unasked
    cases (asked asking).symm.trans unasked
  · intro _
    exact ⟨reconnect.trans set, fun ready => unready (same.mp ready)⟩
  · intro ready
    exact absurd (same.mp ready) unready

/-- `wait_for_ping_return` goes on or ends: the radio transmits, or the thread is alive and
has sent its ping. -/
theorem ReceiverInv.ping (inv : ReceiverInv history radio) (waiting : radio.board.thread2 = true)
    (exclusive : AtMostOne next.board.Alive) (sends : SendsInTransmit next.log)
    (turned : Transmitting next.log ∨ next.board.thread2 = true ∧ next.pingSent = true)
    (thread0 : next.board.thread0 = radio.board.thread0) (thread1 : next.board.thread1 = radio.board.thread1)
    (reconnect : next.board.reconnect = radio.board.reconnect)
    (same : ReceiverReady after ↔ ReceiverReady history) : ReceiverInv after next := by
  obtain ⟨listening, idle⟩ := ReceiverBoard.ping_alone inv.exclusive waiting
  refine ⟨exclusive, sends, ?_, ?_, by simp [thread1, idle], by simp [thread0, listening],
    by simp [thread1, idle], ?_⟩
  · intro _ _ away
    rcases turned with transmits | ⟨alive, -⟩
    · exact transmits
    · cases alive.symm.trans away
  · intro _ unsent
    rcases turned with transmits | ⟨-, sent⟩
    · exact transmits
    · cases sent.symm.trans unsent
  · intro ready
    exact reconnect.trans (inv.ready (same.mp ready))

/-- Nothing of an unready receiver but `receive_lora` can send. -/
theorem ReceiverInv.unready (exclusive : AtMostOne next.board.Alive) (sends : SendsInTransmit next.log)
    (idle : next.board.thread1 = .idle) (away : next.board.thread2 = false)
    (unready : ¬ ReceiverReady after) :
    ReceiverInv after next :=
  ⟨exclusive, sends, fun ready => absurd ready unready, by simp [away], by simp [idle], fun _ => unready,
    by simp [idle], fun ready => absurd ready unready⟩

theorem guarded_board [Decidable condition] {reaction : Reaction}
    (stepped : (if condition then some reaction else none).map Reaction.board = some board) :
    condition ∧ reaction.board = board := by
  obtain ⟨found, reacted, same⟩ := Option.map_eq_some_iff.mp stepped
  obtain ⟨holds, here⟩ := Option.ite_none_right_eq_some.mp reacted
  cases here
  exact ⟨holds, same⟩

theorem ReceiverInv.step (inv : ReceiverInv history radio)
    (ran : ReceiverRadio.run outside config history = some radio)
    (considerate : action.Considerate history radio)
    (taken : radio.step outside action = some next) : ReceiverInv (history ++ [action]) next := by
  cases action with
  | configures =>
    obtain ⟨measuring, same⟩ := Option.ite_none_right_eq_some.mp taken
    obtain rfl := Option.some.inj same
    exact inv.experiment (by simp [measuring]) inv.exclusive (sendsInTransmit_configure.mpr inv.sends)
      (by simp [measuring]) (by simp [measuring]) rfl (receiverReady_progress .configures rfl)
  | takes input =>
    obtain ⟨waits, same⟩ := Option.ite_none_right_eq_some.mp taken
    obtain ⟨board, stepped, rfl⟩ := Option.map_eq_some_iff.mp same
    have alone : input.StartsAlone radio.board := by
      cases input with
      | changeConfig pu => exact considerate
      | experimentSettings buf =>
        simp only [ReceiverInput.StartsAlone]
        split_ifs with five
        · exact (considerate five).2.1
        · exact (considerate five).2.2
      | _ => trivial
    have exclusive : AtMostOne board.Alive := by
      rw [ReceiverBoard.step_alive stepped, Command.exclusive_iff inv.exclusive, ReceiverBoard.clears_iff]
      exact alone
    cases input with
    | experimentSettings buf =>
      exact inv.experimentSettings (reconnect_iff (ReceiverRadio.board_run ran)) considerate stepped exclusive
    | changeConfig pu =>
      obtain rfl := Option.some.inj stepped
      refine .unready exclusive (sendsInTransmit_configure.mpr inv.sends) considerate.1 considerate.2 ?_
      simp [receiverReady_append, ReceiverAction.Closes]
    | assigns level index =>
      obtain ⟨reaction, reacted, rfl⟩ := Option.map_eq_some_iff.mp stepped
      obtain ⟨measuring, modem, rfl⟩ := receiverReact_assigns reacted
      exact inv.experiment (by simp [measuring]) exclusive (by simpa [ReceiverRadio.ops] using inv.sends)
        (by simp [measuring]) (by simp [measuring]) rfl
        (receiverReady_progress (.takes (.assigns level index)) rfl)
    | answersPing =>
      obtain ⟨listening, rfl⟩ := guarded_board stepped
      obtain ⟨idle, away⟩ := ReceiverBoard.listening_alone inv.exclusive listening
      exact .unready exclusive (inv.sends.answer rfl) idle away
        fun ready => inv.listens listening ((receiverReady_progress (.takes .answersPing) rfl).mp ready)
    | sendsPing =>
      obtain ⟨waiting, rfl⟩ := guarded_board stepped
      have unsent : radio.pingSent = false := by simpa [ReceiverRadio.waits] using waits
      exact inv.ping waiting exclusive (inv.sends.transmission (inv.pings waiting unsent))
        (.inr ⟨waiting, rfl⟩) rfl rfl rfl (receiverReady_progress (.takes .sendsPing) rfl)
    | pingEnds =>
      obtain ⟨waiting, rfl⟩ := guarded_board stepped
      exact inv.ping waiting exclusive (sendsInTransmit_configure.mpr inv.sends)
        (.inl (transmitting_configure.mpr rfl)) rfl rfl rfl (receiverReady_progress (.takes .pingEnds) rfl)
    | asks =>
      obtain ⟨asking, rfl⟩ := guarded_board stepped
      have running : radio.board.thread1 ≠ .idle := by simp [asking]
      exact inv.experiment running exclusive (inv.sends.transmission (inv.asks asking considerate))
        running (fun _ => rfl) rfl (receiverReady_progress (.takes .asks) rfl)
    | acknowledged =>
      obtain ⟨asking, rfl⟩ := guarded_board stepped
      exact inv.experiment (by simp [asking]) exclusive (by simpa [ReceiverRadio.ops] using inv.sends)
        (by simp)
        (by simp) rfl (receiverReady_progress (.takes .acknowledged) rfl)
    | ends =>
      obtain ⟨measuring, rfl⟩ := guarded_board stepped
      have running : radio.board.thread1 ≠ .idle := by simp [measuring]
      have away := (ReceiverBoard.experiment_alone inv.exclusive running).2
      exact .unready exclusive (by simpa [ReceiverRadio.ops] using inv.sends) rfl away
        fun ready => (inv.runs running).2 ((receiverReady_progress (.takes .ends) rfl).mp ready)

/-- A receiver that is driven considerately only sends in transmit configuration. -/
theorem receiver_sends (ran : ReceiverRadio.run outside config history = some radio)
    (considerate : Meets (ReceiverRadio.step outside) ReceiverAction.Considerate [] (.initial config)
      history) :
    SendsInTransmit radio.log := by
  refine (guarded_invariant ReceiverInv ?_ considerate rfl ran ?_).sends
  · intro before action state next reached met taken inv
    exact inv.step reached met taken
  · refine .unready ?_ sendsInTransmit_nil rfl rfl not_since_nil
    intro first second active
    cases first <;> simp [ReceiverBoard.Alive, ReceiverRadio.initial, ReceiverBoard.initial] at active

/-- In every run of either board whose writes are considerate, each transmission happens in
transmit configuration. -/
theorem sends_in_transmit (sent : SenderRadio.run outsideSender configSender actions = some sender)
    (senderMet : Meets (SenderRadio.step outsideSender) SenderAction.Considerate []
      (.initial configSender) actions)
    (received : ReceiverRadio.run outsideReceiver configReceiver steps = some receiver)
    (receiverMet : Meets (ReceiverRadio.step outsideReceiver) ReceiverAction.Considerate []
      (.initial configReceiver) steps) :
    SendsInTransmit sender.log ∧ SendsInTransmit receiver.log :=
  ⟨sender_sends sent senderMet, receiver_sends received receiverMet⟩

/-- The phone configures the sender, sends a message and prepares the sender, which answers
the settings and transmits. -/
def considerateSender : List SenderAction :=
  [.changeConfig sampleVals, .send 97, .prepare [0, 0, 0, 0, 4], .settings .thread1,
    .acknowledges .thread1, .countedDown .thread1, .configures .thread1, .transmits .thread1]

/-- The phone configures the receiver, pings, and starts an experiment that is acknowledged
at once. -/
def considerateReceiver : List ReceiverAction :=
  [.takes (.experimentSettings [0, 0, 0, 0, 4]), .takes (.experimentSettings [33]), .takes .sendsPing,
    .takes .pingEnds, .takes (.experimentSettings [50, 4, 30, 0, 1, 1, 1, 1, 1, 49, 48]), .takes .asks,
    .takes .acknowledged]

theorem considerateSender_met : Meets (SenderRadio.step fun _ => 0) SenderAction.Considerate []
    (.initial sampleConfig) considerateSender := by
  have configured : Unprepared [.changeConfig sampleVals] :=
    ⟨[], .changeConfig sampleVals, [], rfl, rfl, by simp⟩
  refine .cons trivial rfl ?_
  refine .cons ⟨configured, fun slot => by cases slot <;> rfl, rfl, fun ping => by cases ping⟩ rfl ?_
  refine .cons (fun _ => ⟨rfl, rfl⟩) rfl ?_
  exact .cons trivial rfl (.cons trivial rfl
    (.cons trivial rfl (.cons trivial rfl (.cons trivial rfl trivial))))

theorem considerateReceiver_met : Meets (ReceiverRadio.step fun _ => 0) ReceiverAction.Considerate []
    (.initial sampleConfig) considerateReceiver := by
  have configured : ReceiverReady [.takes (.experimentSettings [0, 0, 0, 0, 4])] :=
    ⟨[], _, [], rfl, ⟨⟨sampleVals, rfl⟩, not_since_nil⟩, by simp⟩
  have pinged : ReceiverReady [.takes (.experimentSettings [0, 0, 0, 0, 4]),
      .takes (.experimentSettings [33])] := by
    refine receiverReady_append.mpr (.inr ⟨?_, configured⟩)
    simp [ReceiverAction.Closes]
  have ready : ReceiverReady (considerateReceiver.take 4) :=
    (receiverReady_progress (.takes .pingEnds) rfl).mpr
      ((receiverReady_progress (.takes .sendsPing) rfl).mpr pinged)
  refine .cons (fun other => absurd rfl other) rfl ?_
  refine .cons (fun _ => ⟨configured, rfl, rfl⟩) rfl (.cons trivial rfl (.cons trivial rfl ?_))
  exact .cons (fun _ => ⟨ready, rfl, rfl⟩) rfl (.cons rfl rfl (.cons trivial rfl trivial))

theorem sends_in_transmit_sample :
    ∃ sender receiver, SenderRadio.run (fun _ => 0) sampleConfig considerateSender = some sender ∧
      ReceiverRadio.run (fun _ => 0) sampleConfig considerateReceiver = some receiver ∧
      sender.log.count .send = 3 ∧ receiver.log.count .send = 2 ∧
      SendsInTransmit sender.log ∧ SendsInTransmit receiver.log := by
  have sent : SenderRadio.run (fun _ => 0) sampleConfig considerateSender = some _ := rfl
  have received : ReceiverRadio.run (fun _ => 0) sampleConfig considerateReceiver = some _ := rfl
  exact ⟨_, _, sent, received, by decide, by decide,
    sends_in_transmit sent considerateSender_met received considerateReceiver_met⟩

/-- The settings are not acknowledged within two seconds, and the receiver sends them again. -/
theorem settings_sent_again :
    ∃ receiver, ReceiverRadio.run (fun _ => 0) sampleConfig
        [.takes (.experimentSettings [0, 0, 0, 0, 4]),
          .takes (.experimentSettings [50, 4, 30, 0, 1, 1, 1, 1, 1, 49, 48]), .takes .asks, .takes .asks] =
        some receiver ∧
      receiver.log = [.configure sampleConfig, .send, .configure { sampleConfig with tx := false }, .send,
        .configure { sampleConfig with tx := false }] ∧
      ¬ SendsInTransmit receiver.log := by
  refine ⟨_, rfl, rfl, fun sends => ?_⟩
  have second := sends
    ([.configure sampleConfig, .send] ++ [.configure { sampleConfig with tx := false }]) [_] rfl
  cases transmitting_configure.mp second

end LoraEval.Firmware

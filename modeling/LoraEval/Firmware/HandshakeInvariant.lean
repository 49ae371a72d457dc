import LoraEval.Firmware.Handshake

namespace LoraEval.Firmware

open LoraEval.Core

def SenderSide.Hearing (sender : SenderSide) : Prop :=
  sender.phase = .waiting ∨ sender.phase = .listening

/-- The sender is past its waiting loop and does not transmit any more. -/
def SenderSide.Settled (sender : SenderSide) : Prop :=
  sender.phase = .listening ∨ sender.phase = .started

/-- The sender's radio receives only during a call, and one packet at most. -/
def SenderSide.Attends (sender : SenderSide) : Prop :=
  sender.driver.dataSem = 0 ∧ sender.driver.receiving = false ∨
    sender.driver.waiting = true ∧ sender.Hearing ∧
      (sender.driver.dataSem = 0 ∨ sender.driver.dataSem = 1 ∧ sender.driver.receiving = false)

def World.Unheard (world : World) : Prop :=
  (∀ bytes, world.air ≠ some (.toSender bytes)) ∧
    (world.sender.phase = .started ∨ world.sender.driver.dataSem = 0)

/-- The bytes are in the air to the receiver, or came during its present call. -/
def World.Transit (world : World) (bytes : List Byte) : Prop :=
  world.air = some (.toReceiver bytes) ∨
    world.receiver.driver.waiting = true ∧ world.receiver.driver.receiving = false ∧
      world.receiver.driver.rxBuf = bytes

/-- The invariant of the handshake. Until the sender leaves its waiting loop it sends five
bytes at most, so the receiver's byte 5 is zero. Later every packet on its way to the
receiver is the sender's buffer. -/
structure HandshakeInv (settings : List Byte) (world : World) : Prop where
  attends : world.sender.phase ≠ .started → world.sender.Attends
  calls : world.receiver.driver.waiting = true → world.receiver.phase = .awaiting
  cleared : world.receiver.driver.waiting = true → world.receiver.driver.receiving = true →
    ∀ byte ∈ world.receiver.driver.rxBuf, byte = 0
  back : ∀ bytes, world.Transit bytes → world.Unheard ∧
    (world.sender.phase = .waiting ∧ bytes.length = 5 ∨
      world.sender.Settled ∧ bytes = world.sender.data.toList)
  early : world.sender.phase = .waiting ∨ world.sender.phase = .responding →
    world.receiver.data[5]? = some 0
  unlike : world.receiver.phase ≠ .left → world.receiver.data.toList.take settings.length ≠ settings
  agreed : world.receiver.phase = .left → world.Unheard ∧ world.sender.Settled ∧
    world.sender.data.toList.take settings.length = settings

/-- Settings with a byte other than zero at the front and behind the first five bytes. -/
structure Marked (settings : List Byte) : Prop where
  front : ∃ code, settings[0]? = some code ∧ code ≠ 0
  behind : ∃ code, settings[5]? = some code ∧ code ≠ 0

private theorem differs_at (position : Nat) {settings : List Byte} {data : Vector Byte maxDataLen}
    (zero : data[position]? = some 0) (marked : ∃ code, settings[position]? = some code ∧ code ≠ 0) :
    data.toList.take settings.length ≠ settings := by
  obtain ⟨code, marked, nonzero⟩ := marked
  have inside : position < settings.length := (List.getElem?_eq_some_iff.mp marked).1
  intro same
  have read := congrArg (fun bytes : List Byte => bytes[position]?) same
  simp only [List.getElem?_take_of_lt inside, Vector.getElem?_toList, zero, marked] at read
  exact nonzero (Option.some.inj read).symm

/-- Five bytes do not touch byte 5, so they never complete the settings. -/
theorem short_packet_rejected {settings : List Byte} (marked : Marked settings)
    (receiver : ReceiverSide) (zeroed : receiver.data[5]? = some 0) (short : packet.length = 5) :
    (receiver.receive settings packet).phase = .sending ∧
      (receiver.receive settings packet).data[5]? = some 0 := by
  have kept : (overwrite receiver.data packet)[5]? = some 0 := by
    rw [overwrite_rest receiver.data (by omega)]
    exact zeroed
  exact ⟨by simp [ReceiverSide.receive, differs_at 5 kept marked.behind], kept⟩

/-- A cleared packet never completes the settings, whatever its length. -/
theorem cleared_packet_rejected {settings : List Byte} (marked : Marked settings)
    (receiver : ReceiverSide) (unlike : receiver.data.toList.take settings.length ≠ settings)
    (zeros : ∀ byte ∈ packet, byte = 0) :
    (receiver.receive settings packet).phase = .sending ∧
      (receiver.data[5]? = some 0 → (receiver.receive settings packet).data[5]? = some 0) := by
  have zero {position : Nat} (inside : position < packet.length) : packet[position]? = some 0 := by
    rw [List.getElem?_eq_getElem inside, zeros _ (List.getElem_mem inside)]
  have differs : (overwrite receiver.data packet).toList.take settings.length ≠ settings := by
    cases packet with
    | nil => rwa [overwrite_nil]
    | cons byte rest =>
      refine differs_at 0 ?_ marked.front
      rw [overwrite_front receiver.data (show 0 < (byte :: rest).length by simp) (by decide)]
      exact zero (by simp)
  refine ⟨by simp [ReceiverSide.receive, differs], fun zeroed => ?_⟩
  show (overwrite receiver.data packet)[5]? = some 0
  by_cases inside : 5 < packet.length
  · rw [overwrite_front receiver.data inside (by decide), zero inside]
  · rw [overwrite_rest receiver.data (by omega), zeroed]

/-- What the sender does when it transmits: a five-byte answer to a ping keeps it
waiting, an acknowledgement is its whole buffer and lets it listen. -/
theorem SenderSide.reply_cases {sender next : SenderSide} (answer : sender.reply = some (bytes, next)) :
    next.driver = sender.driver.send ∧
      (sender.phase = .responding ∧ next.phase = .waiting ∧ bytes.length = 5 ∨
        sender.phase = .acknowledging ∧ next.phase = .listening ∧ bytes = next.data.toList) := by
  unfold SenderSide.reply at answer
  split at answer
  · rename_i phase
    obtain ⟨rfl, rfl⟩ := Prod.mk.inj (Option.some.inj answer)
    exact ⟨rfl, .inl ⟨phase, rfl, by simp [maxDataLen]⟩⟩
  · rename_i phase
    obtain ⟨rfl, rfl⟩ := Prod.mk.inj (Option.some.inj answer)
    exact ⟨rfl, .inr ⟨phase, rfl, rfl⟩⟩
  · cases answer

theorem SenderSide.receive_cases (sender : SenderSide) (hearing : sender.Hearing) (packet : List Byte) :
    (sender.receive packet).driver = sender.driver ∧
      (sender.phase = .waiting ∧ (sender.receive packet).phase = .responding ∨
        (sender.receive packet).phase = .acknowledging) := by
  rcases hearing with waiting | listening
  · by_cases ping : (overwrite sender.data packet)[0] = pingByte
    · simp [SenderSide.receive, waiting, ping]
    · simp [SenderSide.receive, waiting, ping]
  · simp [SenderSide.receive, listening]

theorem Driver.take_eq_some {driver next : Driver} (taken : driver.take = some (packet, next)) :
    driver.waiting = true ∧ 0 < driver.dataSem ∧ packet = driver.rxBuf ∧
      next = { driver with dataSem := driver.dataSem - 1, waiting := false } := by
  unfold Driver.take at taken
  split at taken
  · rename_i counted
    obtain ⟨rfl, rfl⟩ := Prod.mk.inj (Option.some.inj taken)
    exact ⟨counted.1, counted.2, rfl, rfl⟩
  · cases taken

theorem Driver.timeout_eq_some {driver next : Driver} (silent : driver.timeout = some next) :
    driver.waiting = true ∧ driver.dataSem = 0 ∧ next = { driver with waiting := false } := by
  unfold Driver.timeout at silent
  split at silent
  · rename_i counted
    exact ⟨counted.1, counted.2, (Option.some.inj silent).symm⟩
  · cases silent

section

variable {settings : List Byte} {world : World}

/-- A sender about to transmit has nothing on its way to the receiver. -/
theorem HandshakeInv.no_transit (inv : HandshakeInv settings world)
    (phase : world.sender.phase = .responding ∨ world.sender.phase = .acknowledging) :
    ¬ world.Transit bytes := by
  intro transit
  obtain ⟨-, ⟨waiting, -⟩ | ⟨listening | started, -⟩⟩ := inv.back bytes transit <;>
    rcases phase with phase | phase <;> simp_all

theorem HandshakeInv.sendSettings (inv : HandshakeInv settings world)
    (phase : world.receiver.phase = .sending) : HandshakeInv settings { world with
      receiver := { world.receiver with phase := .awaiting, driver := world.receiver.driver.send }
      air := some (.toSender settings) } := by
  have idle : world.receiver.driver.waiting = false := by
    by_contra waiting
    rw [inv.calls (by simpa using waiting)] at phase
    cases phase
  refine ⟨inv.attends, by simp, by simp [Driver.send], ?_, inv.early, fun _ => inv.unlike (by simp [phase]),
    by simp⟩
  rintro bytes (flying | ⟨waiting, -⟩)
  · cases flying
  · simp [Driver.send, idle] at waiting

theorem HandshakeInv.reply (inv : HandshakeInv settings world)
    (answer : world.sender.reply = some (bytes, sender)) :
    HandshakeInv settings { world with sender, air := some (.toReceiver bytes) } := by
  obtain ⟨driver, cases⟩ := SenderSide.reply_cases answer
  have phase : world.sender.phase = .responding ∨ world.sender.phase = .acknowledging :=
    cases.imp And.left And.left
  -- It does not hear either, so its driver is empty and its radio asleep.
  have quiet : sender.driver.dataSem = 0 ∧ sender.driver.receiving = false := by
    obtain quiet | ⟨-, waiting | listening, -⟩ :=
      inv.attends (by rcases phase with phase | phase <;> simp [phase])
    · rw [driver]
      exact ⟨quiet.1, rfl⟩
    · rcases phase with phase | phase <;> simp [waiting] at phase
    · rcases phase with phase | phase <;> simp [listening] at phase
  refine ⟨fun _ => .inl quiet, inv.calls, inv.cleared, ?_, ?_, inv.unlike, ?_⟩
  · rintro same (flying | pending)
    · obtain rfl : bytes = same := by simpa using flying
      refine ⟨⟨by simp, .inr quiet.1⟩, ?_⟩
      rcases cases with ⟨-, after, short⟩ | ⟨-, after, whole⟩
      · exact .inl ⟨after, short⟩
      · exact .inr ⟨.inl after, whole⟩
    · exact absurd (.inr pending) (inv.no_transit phase)
  · intro after
    rcases cases with ⟨before, -, -⟩ | ⟨-, listening, -⟩
    · exact inv.early (.inr before)
    · simp [listening] at after
  · intro left
    obtain ⟨-, listening | started, -⟩ := inv.agreed left
    · rcases phase with phase | phase <;> simp [listening] at phase
    · rcases phase with phase | phase <;> simp [started] at phase

theorem World.Unheard.lose (unheard : world.Unheard) : World.Unheard { world with air := none } :=
  ⟨by simp, unheard.2⟩

theorem HandshakeInv.lose (inv : HandshakeInv settings world) :
    HandshakeInv settings { world with air := none } := by
  refine ⟨inv.attends, inv.calls, inv.cleared, ?_, inv.early, inv.unlike, ?_⟩
  · rintro bytes (flying | pending)
    · cases flying
    · obtain ⟨unheard, content⟩ := inv.back bytes (.inr pending)
      exact ⟨unheard.lose, content⟩
  · intro left
    obtain ⟨unheard, rest⟩ := inv.agreed left
    exact ⟨unheard.lose, rest⟩

theorem HandshakeInv.reachSender (inv : HandshakeInv settings world)
    (flying : world.air = some (.toSender bytes)) (hears : world.sender.driver.receiving = true)
    (altered : List Byte) : HandshakeInv settings { world with
      sender := { world.sender with driver := world.sender.driver.rxDone altered }, air := none } := by
  refine ⟨?_, inv.calls, inv.cleared, ?_, inv.early, inv.unlike, ?_⟩
  · intro running
    obtain ⟨-, asleep⟩ | ⟨waiting, hearing, empty | ⟨-, asleep⟩⟩ := inv.attends running
    · simp [asleep] at hears
    · exact .inr ⟨waiting, hearing, .inr ⟨by simp [Driver.rxDone, empty], rfl⟩⟩
    · simp [asleep] at hears
  · rintro same (air | pending)
    · cases air
    · exact absurd flying ((inv.back same (.inr pending)).1.1 bytes)
  · intro left
    exact absurd flying ((inv.agreed left).1.1 bytes)

theorem HandshakeInv.reachReceiver (inv : HandshakeInv settings world)
    (flying : world.air = some (.toReceiver bytes)) : HandshakeInv settings { world with
      receiver := { world.receiver with driver := world.receiver.driver.rxDone bytes }, air := none } := by
  refine ⟨inv.attends, inv.calls, by simp [Driver.rxDone], ?_, inv.early, inv.unlike, ?_⟩
  · rintro same (air | ⟨-, -, content⟩)
    · cases air
    · obtain rfl : bytes = same := content
      obtain ⟨unheard, content⟩ := inv.back bytes (.inl flying)
      exact ⟨unheard.lose, content⟩
  · intro left
    obtain ⟨unheard, rest⟩ := inv.agreed left
    exact ⟨unheard.lose, rest⟩

theorem HandshakeInv.senderCalls (inv : HandshakeInv settings world)
    (idle : world.sender.driver.waiting = false) (hearing : world.sender.Hearing) :
    HandshakeInv settings { world with
      sender := { world.sender with driver := world.sender.driver.recv } } := by
  refine ⟨?_, inv.calls, inv.cleared, inv.back, inv.early, inv.unlike, inv.agreed⟩
  intro running
  obtain ⟨empty, -⟩ | ⟨waiting, -⟩ := inv.attends running
  · exact .inr ⟨rfl, hearing, .inl empty⟩
  · simp [idle] at waiting

theorem HandshakeInv.senderReceives (inv : HandshakeInv settings world)
    (taken : world.sender.driver.take = some (packet, driver)) (hearing : world.sender.Hearing) :
    HandshakeInv settings { world with sender := { world.sender with driver }.receive packet } := by
  obtain ⟨-, counted, -, rfl⟩ := Driver.take_eq_some taken
  obtain ⟨same, cases⟩ := SenderSide.receive_cases
    { world.sender with driver := { world.sender.driver with
      dataSem := world.sender.driver.dataSem - 1, waiting := false } } hearing packet
  have running : world.sender.phase ≠ .started := by
    rcases hearing with phase | phase <;> simp [phase]
  have heard : ¬ world.Unheard := by
    rintro ⟨-, started | empty⟩
    · exact running started
    · omega
  refine ⟨fun _ => .inl ?_, inv.calls, inv.cleared, ?_, ?_, inv.unlike, ?_⟩
  · rw [same]
    obtain ⟨empty, -⟩ | ⟨-, -, empty | ⟨one, asleep⟩⟩ := inv.attends running
    · omega
    · omega
    · exact ⟨by simp [one], asleep⟩
  · intro bytes transit
    exact absurd (inv.back bytes transit).1 heard
  · intro phase
    rcases cases with ⟨waiting, -⟩ | acknowledging
    · exact inv.early (.inl waiting)
    · simp [acknowledging] at phase
  · intro left
    exact absurd (inv.agreed left).1 heard

theorem HandshakeInv.senderTimeout (inv : HandshakeInv settings world)
    (phase : world.sender.phase = .listening) : HandshakeInv settings { world with
      sender := { world.sender with driver, phase := .started } } := by
  refine ⟨by simp, inv.calls, inv.cleared, ?_, by simp, inv.unlike, ?_⟩
  · intro bytes transit
    obtain ⟨unheard, ⟨waiting, -⟩ | ⟨-, whole⟩⟩ := inv.back bytes transit
    · simp [phase] at waiting
    · exact ⟨⟨unheard.1, .inl rfl⟩, .inr ⟨.inr rfl, whole⟩⟩
  · intro left
    obtain ⟨unheard, -, same⟩ := inv.agreed left
    exact ⟨⟨unheard.1, .inl rfl⟩, .inr rfl, same⟩

theorem HandshakeInv.receiverCalls (inv : HandshakeInv settings world)
    (phase : world.receiver.phase = .awaiting) : HandshakeInv settings { world with
      receiver := { world.receiver with driver := world.receiver.driver.recv } } := by
  refine ⟨inv.attends, fun _ => phase, by simp [Driver.recv], ?_, inv.early, inv.unlike, inv.agreed⟩
  rintro bytes (flying | ⟨-, asleep, -⟩)
  · exact inv.back bytes (.inl flying)
  · cases asleep

theorem HandshakeInv.receiverTimeout (inv : HandshakeInv settings world)
    (silent : world.receiver.driver.timeout = some driver) (phase : world.receiver.phase = .awaiting) :
    HandshakeInv settings { world with
      receiver := { world.receiver with driver, phase := .sending } } := by
  obtain ⟨-, -, rfl⟩ := Driver.timeout_eq_some silent
  refine ⟨inv.attends, by simp, by simp, ?_, inv.early, fun _ => inv.unlike (by simp [phase]), by simp⟩
  rintro bytes (flying | ⟨waiting, -⟩)
  · exact inv.back bytes (.inl flying)
  · cases waiting

/-- The receiver leaves its loop only on an acknowledgement that came during its call, and
that is what the sender's buffer holds. -/
theorem HandshakeInv.receiverReceives (inv : HandshakeInv settings world) (marked : Marked settings)
    (taken : world.receiver.driver.take = some (packet, driver))
    (phase : world.receiver.phase = .awaiting) : HandshakeInv settings { world with
      receiver := { world.receiver with driver }.receive settings packet } := by
  obtain ⟨waiting, -, rfl, rfl⟩ := Driver.take_eq_some taken
  have idle : ∀ bytes, World.Transit { world with
      receiver := ReceiverSide.receive settings { world.receiver with driver :=
        { world.receiver.driver with dataSem := world.receiver.driver.dataSem - 1, waiting := false } }
        world.receiver.driver.rxBuf } bytes → world.Transit bytes := by
    rintro bytes (flying | ⟨waits, -⟩)
    · exact .inl flying
    · cases waits
  have unlike := inv.unlike (by simp [phase])
  refine ⟨inv.attends, by simp [ReceiverSide.receive], by simp [ReceiverSide.receive],
    fun bytes transit => inv.back bytes (idle bytes transit), ?_, ?_, ?_⟩
  · intro early
    have zeroed := inv.early early
    by_cases receives : world.receiver.driver.receiving = true
    · exact (cleared_packet_rejected marked { world.receiver with driver := _ } unlike
        (inv.cleared waiting receives)).2 zeroed
    · obtain ⟨-, ⟨-, short⟩ | ⟨settled, -⟩⟩ := inv.back _ (.inr ⟨waiting, by simpa using receives, rfl⟩)
      · exact (short_packet_rejected marked { world.receiver with driver := _ } zeroed short).2
      · rcases settled with settled | settled <;> simp [settled] at early
  · intro open' same
    exact open' (by simpa [ReceiverSide.receive] using same)
  · intro left
    by_cases receives : world.receiver.driver.receiving = true
    · have rejected := (cleared_packet_rejected marked { world.receiver with driver := _ } unlike
        (inv.cleared waiting receives)).1
      exact absurd (left.symm.trans rejected) (by simp)
    · obtain ⟨unheard, ⟨early, short⟩ | ⟨settled, whole⟩⟩ :=
        inv.back _ (.inr ⟨waiting, by simpa using receives, rfl⟩)
      · have rejected := (short_packet_rejected marked { world.receiver with driver := _ }
          (inv.early (.inl early)) short).1
        exact absurd (left.symm.trans rejected) (by simp)
      · refine ⟨unheard, settled, ?_⟩
        have copied : (overwrite world.receiver.data world.receiver.driver.rxBuf).toList =
            world.sender.data.toList := by
          rw [overwrite_full world.receiver.data (by simp [whole]), whole]
        by_contra differs
        simp [ReceiverSide.receive, copied, differs] at left

end

theorem handshake_step (marked : Marked settings) (before after : World)
    (inv : HandshakeInv settings before) (step : Step settings before after) :
    HandshakeInv settings after := by
  cases step with
  | sendSettings _ free phase => exact inv.sendSettings phase
  | reply _ free answer => exact inv.reply answer
  | lose => exact inv.lose
  | reachSender _ flying hears size => exact inv.reachSender flying hears _
  | reachReceiver _ flying hears => exact inv.reachReceiver flying
  | senderCalls _ idle phase => exact inv.senderCalls idle phase
  | senderReceives _ taken phase => exact inv.senderReceives taken phase
  | senderTimeout _ silent phase => exact inv.senderTimeout phase
  | receiverCalls _ idle phase => exact inv.receiverCalls phase
  | receiverReceives _ taken phase => exact inv.receiverReceives marked taken phase
  | receiverTimeout _ silent phase => exact inv.receiverTimeout silent phase

theorem HandshakeInv.initial (marked : Marked settings) {world : World} (initial : world.Initial) :
    HandshakeInv settings world where
  attends := fun _ => .inl ⟨initial.untaken, initial.asleep⟩
  calls := by simp [initial.idle]
  cleared := by simp [initial.idle]
  back := by
    rintro bytes (flying | ⟨waiting, -⟩)
    · simp [initial.free] at flying
    · simp [initial.idle] at waiting
  early := by simp [initial.zeroed, maxDataLen]
  unlike := fun _ => differs_at 5 (by simp [initial.zeroed, maxDataLen]) marked.behind
  agreed := by simp [initial.sending]

theorem left_stable (run : Relation.ReflTransGen (Step settings) world later)
    (left : world.receiver.phase = .left) : later.receiver.phase = .left := by
  have keeps (before after : World) (held : before.receiver.phase = .left)
      (step : Step settings before after) : after.receiver.phase = .left := by
    cases step with
    | sendSettings _ free phase | receiverCalls _ idle phase | receiverReceives _ taken phase
    | receiverTimeout _ silent phase => simp [held] at phase
    | reply | lose | reachSender | reachReceiver | senderCalls | senderReceives | senderTimeout =>
      exact held
  exact run_invariant (fun world => world.receiver.phase = .left) keeps run left

/-- Once the receiver has left its loop, the sender holds its settings. -/
theorem handshake_agrees (marked : Marked settings) {world : World} (initial : world.Initial)
    (run : Relation.ReflTransGen (Step settings) world later) (left : later.receiver.phase = .left) :
    later.sender.data.toList.take settings.length = settings :=
  (run_invariant (HandshakeInv settings) (handshake_step marked) run
    (.initial marked initial)).agreed left |>.2.2

end LoraEval.Firmware

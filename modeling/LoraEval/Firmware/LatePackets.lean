import LoraEval.Firmware.RadioDriver

/-! A packet that arrives after a timeout, when no call waits for it. The next call clears
the buffer, finds the semaphore counted and returns zeros, and from then on the driver is
one packet behind. -/

namespace LoraEval.Firmware

open LoraEval.Core

def RadioDriver.Broken (events : List RadioEvent) (driver : RadioDriver) : Prop :=
  ∃ (index : Nat) (reception : Reception) (outcome : RecvOutcome),
    (arrivals events)[index]? = some reception ∧ driver.returned[index]? = some outcome ∧
      ¬ outcome.Whole reception

def RecvCall.count : RecvCall → Nat
  | .idle | .waiting _ => 0
  | _ => 1

/-- A call that began with a packet left over. If another one comes during the call, one
is left over again; otherwise the bytes it copies are those of the cleared buffer. -/
def RecvCall.Stale (mode : RadioMode) (dataSem : Nat) : RecvCall → Prop
  | .idle => 0 < dataSem
  | .waiting size => 0 < size ∧ 0 < dataSem ∧ (mode ≠ .receiving → 1 < dataSem)
  | .taken size => 0 < size ∧ (mode ≠ .receiving → 0 < dataSem)
  | .copying _ length data =>
    0 < length ∧ (mode ≠ .receiving → 0 < dataSem) ∧ (mode = .receiving → ∀ byte ∈ data, byte = 0)
  | .strength _ data | .ratio _ data _ | .leaving _ data _ _ =>
    data ≠ [] ∧ (mode ≠ .receiving → 0 < dataSem) ∧ (mode = .receiving → ∀ byte ∈ data, byte = 0)

/-- One packet more has arrived than the calls will have returned. -/
structure RadioDriver.Behind (events : List RadioEvent) (driver : RadioDriver) : Prop where
  counted : driver.returned.length + driver.dataSem + driver.call.count = (arrivals events).length
  nonempty : 0 < driver.rxLen
  mode : driver.call ≠ .idle → driver.mode ≠ .sending
  cleared : driver.call ≠ .idle → driver.mode = .receiving → driver.rxBuf = Vector.replicate maxTransmLen 0
  stale : driver.call.Stale driver.mode driver.dataSem

/-- Packets that begin with a byte other than zero, and calls with room for it. -/
def RadioEvent.Telling : RadioEvent → Prop
  | .rxDone reception => ∃ byte rest, reception.packet = byte :: rest ∧ byte ≠ 0
  | .recv size => 0 < size
  | _ => True

section

variable {driver next : RadioDriver} {events : List RadioEvent}

theorem RadioDriver.Broken.grow (broken : driver.Broken events)
    (grown : ∃ more, next.returned = driver.returned ++ more) : next.Broken (events ++ [event]) := by
  obtain ⟨index, reception, outcome, arrived, returned, damaged⟩ := broken
  obtain ⟨more, grown⟩ := grown
  refine ⟨index, reception, outcome, ?_, ?_, damaged⟩
  · rw [arrivals, List.filterMap_append, ← arrivals,
      List.getElem?_append_left (List.getElem?_eq_some_iff.mp arrived).1, arrived]
  · rw [grown, List.getElem?_append_left (List.getElem?_eq_some_iff.mp returned).1, returned]

theorem RadioDriver.Broken.not_served (broken : driver.Broken events) :
    ¬ List.Forall₂ RecvOutcome.Whole (arrivals events) driver.returned := by
  intro served
  obtain ⟨index, reception, outcome, arrived, returned, damaged⟩ := broken
  obtain ⟨inside, rfl⟩ := List.getElem?_eq_some_iff.mp arrived
  obtain ⟨bound, rfl⟩ := List.getElem?_eq_some_iff.mp returned
  exact damaged ((List.forall₂_iff_get.mp served).2 index inside bound)

theorem RadioDriver.Reacts.returned_grows (reacts : driver.Reacts event next) :
    ∃ more, next.returned = driver.returned ++ more := by
  cases reacts with
  | step proceeds =>
    cases proceeds with
    | leave => exact ⟨_, rfl⟩
    | _ => exact ⟨[], (List.append_nil _).symm⟩
  | _ => exact ⟨[], (List.append_nil _).symm⟩

/-- A call that copied nothing but cleared bytes does not return a telling packet whole. -/
private theorem not_whole_of_zeros {outcome : RecvOutcome} (some : outcome.data ≠ [])
    (zeros : ∀ byte ∈ outcome.data, byte = 0) (packet : reception.packet = byte :: rest)
    (nonzero : byte ≠ 0) : ¬ outcome.Whole reception := by
  intro whole
  have same := whole.data
  rw [packet] at same
  cases size : outcome.size with
  | zero => exact some (by simpa [size] using same)
  | succ size' =>
    rw [size, List.take_succ_cons] at same
    exact nonzero (zeros byte (by simp [same]))

theorem RadioDriver.Behind.proceed (behind : driver.Behind events)
    (telling : ∀ reception ∈ arrivals events, ∃ byte rest, reception.packet = byte :: rest ∧ byte ≠ 0)
    (proceeds : driver.Proceeds next) :
    next.Broken (events ++ [.step]) ∨ next.Behind (events ++ [.step]) := by
  have later := arrivals_silent events (show RadioEvent.step.reception? = none from rfl)
  obtain ⟨counted, nonempty, mode, cleared, stale⟩ := behind
  obtain ⟨-, busy, -⟩ := proceeds.frame
  rw [← later] at counted
  cases proceeds with
  | take call some =>
    rw [call] at counted stale
    refine .inr ⟨?_, nonempty, fun _ => mode busy, fun _ => cleared busy, stale.1, fun came => ?_⟩
    · simp only [RecvCall.count] at counted ⊢
      omega
    · have := stale.2.2 came
      show 0 < driver.dataSem - 1
      omega
  | shorten call shortened =>
    rw [call] at counted stale
    have positive := shortened ▸ Nat.lt_min.mpr ⟨nonempty, stale.1⟩
    exact .inr ⟨counted, positive, fun _ => mode busy, fun _ => cleared busy, positive, stale.2, by simp⟩
  | copied call complete =>
    rw [call] at counted stale
    obtain ⟨positive, left, zeros⟩ := stale
    refine .inr ⟨counted, nonempty, fun _ => mode busy, fun _ => cleared busy, ?_, left, zeros⟩
    exact List.ne_nil_of_length_pos (complete ▸ positive)
  | @copy size length data byte call more read =>
    rw [call] at counted stale
    obtain ⟨positive, left, zeros⟩ := stale
    refine .inr ⟨counted, nonempty, fun _ => mode busy, fun _ => cleared busy, positive, left,
      fun receiving => ?_⟩
    have zero : byte = 0 := by
      rw [cleared busy receiving, Vector.getElem?_replicate] at read
      split at read
      · exact (Option.some.inj read).symm
      · cases read
    simpa [zero, or_imp, forall_and] using zeros receiving
  | readRssi call | readSnr call =>
    rw [call] at counted stale
    exact .inr ⟨counted, nonempty, fun _ => mode busy, fun _ => cleared busy, stale⟩
  | leave call =>
    rw [call] at counted stale
    obtain ⟨some, left, zeros⟩ := stale
    simp only [RecvCall.count] at counted
    by_cases rest : 0 < driver.dataSem
    · refine .inr ⟨?_, nonempty, by simp, by simp, rest⟩
      simp only [RecvCall.count, List.length_append, List.length_singleton]
      omega
    · -- The call returns the last packet, and its bytes are cleared ones.
      have receiving : driver.mode = .receiving := by
        by_contra came
        exact rest (left came)
      have inside : driver.returned.length < (arrivals events).length := by
        rw [← later]
        omega
      obtain ⟨byte, tail, packet, nonzero⟩ := telling _ (List.getElem_mem inside)
      exact .inl ⟨driver.returned.length, _, _, by rw [later, List.getElem?_eq_getElem inside],
        List.getElem?_concat_length, not_whole_of_zeros some (zeros receiving) packet nonzero⟩

/-- Once a packet is left over, one will be left over after every call, or one has been
returned that is not as it was received. -/
theorem RadioDriver.Behind.step (behind : driver.Behind events) (reacts : driver.Reacts event next)
    (telling : ∀ reception ∈ arrivals events, ∃ byte rest, reception.packet = byte :: rest ∧ byte ≠ 0)
    (tells : event.Telling) : next.Broken (events ++ [event]) ∨ next.Behind (events ++ [event]) := by
  have later (silent : event.reception? = none) := arrivals_silent events silent
  have counted := behind.counted
  have stale := behind.stale
  cases reacts with
  | step proceeds => exact behind.proceed telling proceeds
  | recv idle =>
    rw [idle] at counted stale
    exact .inr ⟨by rw [later rfl]; exact counted, behind.nonempty, by simp, fun _ _ => rfl, tells, stale,
      by simp⟩
  | send idle =>
    refine .inr ⟨by rw [later rfl]; exact counted, behind.nonempty, fun busy => absurd idle busy,
      fun busy => absurd idle busy, ?_⟩
    simpa [idle, RecvCall.Stale] using stale
  | timeout waiting empty =>
    rw [waiting] at stale
    exact absurd empty (Nat.ne_of_gt stale.2.1)
  | @rxDone reception receiving fits =>
    obtain ⟨byte, rest, packet, -⟩ := tells
    have length := (driver.rxDone_holds fits).2
    refine .inr ⟨?_, by rw [length, packet]; simp, fun _ => by simp [RadioDriver.rxDone],
      fun _ receiving => by simp [RadioDriver.rxDone] at receiving, ?_⟩
    · rw [arrivals_rxDone, List.length_append, ← counted]
      simp only [RadioDriver.rxDone, List.length_singleton]
      omega
    · show RecvCall.Stale .sleeping (driver.dataSem + 1) driver.call
      cases call : driver.call <;> simp_all [RecvCall.Stale]
  | txDone sending =>
    have idle : driver.call = .idle := by
      by_contra busy
      exact behind.mode busy sending
    refine .inr ⟨by rw [later rfl]; exact counted, behind.nonempty, fun busy => absurd idle busy,
      fun busy => absurd idle busy, ?_⟩
    simpa [idle, RecvCall.Stale] using stale

end

def Late (events : List RadioEvent) : Prop :=
  ∃ before reception after, events = before ++ .rxDone reception :: after ∧ Lingering before

theorem late_append :
    Late (events ++ [event]) ↔ Late events ∨ event.reception?.isSome ∧ Lingering events := by
  constructor
  · rintro ⟨before, reception, after, split, lingering⟩
    rcases split_append split with ⟨-, rfl, rfl⟩ | ⟨rest, rfl, rfl⟩
    · exact .inr ⟨rfl, lingering⟩
    · exact .inl ⟨before, reception, rest, rfl, lingering⟩
  · rintro (⟨before, reception, after, rfl, lingering⟩ | ⟨arrives, lingering⟩)
    · exact ⟨before, reception, after ++ [event], by simp, lingering⟩
    · cases event with
      | rxDone reception => exact ⟨events, reception, [], rfl, lingering⟩
      | _ => cases arrives

theorem RadioDriver.init_tuned : RadioDriver.init.Tuned [] := by
  refine ⟨fun _ => iff_of_false (by decide) not_since_nil, fun _ => not_since_nil, ?_, ?_⟩
  · intro size waiting
    simp [RadioDriver.init] at waiting
  · intro busy
    exact absurd rfl busy

theorem RadioDriver.Consistent.behind {driver : RadioDriver} (consistent : driver.Consistent events)
    (tuned : driver.Tuned events) (fits : reception.packet.length ≤ maxTransmLen)
    (lingering : Lingering events) (tells : (RadioEvent.rxDone reception).Telling) :
    (driver.rxDone reception).Behind (events ++ [.rxDone reception]) := by
  have idle : driver.call = .idle := by
    by_contra busy
    exact tuned.busy busy lingering
  obtain ⟨byte, rest, packet, -⟩ := tells
  obtain ⟨empty, served⟩ := consistent.of_idle idle
  have length := (driver.rxDone_holds fits).2
  refine ⟨?_, by rw [length, packet]; simp, fun busy => absurd idle busy,
    fun busy => absurd idle busy, ?_⟩
  · rw [arrivals_rxDone, List.length_append, served.length_eq]
    simp [RadioDriver.rxDone, idle, empty, RecvCall.count]
  · simp [RadioDriver.rxDone, idle, RecvCall.Stale]

/-- What a history without late packets, and one with some, makes of the driver. -/
def RadioDriver.Explained (events : List RadioEvent) (driver : RadioDriver) : Prop :=
  ¬ Late events ∧ driver.Consistent events ∧ driver.Tuned events ∨
    Late events ∧ (driver.Broken events ∨ driver.Behind events)

theorem RadioDriver.explained (run : forEach events RadioDriver.react .init = some final)
    (telling : ∀ event ∈ events, event.Telling) : final.Explained events := by
  refine history_invariant (fun events driver => (∀ event ∈ events, event.Telling) →
    RadioDriver.Explained events driver) (fun _ => .inl ⟨?_, .clear .nil rfl (.inl rfl), init_tuned⟩) ?_ run
    telling
  · rintro ⟨before, reception, after, split, -⟩
    simp at split
  intro before event driver next taken explained telling
  obtain ⟨earlier, tells⟩ := List.forall_mem_append.mp telling
  have tells := tells event (List.mem_singleton_self event)
  have packets : ∀ reception ∈ arrivals before, ∃ byte rest, reception.packet = byte :: rest ∧ byte ≠ 0 := by
    intro reception member
    obtain ⟨event, known, found⟩ := List.mem_filterMap.mp member
    cases event with
    | rxDone other =>
      cases found
      exact earlier _ known
    | _ => cases found
  have reacts := RadioDriver.reacts taken
  rcases explained earlier with ⟨punctual, consistent, tuned⟩ | ⟨late, broken | behind⟩
  · by_cases now : event.reception?.isSome ∧ Lingering before
    · refine .inr ⟨late_append.mpr (.inr now), .inr ?_⟩
      cases reacts with
      | rxDone receiving fits => exact consistent.behind tuned fits now.2 tells
      | _ => cases now.1
    · have awaited : Awaited event driver := by
        cases reacts with
        | rxDone receiving =>
          exact (tuned.awaited_iff receiving).mpr fun lingering => now ⟨rfl, lingering⟩
        | _ => exact fun found => by cases found
      refine .inl ⟨fun late => ?_, consistent.step reacts awaited, tuned.step reacts consistent awaited⟩
      exact (late_append.mp late).elim punctual now
  · exact .inr ⟨late_append.mpr (.inl late), .inl (broken.grow reacts.returned_grows)⟩
  · exact .inr ⟨late_append.mpr (.inl late), behind.step reacts packets tells⟩

/-- In every interleaving, once the thread is outside the driver, each packet has been
returned by one call, whole as far as the size of the call allows and with its own signal
values, in the order of arrival, exactly if no packet arrived between a timeout and the
next call. Packets begin with a byte other than zero, and calls have room for it. -/
theorem packets_served_iff (run : forEach events RadioDriver.react .init = some final)
    (telling : ∀ event ∈ events, event.Telling) (outside : final.call = .idle) :
    List.Forall₂ RecvOutcome.Whole (arrivals events) final.returned ↔
      ∀ before reception after, events = before ++ .rxDone reception :: after → ¬ Lingering before := by
  have punctual_iff : (∀ before reception after, events = before ++ .rxDone reception :: after →
      ¬ Lingering before) ↔ ¬ Late events := by
    simp only [Late, not_exists, not_and]
  rw [punctual_iff]
  rcases RadioDriver.explained run telling with ⟨punctual, consistent, -⟩ | ⟨late, broken | behind⟩
  · exact iff_of_true (consistent.of_idle outside).2 punctual
  · exact iff_of_false broken.not_served (not_not.mpr late)
  · refine iff_of_false (fun served => ?_) (not_not.mpr late)
    have counted := behind.counted
    have left := behind.stale
    rw [outside] at counted left
    have size := served.length_eq
    simp only [RecvCall.count] at counted
    have : 0 < final.dataSem := left
    omega

def servedEvents : List RadioEvent :=
  [.recv 20, .rxDone ⟨[1, 2, 3], -80, 7⟩, .step, .step, .step, .step, .step, .step, .step, .step, .step]

theorem packets_served_sample :
    ∃ final, forEach servedEvents RadioDriver.react .init = some final ∧
      final.returned = [⟨20, [1, 2, 3], -80, 7, 3⟩] ∧
      (List.Forall₂ RecvOutcome.Whole (arrivals servedEvents) final.returned ↔
        ∀ before reception after, servedEvents = before ++ .rxDone reception :: after →
          ¬ Lingering before) := by
  obtain ⟨final, run, outside, returned⟩ :
      ∃ final, forEach servedEvents RadioDriver.react .init = some final ∧ final.call = .idle ∧
        final.returned = [⟨20, [1, 2, 3], -80, 7, 3⟩] := ⟨_, rfl, rfl, rfl⟩
  refine ⟨final, run, returned, packets_served_iff run ?_ outside⟩
  simp [servedEvents, RadioEvent.Telling]

/-- A packet arrives after a timeout, and another one while it is copied: a cleared byte and
two bytes of the other packet are stored, and a length of five is returned. -/
example : (forEach [.recv 20, .timeout, .rxDone ⟨[1, 2, 3], -80, 7⟩, .recv 20, .step, .step, .step,
    .rxDone ⟨[11, 12, 13, 14, 15], -90, 5⟩, .step, .step, .step, .step, .step, .step] RadioDriver.react
    .init).map RadioDriver.returned = some [⟨20, [0, 12, 13], -90, 5, 5⟩] := by rfl

end LoraEval.Firmware

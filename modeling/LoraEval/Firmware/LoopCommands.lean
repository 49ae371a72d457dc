import LoraEval.Firmware.SenderRadio

namespace LoraEval.Firmware

open LoraEval.Core

namespace SenderRadio

/-- The seconds `exec_loop` waits after the message it sends in a step. -/
def wait (event : SenderAction) (radio : SenderRadio) : List Nat :=
  if event = .loops ∧ ∃ i ∈ radio.thread0, i < radio.numberOfMessages.toNat then
    [radio.timeBetweenMsgs.toNat]
  else []

/-- The waits of `exec_loop` in a run, one for each message it sends. -/
def loopWaits (outside : Nat → Nat) : List SenderAction → SenderRadio → List Nat
  | [], _ => []
  | event :: rest, radio =>
    radio.wait event ++ (radio.step outside event).elim [] (loopWaits outside rest)

structure SameLoop (radio next : SenderRadio) : Prop where
  thread : next.thread0 = radio.thread0
  number : next.numberOfMessages = radio.numberOfMessages
  time : next.timeBetweenMsgs = radio.timeBetweenMsgs

theorem proceeds_sameLoop {radio : SenderRadio} (taken : radio.proceeds outside input = some next) :
    SameLoop radio next := by
  obtain ⟨threads, -, rfl⟩ := Option.map_eq_some_iff.mp taken
  exact ⟨rfl, rfl, rfl⟩

theorem acknowledging_sameLoop {radio : SenderRadio}
    (taken : radio.acknowledging slot phase tx = some next) : SameLoop radio next := by
  obtain ⟨threads, -, rfl⟩ := Option.map_eq_some_iff.mp taken
  exact ⟨rfl, rfl, rfl⟩

/-- Only writes to the loop characteristic and the loop itself touch its variables. -/
theorem step_sameLoop {radio : SenderRadio} (taken : radio.step outside event = some next)
    (silent : ∀ first text, event ≠ .loop first text) (other : event ≠ .loops) : SameLoop radio next := by
  cases event with
  | changeConfig pu =>
    obtain rfl := Option.some.inj taken
    exact ⟨rfl, rfl, rfl⟩
  | send first =>
    obtain rfl := Option.some.inj taken
    rw [sendCommandCb]
    split <;> exact ⟨rfl, rfl, rfl⟩
  | loop first text => exact absurd rfl (silent first text)
  | prepare buf =>
    simp only [step, prepareSenderCb] at taken
    split at taken
    · cases taken
      exact ⟨rfl, rfl, rfl⟩
    · obtain ⟨-, same⟩ := Option.ite_none_right_eq_some.mp taken
      cases same
      exact ⟨rfl, rfl, rfl⟩
  | loops => exact absurd rfl other
  | pingStarts | pingEnds | configures slot | transmits slot =>
    obtain ⟨-, same⟩ := Option.ite_none_right_eq_some.mp taken
    cases same
    exact ⟨rfl, rfl, rfl⟩
  | answersPing slot | ends slot =>
    obtain ⟨between, proceeded, rfl⟩ := Option.map_eq_some_iff.mp taken
    obtain ⟨thread, number, time⟩ := proceeds_sameLoop proceeded
    exact ⟨thread, number, time⟩
  | settings slot => exact acknowledging_sameLoop taken
  | acknowledges slot =>
    obtain ⟨-, answered⟩ := Option.ite_none_right_eq_some.mp taken
    obtain ⟨thread, number, time⟩ := acknowledging_sameLoop answered
    exact ⟨thread, number, time⟩
  | repeated slot =>
    obtain ⟨-, again⟩ := Option.ite_none_left_eq_some.mp taken
    exact acknowledging_sameLoop again
  | countedDown slot =>
    obtain ⟨-, proceeded⟩ := Option.ite_none_left_eq_some.mp taken
    exact proceeds_sameLoop proceeded
  | assigns slot level index => exact proceeds_sameLoop taken

def remaining (radio : SenderRadio) : Nat := radio.thread0.elim 0 (radio.numberOfMessages.toNat - ·)

/-- Without a write to the loop characteristic, a step sends at most one of the remaining
messages and keeps the time between them. -/
theorem step_remaining {radio : SenderRadio} (taken : radio.step outside event = some next)
    (silent : ∀ first text, event ≠ .loop first text) :
    radio.wait event ++ List.replicate next.remaining radio.timeBetweenMsgs.toNat =
        List.replicate radio.remaining radio.timeBetweenMsgs.toNat ∧
      next.timeBetweenMsgs = radio.timeBetweenMsgs := by
  by_cases loops : event = .loops
  · subst loops
    obtain ⟨i, running, rfl⟩ := Option.map_eq_some_iff.mp taken
    by_cases more : i < radio.numberOfMessages.toNat
    · have left : radio.numberOfMessages.toNat - i = radio.numberOfMessages.toNat - (i + 1) + 1 := by omega
      simp [wait, remaining, running, more, emit, left, List.replicate_succ]
    · simp [wait, remaining, running, more, show radio.numberOfMessages.toNat - i = 0 by omega]
  · obtain ⟨thread, number, time⟩ := step_sameLoop taken silent loops
    simp [wait, remaining, loops, thread, number, time]

/-- A loop that runs to its end sends all its messages, with the same wait after each. -/
theorem loopWaits_eq {radio : SenderRadio} (silent : ∀ first text, .loop first text ∉ history)
    (run : forEach history (step outside) radio = some final) (ended : final.thread0 = none) :
    radio.loopWaits outside history = List.replicate radio.remaining radio.timeBetweenMsgs.toNat := by
  induction history generalizing radio with
  | nil =>
    obtain rfl : radio = final := by simpa [forEach] using run
    simp [loopWaits, remaining, ended]
  | cons event rest ih =>
    obtain ⟨next, taken, later⟩ :
        ∃ next, radio.step outside event = some next ∧ forEach rest (step outside) next = some final :=
      Option.bind_eq_some_iff.mp run
    obtain ⟨sent, time⟩ := step_remaining taken fun first text same =>
      silent first text (by rw [same]; exact List.mem_cons_self)
    have others := ih (fun first text member => silent first text (List.mem_cons_of_mem event member)) later
    rw [loopWaits, taken, Option.elim_some, others, time, sent]

theorem loops_end {radio : SenderRadio} (outside : Nat → Nat) (running : radio.thread0 = some i)
    (left : radio.numberOfMessages.toNat = i + count) :
    ∃ final, forEach (List.replicate (count + 1) .loops) (step outside) radio = some final ∧
      final.thread0 = none := by
  induction count generalizing radio i with
  | zero =>
    have last : radio.step outside .loops = some { radio with thread0 := none } := by
      simp [step, loops, running, show ¬ i < radio.numberOfMessages.toNat by omega]
    exact ⟨_, by simpa [forEach] using last, rfl⟩
  | succ count ih =>
    have pass : radio.step outside .loops = some { radio.emit [.send] with thread0 := some (i + 1) } := by
      simp [step, loops, running, show i < radio.numberOfMessages.toNat by omega]
    obtain ⟨final, run, ended⟩ := ih (i := i + 1)
      (show { radio.emit [.send] with thread0 := some (i + 1) }.thread0 = some (i + 1) from rfl)
      (by simp only [emit]; omega)
    refine ⟨final, ?_, ended⟩
    rw [List.replicate_succ, forEach_cons, pass]
    exact run

end SenderRadio

/-- A loop started after `radio`, with no write for `command` and no other loop before, that
runs to its end without a further write to the loop characteristic. It waits `waits`
seconds, once after each of its messages. -/
def NextLoop (outside : Nat → Nat) (command : LoopCommand) (radio : SenderRadio) (waits : List Nat) : Prop :=
  ∃ before first text history ready started final,
    (∀ other written, .loop other written ∈ before →
      LoopCommand.ofChar other ≠ command ∧ LoopCommand.ofChar other ≠ .start) ∧
    forEach before (SenderRadio.step outside) radio = some ready ∧
    LoopCommand.ofChar first = .start ∧ ready.loopCommandCb first text = some started ∧
    (∀ other written, .loop other written ∉ history) ∧
    forEach history (SenderRadio.step outside) started = some final ∧ final.thread0 = none ∧
    waits = started.loopWaits outside history

section

variable {outside : Nat → Nat} {radio : SenderRadio}

/-- A step changes a variable of the loop only by a write of its command. -/
theorem step_variables {next : SenderRadio} (taken : radio.step outside event = some next) :
    (next.numberOfMessages = radio.numberOfMessages ∨
      ∃ first text, event = .loop first text ∧ LoopCommand.ofChar first = .setNumber) ∧
    (next.timeBetweenMsgs = radio.timeBetweenMsgs ∨
      ∃ first text, event = .loop first text ∧ LoopCommand.ofChar first = .setTime) := by
  by_cases loops : event = .loops
  · subst loops
    obtain ⟨i, -, rfl⟩ := Option.map_eq_some_iff.mp taken
    split <;> exact ⟨.inl rfl, .inl rfl⟩
  by_cases written : ∃ first text, event = .loop first text
  · obtain ⟨first, text, rfl⟩ := written
    rcases SenderRadio.loopCommandCb_spec taken with
      ⟨command, number, rfl⟩ | ⟨command, time, rfl⟩ | ⟨-, rfl⟩ | ⟨-, rfl⟩
    · exact ⟨.inr ⟨first, text, rfl, command⟩, .inl rfl⟩
    · exact ⟨.inl rfl, .inr ⟨first, text, rfl, command⟩⟩
    · exact ⟨.inl rfl, .inl rfl⟩
    · exact ⟨.inl rfl, .inl rfl⟩
  · obtain ⟨-, number, time⟩ :=
      SenderRadio.step_sameLoop taken (fun first text same => written ⟨first, text, same⟩) loops
    exact ⟨.inl number, .inl time⟩

theorem NextLoop.length_eq (next : NextLoop outside .setNumber radio waits) :
    waits.length = radio.numberOfMessages.toNat := by
  obtain ⟨before, first, text, history, ready, started, final, others, prepared, start, begun, silent, run,
    ended, rfl⟩ := next
  have number : ready.numberOfMessages = radio.numberOfMessages := by
    refine forEach_keeps (fun state => state.numberOfMessages = radio.numberOfMessages) ?_ prepared rfl
    intro event member state next taken kept
    rcases (step_variables taken).1 with same | ⟨other, written, rfl, command⟩
    · exact same.trans kept
    · exact absurd command (others other written member).1
  rw [SenderRadio.loopWaits_eq silent run ended, List.length_replicate]
  rw [SenderRadio.loopCommandCb_start start] at begun
  cases begun
  simp [SenderRadio.remaining, number]

theorem NextLoop.waits_eq (next : NextLoop outside .setTime radio waits) (member : wait ∈ waits) :
    wait = radio.timeBetweenMsgs.toNat := by
  obtain ⟨before, first, text, history, ready, started, final, others, prepared, start, begun, silent, run,
    ended, rfl⟩ := next
  have time : ready.timeBetweenMsgs = radio.timeBetweenMsgs := by
    refine forEach_keeps (fun state => state.timeBetweenMsgs = radio.timeBetweenMsgs) ?_ prepared rfl
    intro event member state next taken kept
    rcases (step_variables taken).2 with same | ⟨other, written, rfl, command⟩
    · exact same.trans kept
    · exact absurd command (others other written member).1
  rw [SenderRadio.loopWaits_eq silent run ended] at member
  rw [SenderRadio.loopCommandCb_start start] at begun
  cases begun
  rw [List.eq_of_mem_replicate member, time]

theorem nextLoop_exists (outside : Nat → Nat) (radio : SenderRadio) :
    (∃ waits, NextLoop outside .setNumber radio waits) ∧
      ∃ waits, NextLoop outside .setTime radio waits ∧ waits ≠ [] := by
  have loop (ready : SenderRadio) :
      ∃ final, forEach (List.replicate (ready.numberOfMessages.toNat + 1) .loops)
      (SenderRadio.step outside) { ready with thread0 := some 0 } = some final ∧ final.thread0 = none :=
    SenderRadio.loops_end outside rfl (Nat.zero_add _).symm
  have silent (count : Nat) (other : Byte) (written : List Byte) :
      SenderAction.loop other written ∉ List.replicate count .loops := by
    simp [List.mem_replicate]
  constructor
  · obtain ⟨final, run, ended⟩ := loop radio
    exact ⟨_, [], 65, [], _, radio, _, final, by simp, rfl, by decide, rfl, silent _, run, ended, rfl⟩
  · have one : radio.loopCommandCb 33 [49, 46] = some { radio with numberOfMessages := 1 } := rfl
    obtain ⟨final, run, ended⟩ := loop { radio with numberOfMessages := 1 }
    refine ⟨_, ⟨[.loop 33 [49, 46]], 65, [], _, { radio with numberOfMessages := 1 }, _, final, ?_, ?_,
      by decide, rfl, silent _, run, ended, rfl⟩, ?_⟩
    · intro other written member
      obtain ⟨rfl, -⟩ : other = 33 ∧ _ := by simpa using member
      decide
    · rw [forEach_cons]
      exact congrArg (· >>= forEach [] _) one
    · rw [SenderRadio.loopWaits_eq (silent _) run ended]
      simp [SenderRadio.remaining]

/-- `atoi` of the memory, stored in a variable of `w` bits, is `n`. -/
def ReadsAs (w n : Nat) (memory : List Byte) : Prop :=
  ∃ value, atoi memory = some value ∧ (BitVec.ofInt w value).toNat = n

theorem atoi_number {text : List Byte} (nonempty : text ≠ [])
    (read : readDigits digitValue text 0 = some n) (stop : digitValue symbol = none) (rest : List Byte) :
    atoi (text ++ symbol :: rest) = some (n : Int) := by
  cases text with
  | nil => exact absurd rfl nonempty
  | cons first others => exact atoi_digits read stop rest

theorem readsAs_number {text : List Byte} (nonempty : text ≠ [])
    (read : readDigits digitValue text 0 = some value) (stop : digitValue symbol = none) (rest : List Byte) :
    ReadsAs w n (text ++ symbol :: rest) ↔ value % 2 ^ w = n := by
  simp only [ReadsAs, atoi_number nonempty read stop rest, Option.some.injEq, exists_eq_left',
    BitVec.ofInt_natCast, BitVec.toNat_ofNat]

/-- The digits are read as their number, whatever follows, exactly if the variable is wide
enough and the next byte in memory is not a digit. -/
theorem readsAs_iff {text : List Byte} (nonempty : text ≠ [])
    (read : readDigits digitValue text 0 = some n) (next : Byte) (wide : 2 ≤ 2 ^ w) :
    (∀ rest, ReadsAs w n (text ++ next :: rest)) ↔ n < 2 ^ w ∧ digitValue next = none := by
  constructor
  · intro meant
    rcases Option.eq_none_or_eq_some (digitValue next) with stop | ⟨d, digit⟩
    · have same := (readsAs_number nonempty read stop []).mp (meant [])
      exact ⟨by rw [← same]; exact Nat.mod_lt n (by omega), stop⟩
    · -- One more digit in the memory, 1 or 2, gives different numbers.
      have more (symbol : Byte) (e : Nat) (known : digitValue symbol = some e) :
          (10 * (10 * n + d) + e) % 2 ^ w = n := by
        have longer : readDigits digitValue (text ++ [next, symbol]) 0 = some (10 * (10 * n + d) + e) := by
          simp [readDigits_append, read, readDigits, digit, known]
        have stop : digitValue 46 = none := by decide
        have reads := meant [symbol, 46]
        rw [show text ++ next :: [symbol, 46] = (text ++ [next, symbol]) ++ 46 :: [] by simp] at reads
        exact (readsAs_number (by simp) longer stop []).mp reads
      have one := more 49 1 (by decide)
      have two := more 50 2 (by decide)
      have apart := Nat.sub_mod_eq_zero_of_mod_eq (two.trans one.symm)
      rw [Nat.add_sub_add_left, Nat.mod_eq_of_lt (by omega)] at apart
      exact absurd apart (by decide)
  · rintro ⟨small, stop⟩ rest
    rw [readsAs_number nonempty read stop rest]
    exact Nat.mod_eq_of_lt small

variable (outside radio)

/-- After a write of `!` and `memory`, every next loop sends `n` messages. -/
def NumberMeant (n : Nat) (memory : List Byte) : Prop :=
  ∃ next, radio.loopCommandCb 33 memory = some next ∧ (∃ waits, NextLoop outside .setNumber next waits) ∧
    ∀ waits, NextLoop outside .setNumber next waits → waits.length = n

/-- After a write of `#` and `memory`, every next loop waits `n` seconds between its messages. -/
def TimeMeant (n : Nat) (memory : List Byte) : Prop :=
  ∃ next, radio.loopCommandCb 35 memory = some next ∧ (∃ waits, NextLoop outside .setTime next waits) ∧
    ∀ waits, NextLoop outside .setTime next waits → ∀ wait ∈ waits, wait = n

variable {outside radio}

theorem numberMeant_iff : NumberMeant outside radio n memory ↔ ReadsAs 16 n memory := by
  have command : radio.loopCommandCb 33 memory =
      (atoi memory).map fun i => { radio with numberOfMessages := BitVec.ofInt 16 i } := rfl
  rw [NumberMeant, command]
  constructor
  · rintro ⟨next, written, ⟨waits, loop⟩, meant⟩
    obtain ⟨value, parsed, rfl⟩ := Option.map_eq_some_iff.mp written
    exact ⟨value, parsed, loop.length_eq.symm.trans (meant waits loop)⟩
  · rintro ⟨value, parsed, rfl⟩
    refine ⟨{ radio with numberOfMessages := BitVec.ofInt 16 value }, by rw [parsed]; rfl,
      (nextLoop_exists outside _).1, ?_⟩
    intro waits loop
    exact loop.length_eq

theorem timeMeant_iff : TimeMeant outside radio n memory ↔ ReadsAs 8 n memory := by
  have command : radio.loopCommandCb 35 memory =
      (atoi memory).map fun i => { radio with timeBetweenMsgs := BitVec.ofInt 8 i } := rfl
  rw [TimeMeant, command]
  constructor
  · rintro ⟨next, written, -, meant⟩
    obtain ⟨value, parsed, rfl⟩ := Option.map_eq_some_iff.mp written
    obtain ⟨waits, loop, some⟩ := (nextLoop_exists outside
      { radio with timeBetweenMsgs := BitVec.ofInt 8 value }).2
    obtain ⟨wait, member⟩ := List.exists_mem_of_ne_nil waits some
    exact ⟨value, parsed, (loop.waits_eq member).symm.trans (meant waits loop wait member)⟩
  · rintro ⟨value, parsed, rfl⟩
    obtain ⟨waits, loop, -⟩ := (nextLoop_exists outside
      { radio with timeBetweenMsgs := BitVec.ofInt 8 value }).2
    refine ⟨{ radio with timeBetweenMsgs := BitVec.ofInt 8 value }, by rw [parsed]; rfl, ⟨waits, loop⟩, ?_⟩
    intro waits loop wait member
    exact loop.waits_eq member

end

/-- For every number written in digits and every byte behind them in memory: the next loop
does what was written, and only that counts, exactly if the number fits the variable of
the firmware and the byte behind is not a digit. -/
theorem loop_commands_meant_iff {text : List Byte} (nonempty : text ≠ [])
    (read : readDigits digitValue text 0 = some n) (behind : Byte) (outside : Nat → Nat)
    (radio : SenderRadio) :
    (((∀ rest, NumberMeant outside radio n (text ++ behind :: rest)) ∧
        ∀ rest other, radio.loopCommandCb 33 (text ++ behind :: rest) =
          radio.loopCommandCb 33 (text ++ behind :: other)) ↔
      n < 65536 ∧ digitValue behind = none) ∧
    (((∀ rest, TimeMeant outside radio n (text ++ behind :: rest)) ∧
        ∀ rest other, radio.loopCommandCb 35 (text ++ behind :: rest) =
          radio.loopCommandCb 35 (text ++ behind :: other)) ↔
      n < 256 ∧ digitValue behind = none) := by
  have number := readsAs_iff nonempty read behind (show 2 ≤ 2 ^ 16 by decide)
  have time := readsAs_iff nonempty read behind (show 2 ≤ 2 ^ 8 by decide)
  have same (first : Byte) (stop : digitValue behind = none) (rest other : List Byte) :
      radio.loopCommandCb first (text ++ behind :: rest) =
        radio.loopCommandCb first (text ++ behind :: other) := by
    simp only [SenderRadio.loopCommandCb, atoi_number nonempty read stop]
  simp only [numberMeant_iff, timeMeant_iff, number, time]
  exact ⟨⟨fun meant => meant.1, fun fits => ⟨fits, same 33 fits.2⟩⟩,
    fun meant => meant.1, fun fits => ⟨fits, same 35 fits.2⟩⟩

theorem loop_commands_meant_sample :
    readDigits digitValue [53, 48] 0 = some 50 ∧
      (∀ rest, NumberMeant (fun _ => 0) (.initial (changeConfig (fun _ => 0) #v[0, 0, 0, 0, 0] true)) 50
        ([53, 48] ++ 0 :: rest)) ∧
      ∀ rest, TimeMeant (fun _ => 0) (.initial (changeConfig (fun _ => 0) #v[0, 0, 0, 0, 0] true)) 50
        ([53, 48] ++ 0 :: rest) := by
  obtain ⟨number, time⟩ := loop_commands_meant_iff (by decide)
    (show readDigits digitValue [53, 48] 0 = some 50 by decide) 0 (fun _ => 0)
    (.initial (changeConfig (fun _ => 0) #v[0, 0, 0, 0, 0] true))
  exact ⟨by decide, (number.mpr (by decide)).1, (time.mpr (by decide)).1⟩

/-- `!70000` does not fit sixteen bits, and `!5` with a `0` behind it in memory is read as 50. -/
theorem loop_commands_misread :
    (¬ NumberMeant (fun _ => 0) (.initial (changeConfig (fun _ => 0) #v[0, 0, 0, 0, 0] true)) 70000
      ([55, 48, 48, 48, 48] ++ [0])) ∧
    ¬ NumberMeant (fun _ => 0) (.initial (changeConfig (fun _ => 0) #v[0, 0, 0, 0, 0] true)) 5
      ([53] ++ [48, 0]) := by
  have stop : digitValue 0 = none := by decide
  constructor
  · rw [numberMeant_iff, readsAs_number (by decide)
      (show readDigits digitValue [55, 48, 48, 48, 48] 0 = some 70000 by decide) stop]
    decide
  · rw [numberMeant_iff, show ([53] ++ [48, 0] : List Byte) = [53, 48] ++ [0] from rfl,
      readsAs_number (by decide) (show readDigits digitValue [53, 48] 0 = some 50 by decide) stop]
    decide

end LoraEval.Firmware

import LoraEval.Core.Run
import LoraEval.Firmware.Modem

namespace LoraEval.Firmware

open LoraEval.Core

/-- `lora_config` with the configuration at the call, and `lora_send`. -/
inductive RadioOp where
  | configure (config : LoraModemConfig)
  | send
deriving DecidableEq, Repr

/-- `lora_config` was called with `tx` set, and not with `tx` clear since. -/
def Transmitting (log : List RadioOp) : Prop :=
  Since (fun op => ∀ config, op = .configure config → config.tx = true)
    (fun _ op => ∃ config, op = .configure config ∧ config.tx = true) log

/-- Every transmission of a log happens in transmit configuration. -/
def SendsInTransmit (log : List RadioOp) : Prop :=
  ∀ before after, log = before ++ .send :: after → Transmitting before

@[simp]
theorem transmitting_configure :
    Transmitting (log ++ [.configure config]) ↔ config.tx = true := by
  simp +contextual [Transmitting, since_append]

@[simp]
theorem transmitting_send : Transmitting (log ++ [.send]) ↔ Transmitting log := by
  simp [Transmitting, since_append]

theorem sendsInTransmit_nil : SendsInTransmit [] := by
  intro before after split
  simp at split

/-- A further operation is a configuration or needs transmit configuration. -/
theorem sendsInTransmit_append : SendsInTransmit (log ++ [op]) ↔
    SendsInTransmit log ∧ (op = .send → Transmitting log) := by
  constructor
  · intro proper
    refine ⟨fun before after split => proper before (after ++ [op]) (by simp [split]), ?_⟩
    rintro rfl
    exact proper log [] rfl
  · rintro ⟨proper, last⟩ before after split
    rcases split_append split with ⟨-, rfl, same⟩ | ⟨rest, -, earlier⟩
    · exact last same.symm
    · exact proper before rest earlier

@[simp]
theorem sendsInTransmit_configure :
    SendsInTransmit (log ++ [.configure config]) ↔ SendsInTransmit log := by
  simp [sendsInTransmit_append]

@[simp]
theorem sendsInTransmit_send :
    SendsInTransmit (log ++ [.send]) ↔ SendsInTransmit log ∧ Transmitting log := by
  simp [sendsInTransmit_append]

/-- One transmission in the configuration at hand, and a new configuration. -/
theorem SendsInTransmit.transmission (sends : SendsInTransmit log) (transmits : Transmitting log) :
    SendsInTransmit (log ++ [.send, .configure config]) := by
  have sent : SendsInTransmit (log ++ [.send]) := sendsInTransmit_send.mpr ⟨sends, transmits⟩
  simpa using sendsInTransmit_configure.mpr sent

theorem SendsInTransmit.answer (sends : SendsInTransmit log) (turned : transmit.tx = true) :
    SendsInTransmit (log ++ [.configure transmit, .send, .configure config]) := by
  have ready : SendsInTransmit (log ++ [.configure transmit]) := sendsInTransmit_configure.mpr sends
  simpa using ready.transmission (transmitting_configure.mpr turned)

end LoraEval.Firmware

import LoraEval.App.CommandScreen

namespace LoraEval.App

open LoraEval.Core LoraEval.Firmware

/-- `String.getBytes`: UTF-8, with a question mark for an unpaired surrogate. -/
def getBytes (text : JavaText) : List Byte :=
  text.flatMap fun char => (String.utf8EncodeChar char.written).map UInt8.toBitVec

/-- `sendOrPing`: the bytes written to the board; otherwise a toast is shown. -/
def sendOrPing (ready : Bool) (msg : JavaText) : Option (List Byte) :=
  if ready then if 18 < (msg.map JavaChar.size).sum then none else some (getBytes msg) else none

def shownMessages (notifications : List (List Byte)) : List (List Byte) :=
  notifications.filterMap fun bytes =>
    match onCharacteristicChanged .receiver bytes with
    | .ok (some (.message content)) => some content
    | _ => none

theorem sendOrPing_eq_some : sendOrPing ready msg = some written ↔
    ready = true ∧ (msg.map JavaChar.size).sum ≤ 18 ∧ written = getBytes msg := by
  unfold sendOrPing
  split
  · split
    · simp only [reduceCtorEq, false_iff]
      omega
    · rename_i short
      simp [*, Nat.le_of_not_lt short, eq_comm]
  · simp [*]

theorem CommandScreen.sendOrPing_writes (msg : String) (screen : CommandScreen) :
    screen.sendOrPing msg =
      if (App.sendOrPing screen.ready (javaText msg)).isSome then screen.write else screen := by
  unfold CommandScreen.sendOrPing App.sendOrPing
  split
  · split <;> rfl
  · rfl

/-- The first byte of an encoded character is none of the codes -6 to -1, and only
an ampersand starts with the byte of an ampersand. -/
theorem utf8_first (char : Char) : ∃ first rest,
    (String.utf8EncodeChar char).map UInt8.toBitVec = first :: rest ∧ first.toNat < 248 ∧
      (first = 38 → char = '&') := by
  have lead (value : Nat) (bound : value < 256) : (UInt8.ofNat value).toBitVec.toNat = value := by
    simpa using Nat.mod_eq_of_lt bound
  have other {value : Nat} (large : 192 ≤ value) (bound : value < 248) :
      (UInt8.ofNat value).toBitVec.toNat < 248 ∧ ((UInt8.ofNat value).toBitVec = 38 → char = '&') := by
    have whole := lead value (by omega)
    refine ⟨by omega, fun ampersand => ?_⟩
    rw [ampersand] at whole
    change 38 = value at whole
    omega
  unfold String.utf8EncodeChar
  dsimp only
  split
  · rename_i ascii
    have whole := lead char.val.toNat (by omega)
    refine ⟨_, [], rfl, by omega, fun ampersand => ?_⟩
    rw [ampersand] at whole
    exact Char.ext (UInt32.toNat_inj.mp whole.symm)
  · split
    · exact ⟨_, _, rfl, other (by omega) (by omega)⟩
    · split <;> exact ⟨_, _, rfl, other (by omega) (by omega)⟩

theorem getBytes_first (plain : text.head? ≠ some (.code '&')) (filler : List Byte) :
    ∃ first rest, getBytes text ++ delimiter :: filler = first :: rest ∧ first.toNat < 248 ∧ first ≠ 38 := by
  cases text with
  | nil => exact ⟨delimiter, filler, rfl, by decide, by decide⟩
  | cons char others =>
    obtain ⟨first, rest, encoded, bound, ampersand⟩ := utf8_first char.written
    refine ⟨first, rest ++ (getBytes others ++ delimiter :: filler), ?_, bound, ?_⟩
    · rw [getBytes, List.flatMap_cons, encoded, List.append_assoc, List.cons_append]
      rfl
    · intro same
      cases char with
      | code char => exact plain (by rw [List.head?_cons, show char = '&' from ampersand same])
      | unpaired unit =>
        have question : '?' = '&' := ampersand same
        exact absurd question (by decide)

/-- A message that starts like a text is shown up to its last delimiter, after the
statistics were shown elsewhere. -/
theorem shownMessages_message (small : first.toNat < 248) (rssi snr : Byte) (rest : List Byte) :
    shownMessages [[-1, rssi, snr, -1], first :: rest] = [filterContent (first :: rest)] := by
  have range : first.toInt < -6 ∨ 0 ≤ first.toInt := by
    rw [BitVec.toInt_eq_toNat_cond]
    split <;> omega
  have routed : onCharacteristicChanged .receiver (first :: rest) =
      .ok (some (.message (filterContent (first :: rest)))) := by
    rw [onCharacteristicChanged_cons, if_neg (by omega), if_neg (by omega)]
  have statistics : onCharacteristicChanged .receiver [-1, rssi, snr, -1] =
      .ok (some (.rssiSnr [-1, rssi, snr, -1])) := by
    rw [onCharacteristicChanged_cons, if_neg (by decide), if_pos (by decide)]
  simp only [shownMessages, List.filterMap_cons, List.filterMap_nil, statistics, routed]

end LoraEval.App

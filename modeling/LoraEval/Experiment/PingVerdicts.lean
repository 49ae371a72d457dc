import LoraEval.App.ExploreScreens
import LoraEval.Firmware.PingResponse

namespace LoraEval.Experiment

open LoraEval.Core LoraEval.Firmware LoraEval.App

private theorem size_pos (char : JavaChar) : 1 ≤ char.size := by
  cases char with
  | code char =>
    rw [JavaChar.size]
    split <;> decide
  | unpaired unit => exact Nat.le_refl 1

theorem getBytes_length (single : ∀ char ∈ text, (getBytes [char]).length = 1) :
    (getBytes text).length ≤ (text.map JavaChar.size).sum := by
  induction text with
  | nil => exact Nat.le_refl 0
  | cons char rest ih =>
    have first : (getBytes [char]).length = 1 := single char (by simp)
    have others := ih fun other member => single other (by simp [member])
    have split : getBytes (char :: rest) = getBytes [char] ++ getBytes rest := by simp [getBytes]
    have one := size_pos char
    rw [split, List.length_append, List.map_cons, List.sum_cons]
    omega

theorem ping_written (accepted : sendOrPing ready (.code '&' :: text) = some written)
    (single : ∀ char ∈ text, (getBytes [char]).length = 1) :
    written.head? = some 38 ∧ written.length ≤ maxDataLen := by
  obtain ⟨-, few, rfl⟩ := sendOrPing_eq_some.mp accepted
  have split : getBytes (.code '&' :: text) = 38 :: getBytes text := rfl
  have bytes := getBytes_length single
  have ampersand : (JavaChar.code '&').size = 1 := by decide
  rw [List.map_cons, List.sum_cons, ampersand] at few
  refine ⟨by rw [split, List.head?_cons], ?_⟩
  rw [split, List.length_cons]
  exact Nat.le_trans (show (getBytes text).length + 1 ≤ 18 by omega) (by decide)

/-- For every ping of the app and every response: the receiver is right and stays inside
its array exactly if the response has at most five bytes, the sender exactly if the
content is not the response followed by zero bytes. -/
theorem ping_verdicts_iff (accepted : sendOrPing ready (.code '&' :: text) = some written)
    (single : ∀ char ∈ text, (getBytes [char]).length = 1) (room : written.length < memory.length)
    (sent : SentPing) (behind response : List Byte) :
    ((receiverPingReturn behind (some response)).Right receiverRespLen receiverPing response ↔
      response.length ≤ receiverRespLen) ∧
    ∃ kept, keepPing written memory sent = some kept ∧
      ((senderPingReturn kept behind (some response)).Right maxDataLen written response ↔
        ∀ n, 0 < n → written ≠ response ++ List.replicate n 0) := by
  obtain ⟨start, short⟩ := ping_written accepted single
  constructor
  · have five := awaitPing_right_iff receiverPing behind response (by decide)
      (show _ ≤ receiverRespLen by decide) (-7)
    refine five.trans ⟨fun right => ?_, fun small => ⟨.inl small, fun n => receiverPing_unpadded response⟩⟩
    exact right.1.resolve_right (by decide)
  · obtain ⟨kept, kept_eq, size, content⟩ := keepPing_eq start short room sent
    refine ⟨kept, kept_eq, ?_⟩
    rw [senderPingReturn_eq size content, awaitPing_right_iff written behind response short short]
    simp

/-- The ping "&hi" of the sender is answered by the ping of the receiver. -/
theorem ping_verdicts_sample :
    sendOrPing true (.code '&' :: javaText "hi") = some [38, 104, 105] ∧
      (receiverPingReturn [] (some receiverPing)).Right receiverRespLen receiverPing receiverPing ∧
      ∃ kept, keepPing [38, 104, 105] (List.replicate 20 0) ⟨Vector.replicate 20 0, 0⟩ = some kept ∧
        (senderPingReturn kept [] (some receiverPing)).Right maxDataLen [38, 104, 105] receiverPing := by
  have accepted : sendOrPing true (.code '&' :: javaText "hi") = some [38, 104, 105] := by decide
  obtain ⟨receiver, kept, found, sender⟩ := ping_verdicts_iff accepted (by decide)
    (show _ < (List.replicate 20 (0 : Byte)).length by decide) ⟨Vector.replicate 20 0, 0⟩ [] receiverPing
  refine ⟨accepted, receiver.mpr (by decide), kept, found, sender.mpr ?_⟩
  intro n positive same
  exact absurd (congrArg List.head? same) (by simp [receiverPing])

/-- A 20-byte acknowledgement that arrives during the ping of the receiver is written
behind its array of five bytes. A ping of the sender with a zero byte is confirmed by
a response without it. -/
theorem ping_response_overflows :
    19 ∈ (receiverPingReturn []
      (some ([50, 4, 30, 1, 1, 1, 1, 1, 1, 49, 48] ++ List.replicate 9 0))).written ∧
      ¬ (receiverPingReturn [] (some ([50, 4, 30, 1, 1, 1, 1, 1, 1, 49, 48] ++ List.replicate 9 0))).Right
        receiverRespLen receiverPing ([50, 4, 30, 1, 1, 1, 1, 1, 1, 49, 48] ++ List.replicate 9 0) ∧
      sendOrPing true [.code '&', .code '\x00'] = some [38, 0] ∧
      ∃ kept, keepPing [38, 0] (List.replicate 20 0) ⟨Vector.replicate 20 0, 0⟩ = some kept ∧
        (senderPingReturn kept [] (some [38])).notified = -3 ∧ ¬ [38, 0] <+: [(38 : Byte)] := by
  refine ⟨by decide, ?_, by decide, ⟨_, rfl, by decide, by decide⟩⟩
  intro right
  exact absurd (right.inside 19 (by decide)) (by decide)

end LoraEval.Experiment

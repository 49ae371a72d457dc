import Mathlib.Data.Int.Bitwise
import Mathlib.Data.List.Basic

namespace LoraEval.Core

abbrev Byte := BitVec 8

/-- `((x >> i) & 1) == 1` on the unsigned value. -/
def unsignedBit (word : BitVec w) (index : Nat) : Bool :=
  word.toNat >>> index &&& 1 == 1

/-- `((x >> i) & 1) == 1` after promotion of a signed word to 32 bits. -/
def promotedBit (word : BitVec w) (index : Nat) : Bool :=
  (word.signExtend 32).sshiftRight index &&& 1#32 == 1#32

/-- `((n >> i) & 1) == 1` on an unbounded integer, with an arithmetic shift. -/
def integerBit (number : Int) (index : Nat) : Bool :=
  Int.land (number >>> index) 1 == 1

theorem unsignedBit_eq (word : BitVec w) (index : Nat) :
    unsignedBit word index = word.getLsbD index := by
  rw [unsignedBit, ← BitVec.testBit_toNat, Nat.testBit, Nat.and_comm]
  rcases Nat.mod_two_eq_zero_or_one (word.toNat >>> index) with even | odd
  · simp [Nat.one_and_eq_mod_two, even]
  · simp [Nat.one_and_eq_mod_two, odd]

private theorem and_one_beq (word : BitVec 32) : (word &&& 1#32 == 1#32) = word.getLsbD 0 := by
  have masked : word &&& 1#32 = if word.getLsbD 0 then 1#32 else 0#32 := by
    ext index bound
    cases index with
    | zero => cases low : word.getLsbD 0 <;> simpa using low
    | succ index => split <;> simp
  rw [masked]
  cases word.getLsbD 0 <;> rfl

theorem promotedBit_eq {word : BitVec w} (narrow : w ≤ 32) (inside : index < w) :
    promotedBit word index = word.getLsbD index := by
  have wide : index < 32 := Nat.lt_of_lt_of_le inside narrow
  rw [promotedBit, and_one_beq, BitVec.getLsbD_sshiftRight]
  have same : (word.signExtend 32).getLsbD index = word.getLsbD index := by
    rw [BitVec.getLsbD_signExtend]
    simp [wide, inside]
  simpa [wide] using same

private theorem ldiff_one (number : Nat) : Nat.ldiff 1 number = 1 - number % 2 := by
  apply Nat.eq_of_testBit_eq
  intro index
  rw [Nat.testBit_ldiff]
  rcases Nat.mod_two_eq_zero_or_one number with even | odd
  · cases index with
    | zero => simp [even]
    | succ index => simp [even, Nat.testBit_one_eq_true_iff_self_eq_zero]
  · cases index with
    | zero => simp [odd]
    | succ index => simp [odd, Nat.testBit_one_eq_true_iff_self_eq_zero]

private theorem land_one (number : Int) : Int.land number 1 = number % 2 := by
  cases number with
  | ofNat number => simp [Int.land]
  | negSucc number =>
    have low : Int.land (Int.negSucc number) 1 = (Nat.ldiff 1 number : Nat) := rfl
    rw [low, ldiff_one]
    omega

private theorem toInt_mod_two (word : BitVec w) (positive : 0 < w) :
    word.toInt % 2 = (word.toNat : Int) % 2 := by
  have even : (2 : Int) ∣ ((2 ^ w : Nat) : Int) := by
    exact_mod_cast dvd_pow_self 2 (by omega)
  rw [BitVec.toInt_eq_toNat_bmod, ← Int.emod_emod_of_dvd _ even, Int.bmod_emod,
    Int.emod_emod_of_dvd _ even]

theorem integerBit_eq {word : BitVec w} (inside : index < w) :
    integerBit word.toInt index = word.getLsbD index := by
  have shifted : word.toInt >>> index = (word.sshiftRight index).toInt :=
    BitVec.toInt_sshiftRight.symm
  have low := BitVec.getLsbD_sshiftRight word index 0
  rw [integerBit, land_one, shifted, toInt_mod_two _ (by omega)]
  have read : word.getLsbD index = (word.sshiftRight index).getLsbD 0 := by
    rw [low]
    simp [inside, show ¬ w = 0 by omega]
  rw [read, ← BitVec.testBit_toNat, Nat.testBit_zero]
  exact decide_eq_decide.mpr (by omega)

def bitDistance (first second : BitVec w) : Nat :=
  (List.range w).countP fun index => first.getLsbD index != second.getLsbD index

/-- The number of bit positions in which two lists of words differ. -/
def hammingDistance (first second : List (BitVec w)) : Nat :=
  (List.zipWith bitDistance first second).sum

@[simp] theorem bitDistance_self (word : BitVec w) : bitDistance word word = 0 := by
  simp [bitDistance]

theorem hammingDistance_concat (same : first.length = second.length) (left right : BitVec w) :
    hammingDistance (first ++ [left]) (second ++ [right]) =
      hammingDistance first second + bitDistance left right := by
  rw [hammingDistance, hammingDistance, List.zipWith_append same]
  simp

end LoraEval.Core

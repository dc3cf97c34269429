import Mathlib.Algebra.Order.Ring.Int
import Mathlib.Order.Bounds.Defs
import ServerCursor.Request

/-!
# How the number of documents is computed

The number of documents to ask for is computed in integers of 64 bits and put into 32 bits in the
end. A limit counts without its sign, whoever takes the sign off (`checkedNumber`, or
`computedNumber` for the limit of a cursor). The steps are checked: a step that overflows gives no
number.

The sign of a number is that of the batch size, and only where the number is the batch size. It is
zero only if nothing is allowed any more, and its size never grows as more documents arrive.

Main statement: `numberToReturn_least` says that no step overflows and that the number is as great
as its bounds allow, which are what the limit still allows, the batch size, and 32 bits.
-/

namespace ServerCursor

/-- A whole number that has so many bits, or none. -/
def within (bits : Nat) (n : Int) : Option Int :=
  if -((2 ^ (bits - 1) : Nat) : Int) ≤ n ∧ n < ((2 ^ (bits - 1) : Nat) : Int) then some n else none

/-- The greatest 32-bit integer. -/
def greatestInt32 : Int := 2 ^ 31 - 1

/-- The number of documents to ask for, computed step by step in 64 bits and put into 32 bits in the
end. There is none if a step overflows. -/
def computedNumber (limit batchSize : Int32) (received : Int) : Option Int := do
  let effective ← within 64 limit.toInt.natAbs
  let most ← within 64 effective.natAbs
  if most = 0 then return batchSize.toInt
  let difference ← within 64 (most - received)
  let cap ← within 64 batchSize.toInt.natAbs
  if batchSize ≠ 0 ∧ cap < max difference 0 then return batchSize.toInt
  return (within 32 (max difference 0)).getD greatestInt32

/-- The same for a limit of 64 bits, which still has its sign. -/
def checkedNumber (limit : Int) (batchSize : Int32) (received : Int) : Option Int := do
  let most ← within 64 limit.natAbs
  if most = 0 then return batchSize.toInt
  let difference ← within 64 (most - received)
  let cap ← within 64 batchSize.toInt.natAbs
  if batchSize ≠ 0 ∧ cap < max difference 0 then return batchSize.toInt
  return (within 32 (max difference 0)).getD greatestInt32

/-- The size of a number of documents, put into 32 bits. -/
def computedSize (number : Int32) : Int :=
  (within 32 number.toInt.natAbs).getD greatestInt32

theorem greatestInt32_eq : greatestInt32 = 2147483647 := by decide

theorem within_64 {n : Int} (hleast : -2 ^ 63 ≤ n) (hgreatest : n < 2 ^ 63) :
    within 64 n = some n := by
  refine if_pos ⟨?_, ?_⟩
  · omega
  · omega

theorem within_of_lt {bits n : Nat} (h : n < 2 ^ (bits - 1)) : within bits n = some (n : Int) := by
  refine if_pos ⟨?_, Int.ofNat_lt.mpr h⟩
  omega

theorem within_of_le {n : Nat} (h : n ≤ 2 ^ 31) : within 64 n = some (n : Int) :=
  within_of_lt (h.trans_lt (Nat.pow_lt_pow_right (by decide) (by decide)))

theorem natAbs_toInt_le (n : Int32) : n.toInt.natAbs ≤ 2 ^ 31 := by
  have hle := n.le_toInt
  have hlt := n.toInt_lt
  omega

theorem natAbs_toInt_eq_zero {n : Int32} : n.toInt.natAbs = 0 ↔ n = 0 := by
  rw [Int.natAbs_eq_zero, ← Int32.toInt_zero, Int32.toInt_inj]

theorem toInt_clampInt32 {n : Int} (h : 0 ≤ n) : (clampInt32 n).toInt = min n greatestInt32 := by
  have hgreatest : (Int.pow 2 31 - 1 : Int) = greatestInt32 := by decide
  have hsize := greatestInt32_eq
  rw [clampInt32, hgreatest, Int32.toInt_ofInt_of_le]
  · omega
  · omega

theorem getD_within (n : Nat) :
    (within 32 n).getD greatestInt32 = min (n : Int) greatestInt32 := by
  have hsize := greatestInt32_eq
  by_cases hlt : n < 2 ^ 31
  · rw [within_of_lt hlt, Option.getD_some, min_eq_left]
    omega
  · have hnone : within 32 n = none := if_neg fun hin => hlt (Int.ofNat_lt.mp hin.2)
    rw [hnone, Option.getD_none, min_eq_right]
    omega

theorem toInt_sizeInt32 (number : Int32) : (sizeInt32 number).toInt = computedSize number :=
  (toInt_clampInt32 (Int.natCast_nonneg _)).trans (getD_within _).symm

/-- Under a limit the number is the batch size if the limit allows more, and else what it allows. -/
theorem toInt_numberToReturn {limit : Nat} (h : limit ≠ 0) (batchSize : Int32) (received : Int) :
    (numberToReturn limit batchSize received).toInt =
      if batchSize ≠ 0 ∧ (batchSize.toInt.natAbs : Int) < allowance limit received then
        batchSize.toInt
      else min (allowance limit received) greatestInt32 := by
  have hallowance : 0 ≤ allowance limit received := le_max_right _ _
  rw [numberToReturn, if_neg h, apply_ite Int32.toInt, toInt_clampInt32 hallowance]

/-- The number of documents is computed, also past the limit. -/
theorem checkedNumber_eq {limit received : Int} (batchSize : Int32) (hlimit : limit.natAbs ≤ 2 ^ 31)
    (hreceived : limit ≠ 0 → 0 ≤ received ∧ received < 2 ^ 63) :
    checkedNumber limit batchSize received =
      some (numberToReturn limit.natAbs batchSize received).toInt := by
  -- The steps are opened by `rw`: a check by unfolding would compare great powers digit by digit.
  unfold checkedNumber
  rw [Option.bind_eq_bind, within_of_le hlimit, Option.bind_some]
  by_cases hnone : limit = 0
  · rw [hnone, Int.natAbs_zero, Int.natCast_zero, if_pos rfl, numberToReturn, if_pos rfl]
    rfl
  obtain ⟨hleast, hgreatest⟩ := hreceived hnone
  have hdifference : within 64 (limit.natAbs - received) = some (limit.natAbs - received) :=
    within_64 (by omega) (by omega)
  obtain ⟨rest, hrest⟩ := Int.eq_ofNat_of_zero_le (le_max_right ((limit.natAbs : Int) - received) 0)
  have habs : limit.natAbs ≠ 0 := Int.natAbs_ne_zero.mpr hnone
  rw [if_neg (mt Int.natCast_eq_zero.mp habs), hdifference, Option.bind_some,
    within_of_le (natAbs_toInt_le batchSize), Option.bind_some, toInt_numberToReturn habs,
    allowance, hrest, getD_within, apply_ite some]
  rfl

/-- The number of documents is computed, as long as no more have arrived than the limit allows. -/
theorem computedNumber_eq (limit batchSize : Int32) {received : Nat}
    (h : limit ≠ 0 → received ≤ limit.toInt.natAbs) :
    computedNumber limit batchSize received =
      some (numberToReturn limit.toInt.natAbs batchSize received).toInt := by
  have hlimit := natAbs_toInt_le limit
  have hsigned : computedNumber limit batchSize received =
      (within 64 limit.toInt.natAbs).bind fun effective =>
        checkedNumber effective batchSize received := rfl
  have heffective : Int.natAbs (limit.toInt.natAbs : Int) = limit.toInt.natAbs :=
    Int.natAbs_natCast _
  rw [hsigned, within_of_le hlimit, Option.bind_some, checkedNumber_eq, heffective]
  · rwa [heffective]
  · intro hne
    have hreceived := h fun h0 => hne (Int.natCast_eq_zero.mpr (natAbs_toInt_eq_zero.mpr h0))
    omega

/-- The least integer has a size that does not fit, as a limit and as a batch size. -/
example : computedNumber Int32.minValue Int32.minValue 0 = some greatestInt32 := by decide

theorem size_numberToReturn {limit received : Nat} (batchSize : Int32) (hroom : received < limit) :
    let size := (numberToReturn limit batchSize received).toInt.natAbs
    1 ≤ size ∧ size ≤ limit - received ∧ (batchSize ≠ 0 → size ≤ batchSize.toInt.natAbs) := by
  have hallowance : allowance limit received = (limit - received : Nat) := by
    rw [allowance, Int.ofNat_sub hroom.le]
    exact max_eq_left (by omega)
  have hgreatest := greatestInt32_eq
  rw [toInt_numberToReturn (Nat.ne_zero_of_lt hroom), hallowance]
  split
  · rename_i hcap
    have hne : batchSize.toInt.natAbs ≠ 0 := mt natAbs_toInt_eq_zero.mp hcap.1
    exact ⟨Nat.pos_of_ne_zero hne, Int.ofNat_le.mp hcap.2.le, fun _ => le_rfl⟩
  · rename_i hcap
    refine ⟨by omega, by omega, fun hne => ?_⟩
    have hle : ((limit - received : Nat) : Int) ≤ batchSize.toInt.natAbs :=
      not_lt.mp fun hlt => hcap ⟨hne, hlt⟩
    omega

theorem size_sizeInt32 (number : Int32) :
    (sizeInt32 number).toInt ≤ number.toInt.natAbs ∧
      (1 ≤ number.toInt.natAbs → 1 ≤ (sizeInt32 number).toInt) := by
  have hgreatest := greatestInt32_eq
  rw [sizeInt32, toInt_clampInt32 (Int.natCast_nonneg _)]
  omega

/-- Under a limit the size of the number is the least of its bounds. A batch size that does not fit
into 32 bits without its sign is no less than what such a limit allows. -/
theorem abs_numberToReturn {limit : Nat} (h : limit ≠ 0) (hlimit : limit ≤ 2 ^ 31)
    (batchSize : Int32) {received : Int} (hreceived : 0 ≤ received) :
    |(numberToReturn limit batchSize received).toInt| =
      if batchSize = 0 then min (allowance limit received) greatestInt32
      else min (min (allowance limit received) |batchSize.toInt|) greatestInt32 := by
  have hgreatest := greatestInt32_eq
  have hallowance : 0 ≤ allowance limit received ∧ allowance limit received ≤ limit := by
    unfold allowance
    omega
  have hsize : |batchSize.toInt| = batchSize.toInt.natAbs := Int.abs_eq_natAbs _
  rw [toInt_numberToReturn h, hsize]
  by_cases hzero : batchSize = 0
  · rw [if_pos hzero, if_neg fun hcap => hcap.1 hzero, abs_of_nonneg]
    omega
  rw [if_neg hzero]
  by_cases hcap : (batchSize.toInt.natAbs : Int) < allowance limit received
  · rw [if_pos ⟨hzero, hcap⟩, hsize]
    omega
  · rw [if_neg fun hboth => hcap hboth.2, abs_of_nonneg]
    · omega
    · omega

theorem abs_toInt_pos {n : Int32} (h : n ≠ 0) : 0 < |n.toInt| :=
  abs_pos.mpr fun h0 => h (Int32.toInt_inj.mp (h0.trans Int32.toInt_zero.symm))

section Limited

variable {limit : Nat} (hlimit : limit ≠ 0) (batchSize : Int32) {received : Int}

include hlimit

theorem numberToReturn_neg_iff :
    (numberToReturn limit batchSize received).toInt < 0 ↔
      batchSize.toInt < 0 ∧ |batchSize.toInt| < allowance limit received := by
  have hgreatest := greatestInt32_eq
  have hallowance : 0 ≤ allowance limit received := le_max_right _ _
  rw [toInt_numberToReturn hlimit, Int.abs_eq_natAbs]
  split
  · rename_i hcap
    exact (and_iff_left hcap.2).symm
  · rename_i hcap
    constructor
    · intro hneg
      omega
    · rintro ⟨hneg, hless⟩
      refine absurd ⟨fun hzero => ?_, hless⟩ hcap
      rw [hzero] at hneg
      exact absurd hneg (by decide)

variable (hmost : limit ≤ 2 ^ 31) (hreceived : 0 ≤ received)

include hmost hreceived

theorem abs_numberToReturn_le {later : Int} (hlater : received ≤ later) :
    |(numberToReturn limit batchSize later).toInt| ≤
      |(numberToReturn limit batchSize received).toInt| := by
  have hallowance : allowance limit later ≤ allowance limit received := by
    unfold allowance
    omega
  rw [abs_numberToReturn hlimit hmost batchSize hreceived,
    abs_numberToReturn hlimit hmost batchSize (hreceived.trans hlater)]
  split
  · exact min_le_min_right _ hallowance
  · exact min_le_min_right _ (min_le_min_right _ hallowance)

theorem isLeast_numberToReturn :
    IsLeast {n | n = allowance limit received ∨ batchSize ≠ 0 ∧ n = |batchSize.toInt| ∨
      n = greatestInt32} |(numberToReturn limit batchSize received).toInt| := by
  rw [abs_numberToReturn hlimit hmost batchSize hreceived]
  split
  · rename_i hzero
    constructor
    · exact (min_choice _ _).imp_right .inr
    · rintro n (rfl | ⟨hne, -⟩ | rfl)
      · exact min_le_left _ _
      · exact absurd hzero hne
      · exact min_le_right _ _
  · rename_i hne
    constructor
    · rcases min_choice (min (allowance limit received) |batchSize.toInt|) greatestInt32 with h | h
      · exact (min_choice _ _).imp h.trans fun hcap => .inl ⟨hne, h.trans hcap⟩
      · exact .inr (.inr h)
    · rintro n (rfl | ⟨-, rfl⟩ | rfl)
      · exact (min_le_left _ _).trans (min_le_left _ _)
      · exact (min_le_left _ _).trans (min_le_right _ _)
      · exact min_le_right _ _

theorem numberToReturn_eq_zero_iff :
    (numberToReturn limit batchSize received).toInt = 0 ↔ allowance limit received = 0 := by
  have hgreatest := greatestInt32_eq
  have hallowance : 0 ≤ allowance limit received := le_max_right _ _
  rw [← abs_eq_zero, abs_numberToReturn hlimit hmost batchSize hreceived]
  split
  · omega
  · rename_i hne
    have hsize := abs_toInt_pos hne
    omega

theorem toInt_numberToReturn_of_fits (hfits : allowance limit received ≤ greatestInt32)
    (hcap : batchSize ≠ 0 → allowance limit received ≤ |batchSize.toInt|) :
    (numberToReturn limit batchSize received).toInt = allowance limit received := by
  have hallowance : 0 ≤ allowance limit received := le_max_right _ _
  have hpositive : 0 ≤ (numberToReturn limit batchSize received).toInt := by
    by_contra hneg
    obtain ⟨hbelow, hless⟩ := (numberToReturn_neg_iff hlimit batchSize).mp (not_le.mp hneg)
    refine absurd hless (not_lt.mpr (hcap fun hzero => ?_))
    rw [hzero] at hbelow
    exact absurd hbelow (by decide)
  rw [← abs_of_nonneg hpositive, abs_numberToReturn hlimit hmost batchSize hreceived]
  split
  · exact min_eq_left hfits
  · rename_i hne
    rw [min_eq_left (hcap hne), min_eq_left hfits]

end Limited

/-- No step of the computation overflows, and the sign of the limit does not count. Without a limit
the number is the batch size; under one its size is the least of its three bounds. -/
theorem numberToReturn_least {limit received : Int} (batchSize : Int32) (hlimit : |limit| ≤ 2 ^ 31)
    (hreceived : 0 ≤ received ∧ received < 2 ^ 63) :
    let number := (numberToReturn limit.natAbs batchSize received).toInt
    let rest := max (|limit| - received) 0
    let cap := |batchSize.toInt|
    checkedNumber limit batchSize received = some number ∧
    checkedNumber (-limit) batchSize received = some number ∧
    (limit = 0 → number = batchSize.toInt) ∧
    (limit ≠ 0 →
      IsLeast {n | n = rest ∨ batchSize ≠ 0 ∧ n = cap ∨ n = greatestInt32} |number| ∧
      (number < 0 ↔ batchSize.toInt < 0 ∧ cap < rest) ∧
      (number = 0 ↔ rest = 0) ∧
      (rest ≤ greatestInt32 →
        within 32 rest = some rest ∧ ((batchSize ≠ 0 → rest ≤ cap) → number = rest)) ∧
      ∀ later, received ≤ later →
        |(numberToReturn limit.natAbs batchSize later).toInt| ≤ |number|) := by
  intro number rest cap
  have hsize : |limit| = limit.natAbs := Int.abs_eq_natAbs limit
  have hmost : limit.natAbs ≤ 2 ^ 31 := by omega
  have hsign : (-limit).natAbs = limit.natAbs := Int.natAbs_neg limit
  refine ⟨checkedNumber_eq batchSize hmost fun _ => hreceived, ?_, fun hnone => ?_,
    fun hlimited => ?_⟩
  · rw [checkedNumber_eq batchSize (hsign ▸ hmost) fun _ => hreceived, hsign]
  · exact congrArg Int32.toInt (if_pos (Int.natAbs_eq_zero.mpr hnone))
  have hne : limit.natAbs ≠ 0 := Int.natAbs_ne_zero.mpr hlimited
  have hrest : allowance limit.natAbs received = rest := by rw [allowance, ← hsize]
  have hfits : rest ≤ greatestInt32 → within 32 rest = some rest := by
    intro h
    obtain ⟨n, hn⟩ := Int.eq_ofNat_of_zero_le (le_max_right (|limit| - received) 0)
    have hgreatest := greatestInt32_eq
    change within 32 (max (|limit| - received) 0) = some (max (|limit| - received) 0)
    rw [hn]
    exact within_of_lt (by omega)
  have hleast := isLeast_numberToReturn hne batchSize hmost hreceived.1
  have hneg : number < 0 ↔ batchSize.toInt < 0 ∧ cap < allowance limit.natAbs received :=
    numberToReturn_neg_iff hne batchSize
  have hzero := numberToReturn_eq_zero_iff hne batchSize hmost hreceived.1
  have hexact := toInt_numberToReturn_of_fits hne batchSize hmost hreceived.1
  rw [hrest] at hleast hneg hzero hexact
  exact ⟨hleast, hneg, hzero, fun h => ⟨hfits h, hexact h⟩,
    fun later => abs_numberToReturn_le hne batchSize hmost hreceived.1⟩

/-- The greatest limit and the least batch size have no room in 32 bits, and neither does what is
allowed. -/
theorem numberToReturn_least_greatest :
    |(2 ^ 31 : Int)| ≤ 2 ^ 31 ∧ (0 : Int) ≤ 0 ∧ (0 : Int) < 2 ^ 63 ∧
    checkedNumber (-2 ^ 31) Int32.minValue 0 = some greatestInt32 ∧
    (numberToReturn (2 ^ 31) Int32.minValue 0).toInt = greatestInt32 := by
  have hlimit : |(2 ^ 31 : Int)| ≤ 2 ^ 31 := by decide
  have hnumber : (numberToReturn (2 ^ 31) Int32.minValue 0).toInt = greatestInt32 := by decide
  obtain ⟨-, hsigned, -⟩ := numberToReturn_least Int32.minValue hlimit ⟨le_rfl, by decide⟩
  exact ⟨hlimit, le_rfl, by decide, hsigned.trans (congrArg some hnumber), hnumber⟩

end ServerCursor

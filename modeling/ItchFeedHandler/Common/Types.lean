import ItchFeedHandler.Common.Endian

/-!
# Primitive semantic types

`common/types.hpp`: prices, quantities, sides, the kind tag of a normalized record, and the
`NormalizedMessage` that the producer hands to the ring.

`Price` is an `int64_t`; the only prices the handler builds are 32-bit wire prices times `100`,
which stay below `2 ^ 39`, so it is modelled by `Int` (`convertPrice_lt` in the parser says the
product never leaves the signed 64-bit range). The other fixed-width types keep their width.
-/

namespace ItchFeedHandler

/-- `Price`: fixed point with six implied decimal places. -/
abbrev Price := Int

/-- `Quantity`: a share count. -/
abbrev Quantity := UInt32

/-- `OrderRef`: an opaque order reference. -/
abbrev OrderRef := UInt64

/-- `Timestamp`: nanoseconds since midnight. -/
abbrev Timestamp := UInt64

/-- `SequenceNumber` of the session layer. -/
abbrev SequenceNumber := UInt64

/-- `enum class Side : char`. -/
inductive Side
  | buy
  | sell
  deriving DecidableEq, Repr

/-- The `char` of each `Side` enumerator. -/
def Side.toChar : Side → Char
  | .buy => 'B'
  | .sell => 'S'

/-- `enum class MessageType : uint8_t`, the kind tag of a normalized record. -/
inductive MessageType
  | unknown
  | addOrder
  | addOrderMPID
  | orderExecuted
  | orderExecutedWithPrice
  | orderCancel
  | orderDelete
  | orderReplace
  | trade
  | crossTrade
  | brokenTrade
  | systemEvent
  | stockDirectory
  | stockTradingAction
  | regSHO
  | marketParticipantPosition
  | mwcb
  | ipoQuotingPeriod
  | luld
  | operationalHalt
  deriving DecidableEq, Repr

/-- `NormalizedMessage`; the field defaults are those of its default constructor, so a record
built with `{ type := .., .. }` has every unset field as `NormalizedMessage norm;` leaves it:
zero, except the side, which is `Side::Buy`. -/
structure NormalizedMessage where
  type : MessageType := .unknown
  timestamp : Timestamp := 0
  orderRef : OrderRef := 0
  stock : List UInt8 := List.replicate 8 0
  side : Side := .buy
  price : Price := 0
  quantity : Quantity := 0
  executedQuantity : Quantity := 0
  newOrderRef : OrderRef := 0
  deriving DecidableEq, Repr

instance : Inhabited NormalizedMessage := ⟨{}⟩

/-! ### `uint64_t` arithmetic on the naturals

Sequence numbers and counters are `uint64_t`; these lemmas move their comparisons and wrapping
sums to `Nat`, where `omega` decides them. -/

theorem u64_lt {a b : UInt64} : a < b ↔ a.toNat < b.toNat := by
  simp [UInt64.lt_def, UInt64.toNat, BitVec.lt_def]

theorem u64_le {a b : UInt64} : a ≤ b ↔ a.toNat ≤ b.toNat := by
  simp [UInt64.le_def, UInt64.toNat, BitVec.le_def]

theorem u64_ext {a b : UInt64} : a = b ↔ a.toNat = b.toNat := ⟨fun h => h ▸ rfl, UInt64.toNat.inj⟩

theorem toNat_lt_u64 (a : UInt64) : a.toNat < 2 ^ 64 := a.toNat_lt_size

@[simp] theorem toNat_add_u64 (a b : UInt64) : (a + b).toNat = (a.toNat + b.toNat) % 2 ^ 64 := by
  simp [UInt64.toNat, UInt64.add_def, BitVec.toNat_add]

@[simp] theorem toNat_sub_u64 (a b : UInt64) :
    (a - b).toNat = (a.toNat + (2 ^ 64 - b.toNat)) % 2 ^ 64 := by
  simp only [UInt64.toNat, UInt64.sub_def, BitVec.toNat_sub]
  omega

@[simp] theorem toNat_zero_u64 : (0 : UInt64).toNat = 0 := rfl

@[simp] theorem toNat_one_u64 : (1 : UInt64).toNat = 1 := rfl

@[simp] theorem toNat_toUInt64 (a : UInt16) : a.toUInt64.toNat = a.toNat := by
  simp [UInt16.toUInt64, UInt64.toNat, UInt16.toNat]

@[simp] theorem toNat_ofNat_u64 (n : Nat) : (UInt64.ofNat n).toNat = n % 2 ^ 64 := by
  simp [UInt64.ofNat, UInt64.toNat, BitVec.toNat_ofNat]

theorem ofNat_add_one (i : Nat) : UInt64.ofNat i + 1 = UInt64.ofNat (i + 1) := by
  rw [u64_ext]; simp only [toNat_add_u64, toNat_one_u64, toNat_ofNat_u64]; omega

theorem ofNat_add_u64 (a b : Nat) : UInt64.ofNat (a + b) = UInt64.ofNat a + UInt64.ofNat b := by
  rw [u64_ext]; simp only [toNat_add_u64, toNat_ofNat_u64]; omega

theorem add_assoc_u64 (a b c : UInt64) : a + b + c = a + (b + c) := by
  rw [u64_ext]; simp only [toNat_add_u64]; omega

theorem zero_add_u64 (a : UInt64) : 0 + a = a := by
  have := toNat_lt_u64 a
  rw [u64_ext]; simp only [toNat_add_u64, toNat_zero_u64]; omega

theorem add_ofNat_zero (a : UInt64) : a + UInt64.ofNat 0 = a := by
  have := toNat_lt_u64 a
  rw [u64_ext]; simp only [toNat_add_u64, toNat_ofNat_u64]; omega

end ItchFeedHandler

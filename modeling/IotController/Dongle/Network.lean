/-
  What the dongle reports and is told about the network
  (`pkg/zigbee-dongle/types/types.go`).
-/
import IotController.Foundation.Bytes

namespace IotController.Dongle

open Foundation

/-- The state that a dongle reports. -/
inductive NetworkState where
  | unknown
  | up
  | down
  | notJoined
  deriving DecidableEq, Repr

/-- The fields that tell one network from another and its state. -/
structure NetworkInfo where
  panID : UInt16 := 0
  extendedPanID : UInt64 := 0
  channel : UInt16 := 0
  state : NetworkState
  deriving DecidableEq

abbrev NetworkKey : Type := Vector Byte 16

/-- What identifies a network, and its key. -/
structure NetworkParameters where
  panID : UInt16
  extendedPanID : UInt64
  channel : Byte
  networkKey : NetworkKey
  deriving DecidableEq

def zeroKey : NetworkKey := Vector.replicate 16 0

def isZeroNetworkKey (key : NetworkKey) : Bool := key.toList.all (· == 0)

theorem isZeroNetworkKey_iff (key : NetworkKey) : isZeroNetworkKey key = true ↔ key = zeroKey := by
  constructor
  · intro h
    apply Vector.ext
    intro i hi
    have hmem : key[i] ∈ key.toList := by simp
    have hzero := List.all_eq_true.mp h _ hmem
    simpa [zeroKey] using hzero
  · rintro rfl
    decide

/-- Does the dongle's network have these parameters?  The dongle does not tell its key. -/
def NetworkInfo.SameNetwork (info : NetworkInfo) (p : NetworkParameters) : Prop :=
  p.panID = info.panID ∧ p.extendedPanID = info.extendedPanID ∧ p.channel = info.channel.toUInt8

instance (info : NetworkInfo) (p : NetworkParameters) : Decidable (info.SameNetwork p) :=
  inferInstanceAs (Decidable (_ ∧ _ ∧ _))

end IotController.Dongle

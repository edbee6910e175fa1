import SplitTest.Device.Digest
import SplitTest.Text.Numeral

/-!
# Device fingerprints

A device is known by the digest of its address followed by its user agent.  The
first four bytes of the digest give its base bucket, and an experiment's offset
turns the base bucket around the circle of a hundred buckets.
-/

namespace SplitTest.Device

open SplitTest.Text

/-- The fingerprint of a device. -/
structure Fingerprint where
  /-- The bytes of the digest. -/
  bytes : Vector UInt8 16
deriving DecidableEq, Repr

namespace Fingerprint

/-- The fingerprint of a client address and user agent. -/
def compute (address userAgent : String) : Fingerprint :=
  ⟨digest (address.toUTF8.toList ++ userAgent.toUTF8.toList)⟩

/-- The bytes in hexadecimal. -/
def hex (f : Fingerprint) : String :=
  .ofList (f.bytes.toList.flatMap fun b => zeroPadded 2 (hexadecimal b.toNat))

/-- The first four bytes as a big-endian number. -/
def head (f : Fingerprint) : Nat :=
  (f.bytes.toList.take 4).foldl (fun acc b => acc * 256 + b.toNat) 0

/-- The bucket before any offset. -/
def baseBucket (f : Fingerprint) : Nat := f.head % 100

/-- The bucket under an offset. -/
def bucket (f : Fingerprint) (offset : Nat) : Nat := (f.baseBucket + offset) % 100

end Fingerprint

end SplitTest.Device

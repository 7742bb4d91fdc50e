import Mathlib.Tactic.Common

/-!
# Keyed hashes

The keyed hash of a message under any hash function on bytes: a key that is longer than a block of
the hash is hashed, a shorter one is padded with zeros, and the hash is taken twice, each time
behind another mask of the key.
-/

namespace BtDaemon.Mac

variable (hash : List UInt8 → List UInt8) (blockSize : ℕ)

def padded (key : List UInt8) : List UInt8 :=
  let key := if key.length > blockSize then hash key else key
  key ++ List.replicate (blockSize - key.length) 0

def hmac (key message : List UInt8) : List UInt8 :=
  hash ((padded hash blockSize key).map (0x5c ^^^ ·) ++
    hash ((padded hash blockSize key).map (0x36 ^^^ ·) ++ message))

/-- The first bytes of the keyed hash are the mark of the message. -/
def mark (length : ℕ) (key message : List UInt8) : List UInt8 :=
  (hmac hash blockSize key message).take length

end BtDaemon.Mac

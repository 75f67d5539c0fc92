import Gatehouse.Hash.Sha256

/-!
# HMAC

A tag of 32 octets for a message under a key: two nested digests, each of which begins
with the key, blended with one octet for the inner and another for the outer one.
-/

namespace Gatehouse.Hmac

/-- The octets in a block of the hash. -/
def blockSize : Nat := 64

/-- A key as one block: a long key is hashed first, and zeros fill up the rest. -/
def blockKey (key : List UInt8) : List UInt8 :=
  let short := if key.length ≤ blockSize then key else (Sha256.digest key).octets
  short ++ List.replicate (blockSize - short.length) 0

/-- The digest of a message behind the key's block blended with an octet. -/
def keyed (key : List UInt8) (blend : UInt8) (message : List UInt8) : Sha256.Digest :=
  Sha256.digest ((blockKey key).map (· ^^^ blend) ++ message)

/-- The tag of a message under a key. -/
def tag (key message : List UInt8) : Sha256.Digest :=
  keyed key 0x5C (keyed key 0x36 message).octets

end Gatehouse.Hmac

import BtDaemon.FastPair.Messages
import BtDaemon.Foundation.Mac
import BtDaemon.Storage.AccountKeys
import Mathlib.Logic.Equiv.Basic

/-!
# The ciphers of Fast Pair

P-256, SHA-256 and AES-128 come from packages and are known by their laws. A seeker that knows the
public key of a provider makes a key of its own for each request and sends its public half along,
so that whoever has the private key of the provider shares the key of the request. A control
carries a keyed hash of its message and of two nonces.
-/

namespace BtDaemon.FastPair

open Storage (AccountKey hexDecode hexEncode hexDecode_hexEncode)

abbrev Block := Vector UInt8 16

/-- The index of the first byte. -/
theorem zero_lt_blockSize : 0 < 16 := Nat.zero_lt_succ 15

structure Crypto where
  /-- A private key on P-256. -/
  Secret : Type
  PublicKey : Type
  publicKey : Secret → PublicKey
  diffieHellman : Secret → PublicKey → Vector UInt8 32
  fromSec1Bytes : List UInt8 → Option PublicKey
  /-- The two coordinates of a point. -/
  coordinates : PublicKey → Vector UInt8 64
  sha256 : List UInt8 → Vector UInt8 32
  encryptBlock : Block → Block → Block
  decryptBlock : Block → Block → Block
  diffieHellman_comm : ∀ first second,
    diffieHellman first (publicKey second) = diffieHellman second (publicKey first)
  fromSec1Bytes_coordinates : ∀ key, fromSec1Bytes (0x04 :: (coordinates key).toList) = some key
  decryptBlock_encryptBlock : ∀ key block, decryptBlock key (encryptBlock key block) = block

namespace Crypto

variable (crypto : Crypto)

/-! ## Keys -/

def deriveAesKey (sharedSecret : Vector UInt8 32) : Block :=
  ⟨(crypto.sha256 sharedSecret.toList).toArray.extract 0 16, by simp⟩

def cryptBlock (key block : Block) (encrypt : Bool) : Block :=
  if encrypt then crypto.encryptBlock key block else crypto.decryptBlock key block

/-- An error is its outermost text. -/
def parseAntiSpoofingPublicKey (encoded : String) : Except String crypto.PublicKey :=
  match hexDecode encoded with
  | none => .error "decode Fast Pair anti-spoofing public key"
  | some bytes =>
    let point :=
      if bytes.length = 64 then some (0x04 :: bytes)
      else if bytes.length = 65 ∧ bytes.head? = some 0x04 then some bytes
      else none
    match point with
    | none => .error ("Fast Pair anti-spoofing public key has " ++ toString bytes.length ++
        " bytes; expected 64-byte X/Y coordinates")
    | some point =>
      match crypto.fromSec1Bytes point with
      | none => .error "parse Fast Pair anti-spoofing public key"
      | some key => .ok key

/-- The text of a key is parsed to the key. -/
theorem parseAntiSpoofingPublicKey_hexEncode (key : crypto.PublicKey) :
    crypto.parseAntiSpoofingPublicKey (hexEncode (crypto.coordinates key).toList) = .ok key := by
  rw [parseAntiSpoofingPublicKey, hexDecode_hexEncode]
  simp only [Vector.length_toList, if_true, crypto.fromSec1Bytes_coordinates]

/-! ## Requests -/

theorem length_request (remote own : Address) (salt : Vector UInt8 2) :
    ([0x00, 0x10] ++ Endian.toBe 6 remote.toNat ++ Endian.toBe 6 own.toNat ++
      salt.toList).length = 16 := by
  simp [Endian.toBe]

/-- The block of a key-based pairing request. -/
def requestBlock (remote own : Address) (salt : Vector UInt8 2) : Block :=
  ⟨([0x00, 0x10] ++ Endian.toBe 6 remote.toNat ++ Endian.toBe 6 own.toNat ++
    salt.toList).toArray, length_request remote own salt⟩

def sharedKey (ephemeral : crypto.Secret) (providerKey : crypto.PublicKey) : Block :=
  crypto.deriveAesKey (crypto.diffieHellman ephemeral providerKey)

/-- What is written for a request. -/
def sealRequest (ephemeral : crypto.Secret) (providerKey : crypto.PublicKey) (block : Block) :
    List UInt8 :=
  (crypto.cryptBlock (crypto.sharedKey ephemeral providerKey) block true).toList ++
    (crypto.coordinates (crypto.publicKey ephemeral)).toList

/-- What a provider with this private key gets from a request: the key that it shares with the
seeker, and the block. -/
def openRequest (provider : crypto.Secret) (value : List UInt8) :
    Except String (Block × Block) := do
  let block ← decodeFixed 16 (value.take 16) "key-based pairing request"
  match crypto.fromSec1Bytes (0x04 :: value.drop 16) with
  | none => throw "parse the public key of the seeker"
  | some seeker =>
    let shared := crypto.sharedKey provider seeker
    return (shared, crypto.cryptBlock shared block false)

@[simp]
theorem cryptBlock_cryptBlock (key block : Block) :
    crypto.cryptBlock key (crypto.cryptBlock key block true) false = block :=
  crypto.decryptBlock_encryptBlock key block

/-- The provider that the seeker means opens the request. -/
theorem openRequest_sealRequest (provider ephemeral : crypto.Secret) (block : Block) :
    crypto.openRequest provider
      (crypto.sealRequest ephemeral (crypto.publicKey provider) block) =
        .ok (crypto.sharedKey ephemeral (crypto.publicKey provider), block) := by
  have hagree : crypto.sharedKey provider (crypto.publicKey ephemeral) =
      crypto.sharedKey ephemeral (crypto.publicKey provider) := by
    rw [sharedKey, sharedKey, crypto.diffieHellman_comm]
  rw [openRequest, sealRequest, List.take_left' (by simp), List.drop_left' (by simp),
    decodeFixed_eq_ok.mpr rfl, crypto.fromSec1Bytes_coordinates]
  change Except.ok _ = _
  rw [hagree, cryptBlock_cryptBlock]

/-! ## Authentication -/

/-- `block[index] ^= key[index]` for the bytes of the key. -/
def xorPrefix : List UInt8 → List UInt8 → List UInt8
  | block, [] => block
  | [], _ :: _ => []
  | byte :: block, first :: key => (byte ^^^ first) :: xorPrefix block key

def messageMac (accountKey : AccountKey) (sessionNonce messageNonce : Vector UInt8 8)
    (message : List UInt8) : Vector UInt8 8 :=
  let innerKey := xorPrefix (List.replicate 64 0x36) accountKey.toList
  let outerKey := xorPrefix (List.replicate 64 0x5c) accountKey.toList
  let inner := crypto.sha256
    (innerKey ++ (sessionNonce.toList ++ messageNonce.toList ++ message))
  let digest := crypto.sha256 (outerKey ++ inner.toList)
  ⟨digest.toArray.extract 0 8, by simp⟩

theorem xorPrefix_replicate (pad : UInt8) {size : ℕ} {key : List UInt8} (hkey : key.length ≤ size) :
    xorPrefix (List.replicate size pad) key =
      (key ++ List.replicate (size - key.length) 0).map (pad ^^^ ·) := by
  induction key generalizing size with
  | nil => simp [xorPrefix]
  | cons first key ih =>
    obtain ⟨rest, rfl⟩ := Nat.exists_eq_add_of_le' (Nat.one_le_of_lt hkey)
    have hrest := ih (Nat.le_of_succ_le_succ hkey)
    rw [List.replicate_succ, xorPrefix, hrest]
    simp

/-- The mark of a message under SHA-256, whose blocks have 64 bytes. -/
def mark (key message : List UInt8) : List UInt8 :=
  Mac.mark (fun bytes ↦ (crypto.sha256 bytes).toList) 64 8 key message

/-- The code hashes as the standard says. -/
theorem toList_messageMac (accountKey : AccountKey) (sessionNonce messageNonce : Vector UInt8 8)
    (message : List UInt8) :
    (crypto.messageMac accountKey sessionNonce messageNonce message).toList =
      crypto.mark accountKey.toList
        (sessionNonce.toList ++ messageNonce.toList ++ message) := by
  have hlength : accountKey.toList.length ≤ 64 := by simp
  rw [mark, Mac.mark, Mac.hmac, Mac.padded, if_neg (Nat.not_lt.mpr hlength),
    ← xorPrefix_replicate _ hlength,
    ← xorPrefix_replicate _ hlength]
  exact Array.toList_extract

/-! ## A seeker and a provider -/

/-- The owners of the first two private keys of P-256. -/
inductive Party
  | provider
  | seeker
  deriving DecidableEq, Repr

/-- The bytes of a number in network order. -/
def ofNumber {count : ℕ} (number : ℕ) : Vector UInt8 count :=
  ⟨(Endian.toBe count number).toArray, by simp [Endian.toBe]⟩

def Party.point : Party → Vector UInt8 64
  | .provider => ofNumber
      (0x6b17d1f2e12c4247f8bce6e563a440f277037d812deb33a0f4a13945d898c296 * 2 ^ 256 +
        0x4fe342e2fe1a7f9b8ee7eb4a7c0f9e162bce33576b315ececbb6406837bf51f5)
  | .seeker => ofNumber
      (0x7cf27b188d034f7e8a52380304b51ac3c08969e277f21b35a60b48fc47669978 * 2 ^ 256 +
        0x07775510db8ed040293d9ac69f7430dbba7dade63ce982299e04b79d227873d1)

def Party.diffieHellman : Party → Party → Vector UInt8 32
  | .provider, .provider =>
    ofNumber 0x6b17d1f2e12c4247f8bce6e563a440f277037d812deb33a0f4a13945d898c296
  | .seeker, .seeker =>
    ofNumber 0xe2534a3532d08fbba02dde659ee62bd0031fe2db785596ef509302446b030852
  | _, _ => ofNumber 0x7cf27b188d034f7e8a52380304b51ac3c08969e277f21b35a60b48fc47669978

/-- The hash of what the two share. -/
def digest : Vector UInt8 32 :=
  ofNumber 0x23775201799b2234a18e8071e409cec80d42632fe77534180afdc533c9b76f81

def requestPlain : Block := ofNumber 0x00100a1b2c3d4e5f001a7dda7113c35a

def requestSealed : Block := ofNumber 0xc435f6b8a35c60455e742168287e0023

def answerPlain : Block := ofNumber 0x010c1d2e3f5061808182838485868788

def answerSealed : Block := ofNumber 0xe5bbfa0301b05c8bd8c7c6acfcc5ee90

def keyPlain : Block := ofNumber 0x041112131415161718191a1b1c1d1e1f

def keySealed : Block := ofNumber 0xe64573ad399be871fb1f8a309b1ff4e9

/-- AES under the key that the two share, at a request, an answer and an account key. -/
def permutation : Equiv.Perm Block :=
  (Equiv.swap requestPlain requestSealed).trans
    ((Equiv.swap answerPlain answerSealed).trans (Equiv.swap keyPlain keySealed))

/-- What is hashed for the message `1` between nonces of ones and twos, under a key of fours. -/
def innerText : List UInt8 :=
  xorPrefix (List.replicate 64 0x36) (List.replicate 16 0x04) ++ List.replicate 8 0x11 ++
    List.replicate 8 0x22 ++ [1]

def innerDigest : Vector UInt8 32 :=
  ofNumber 0x5c2be2a7d1642e0332e4691b4e6886e9987f8ddf966f59a4a2339a2cadee27c2

def outerText : List UInt8 :=
  xorPrefix (List.replicate 64 0x5c) (List.replicate 16 0x04) ++ innerDigest.toList

def outerDigest : Vector UInt8 32 :=
  ofNumber 0x13cfdae51949437ed06a333472c987dac5f8b71dd64611e9ebc623c08d02b483

/-- The public key of the provider, as a file of trusted models has it. -/
def generatorText : String := hexEncode (Party.point .provider).toList

/-- The ciphers, as far as these two use them. -/
def twoParties : Crypto where
  Secret := Party
  PublicKey := Party
  publicKey := id
  diffieHellman := Party.diffieHellman
  fromSec1Bytes bytes :=
    if bytes = 0x04 :: (Party.point .provider).toList then some .provider
    else if bytes = 0x04 :: (Party.point .seeker).toList then some .seeker
    else none
  coordinates := Party.point
  sha256 bytes :=
    if bytes = (Party.diffieHellman .seeker .provider).toList then digest
    else if bytes = innerText then innerDigest
    else if bytes = outerText then outerDigest
    else Vector.replicate 32 0
  encryptBlock key block :=
    if key.toList = digest.toList.take 16 then permutation block else block
  decryptBlock key block :=
    if key.toList = digest.toList.take 16 then permutation.symm block else block
  diffieHellman_comm first second := by cases first <;> cases second <;> rfl
  fromSec1Bytes_coordinates key := by cases key <;> decide +kernel
  decryptBlock_encryptBlock key block := by
    split
    · exact permutation.symm_apply_apply block
    · rfl

instance : DecidableEq twoParties.PublicKey := inferInstanceAs (DecidableEq Party)

theorem parse_generatorText :
    twoParties.parseAntiSpoofingPublicKey generatorText = .ok Party.provider :=
  twoParties.parseAntiSpoofingPublicKey_hexEncode Party.provider

end Crypto

end BtDaemon.FastPair

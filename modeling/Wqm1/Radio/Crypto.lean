import Wqm1.Library.Aes
import Wqm1.Radio.Region

/-! The cryptographic helpers of LoRaWAN 1.0.3: message integrity codes, payload
encryption and key derivation. -/

set_option autoImplicit false

namespace Wqm1.Radio

open Wqm1.Library

abbrev Key := FixedBytes 16
abbrev DevAddr := FixedBytes 4

/-- The primitives taken from the crypto package. A block cipher under one key
maps different blocks to different blocks. -/
structure Crypto where
  aesEncrypt : Key → FixedBytes 16 → FixedBytes 16
  aesEncrypt_injective : ∀ key, Function.Injective (aesEncrypt key)
  cmac : Key → Bytes → FixedBytes 16

/-- The primitives as FIPS 197 and RFC 4493 define them. -/
def Crypto.aes : Crypto := ⟨Aes.encrypt, Aes.encrypt_injective, Aes.cmac⟩

inductive Direction where
  | uplink | downlink
deriving DecidableEq

def Direction.toByte : Direction → UInt8
  | uplink => 0
  | downlink => 1

namespace Crypto

variable (crypto : Crypto)

def computeMic (key : Key) (data : Bytes) : Bytes := (crypto.cmac key data).bytes.take 4

/-- The block B0 in front of a data frame. -/
def micBlock (devAddr : DevAddr) (fcnt length : Nat) (direction : Direction) : Bytes :=
  [0x49, 0, 0, 0, 0, direction.toByte] ++ devAddr.bytes ++ packLE 4 (fcnt % 2 ^ 32) ++
    [0, UInt8.ofNat length]

def computeFrameMic (nwkSKey : Key) (devAddr : DevAddr) (fcnt : Nat) (frame : Bytes)
    (direction : Direction) : Bytes :=
  crypto.computeMic nwkSKey (micBlock devAddr fcnt frame.length direction ++ frame)

/-- The block A whose encryption is one block of the key stream. -/
def counterBlock (devAddr : DevAddr) (fcnt : Nat) (direction : Direction) (index : Nat) :
    FixedBytes 16 :=
  ⟨[0x01, 0, 0, 0, 0, direction.toByte] ++ devAddr.bytes ++ packLE 4 (fcnt % 2 ^ 32) ++
    [0, UInt8.ofNat (index + 1)], by simp⟩

def keyStream (key : Key) (devAddr : DevAddr) (fcnt blocks : Nat) (direction : Direction) : Bytes :=
  (List.range blocks).flatMap fun index =>
    (crypto.aesEncrypt key (counterBlock devAddr fcnt direction index)).bytes

def encryptPayload (key : Key) (devAddr : DevAddr) (fcnt : Nat) (payload : Bytes)
    (direction : Direction) : Bytes :=
  xorBytes payload (crypto.keyStream key devAddr fcnt ((payload.length + 15) / 16) direction)

/-- The input of a key derivation: the type, AppNonce, NetID and DevNonce. -/
def derivationBlock (keyType : UInt8) (appNonce netId : FixedBytes 3) (devNonce : Nat) :
    FixedBytes 16 :=
  ⟨keyType :: (appNonce.bytes ++ netId.bytes ++ packLE 2 devNonce ++ List.replicate 7 0), by simp⟩

def deriveKey (appKey : Key) (keyType : UInt8) (appNonce netId : FixedBytes 3) (devNonce : Nat) :
    Key :=
  crypto.aesEncrypt appKey (derivationBlock keyType appNonce netId devNonce)

variable {crypto}

@[simp] theorem length_computeMic (key : Key) (data : Bytes) :
    (crypto.computeMic key data).length = 4 := by simp [computeMic]

@[simp] theorem length_computeFrameMic (nwkSKey : Key) (devAddr : DevAddr) (fcnt : Nat)
    (frame : Bytes) (direction : Direction) :
    (crypto.computeFrameMic nwkSKey devAddr fcnt frame direction).length = 4 := by
  simp [computeFrameMic]

@[simp] theorem length_keyStream (key : Key) (devAddr : DevAddr) (fcnt blocks : Nat)
    (direction : Direction) :
    (crypto.keyStream key devAddr fcnt blocks direction).length = 16 * blocks := by
  induction blocks with
  | zero => rfl
  | succ blocks ih =>
      rw [keyStream, List.range_succ, List.flatMap_append, List.length_append, ← keyStream, ih]
      simp
      omega

@[simp] theorem length_encryptPayload (key : Key) (devAddr : DevAddr) (fcnt : Nat) (payload : Bytes)
    (direction : Direction) :
    (crypto.encryptPayload key devAddr fcnt payload direction).length = payload.length := by
  simp only [encryptPayload, length_xorBytes, length_keyStream]
  omega

/-- Decryption is encryption. -/
@[simp] theorem encryptPayload_encryptPayload (key : Key) (devAddr : DevAddr) (fcnt : Nat)
    (payload : Bytes) (direction : Direction) :
    crypto.encryptPayload key devAddr fcnt
      (crypto.encryptPayload key devAddr fcnt payload direction) direction = payload := by
  rw [encryptPayload, length_encryptPayload, encryptPayload]
  exact xorBytes_cancel (by rw [length_keyStream]; omega)

/-- Sessions whose DevNonces differ have different keys. -/
theorem devNonce_of_deriveKey {appKey : Key} {keyType : UInt8}
    {leftApp leftNet rightApp rightNet : FixedBytes 3} {left right : Nat}
    (same : crypto.deriveKey appKey keyType leftApp leftNet left =
      crypto.deriveKey appKey keyType rightApp rightNet right) :
    left % 65536 = right % 65536 := by
  have blocks := congrArg FixedBytes.bytes (crypto.aesEncrypt_injective appKey same)
  simp only [derivationBlock, List.cons.injEq, true_and, List.append_assoc] at blocks
  have rest := (List.append_inj blocks (by simp)).2
  have nonces := (List.append_inj (List.append_inj rest (by simp)).2 (by simp)).1
  exact packLE_inj.mp nonces

end Crypto

end Wqm1.Radio

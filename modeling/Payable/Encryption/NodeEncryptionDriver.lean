import Payable.Foundation.Base64
import Payable.Foundation.Checked
import Payable.Foundation.JsonText
import Payable.Foundation.Text

namespace Payable.Encryption
open Checked

abbrev Bytes := List UInt8

def isHex (c : Char) : Bool := c.isDigit || 'a' ≤ c && c ≤ 'f' || 'A' ≤ c && c ≤ 'F'

def hexValue (c : Char) : Nat :=
  if c.isDigit then c.toNat - 48 else if 'a' ≤ c then c.toNat - 87 else c.toNat - 55

-- Buffer.from(text,'hex') of an even number of digits.
def fromHex : List Char → Bytes
  | high :: low :: rest => UInt8.ofNat (hexValue high * 16 + hexValue low) :: fromHex rest
  | _ => []

theorem fromHex_length (digits : List Char) : (fromHex digits).length = digits.length / 2 := by
  induction digits using fromHex.induct with
  | case1 high low rest ih =>
      simp only [fromHex,List.length_cons,ih]
      omega
  | case2 digits short =>
      match digits with
      | [] => rfl
      | [only] => simp [fromHex]
      | high :: low :: rest => exact absurd rfl (short high low rest)

structure Key where
  bytes : Bytes
  full : bytes.length = 32
  deriving DecidableEq

structure Iv where
  bytes : Bytes
  full : bytes.length = 12

inductive Salt where
  | text (salt : String)
  | buffer (salt : Bytes)

-- What node:crypto and Buffer do for the driver. encipher is the ciphertext with its tag,
-- decipher none where final throws; replaced reads bytes that are no UTF-8.
structure Node where
  scryptSync : String → Salt → Key
  encipher : Key → Iv → Bytes → Bytes → Bytes × Bytes
  decipher : Key → Bytes → Bytes → Bytes → Bytes → Option Bytes
  replaced : Bytes → String

-- AES-256-GCM: decryption with the same key, IV, additional data and tag inverts encryption
-- and fails otherwise; the ciphertext is as long as the plaintext, the tag 16 bytes.
structure Node.IsGcm (node : Node) : Prop where
  opens : ∀ key iv aad plaintext,
    node.decipher key iv.bytes aad (node.encipher key iv aad plaintext).2 (node.encipher key iv aad plaintext).1 = some plaintext
  rejects : ∀ key iv aad tag data plaintext, node.decipher key iv.bytes aad tag data = some plaintext →
    node.encipher key iv aad plaintext = (data,tag)
  sized : ∀ key iv aad plaintext, (node.encipher key iv aad plaintext).1.length = plaintext.length
  tagged : ∀ key iv aad plaintext, (node.encipher key iv aad plaintext).2.length = 16

structure PayableError where
  message : String
  code : String
  deriving DecidableEq

structure EncryptionKeyMaterial where
  id : String
  key : String
  salt : Option Salt

structure NodeEncryptionOptions where
  key : Option String
  salt : Option Salt
  keys : Option (List EncryptionKeyMaterial)
  activeKeyId : Option String

def isRawKey (key : String) : Bool := key.toList.length = 64 && key.toList.all isHex

def isKeyIdChar (c : Char) : Bool := c.isAlphanum || c = '.' || c = '_' || c = '-'

def isKeyId (id : String) : Bool := !id.toList.isEmpty && id.toList.all isKeyIdChar

def isEmptySalt : Salt → Bool
  | .text salt => Text.isBlank salt
  | .buffer salt => salt.isEmpty

def saltRequired : PayableError :=
  ⟨"A passphrase encryption key requires an explicit salt; provide a unique salt or use a 32-byte raw hex key from generateEncryptionKey()",
    "ENCRYPTION_SALT_REQUIRED"⟩

def deriveKey (node : Node) (key : String) (salt : Option Salt) : Except PayableError Key :=
  if Text.isBlank key then
    .error ⟨"Encryption key must be a non-empty high-entropy secret","ENCRYPTION_KEY_REQUIRED"⟩
  else if raw : isRawKey key = true then
    .ok ⟨fromHex key.toList,by
      rw [isRawKey,Bool.and_eq_true,decide_eq_true_eq] at raw
      rw [fromHex_length,raw.1]⟩
  else
    match salt with
    | none => .error saltRequired
    | some given => if isEmptySalt given then .error saltRequired else .ok (node.scryptSync key given)

-- The keys by their ids, the last of two with one id.
structure Keyring where
  entries : List (String × Key)
  valid : ∀ entry ∈ entries, isKeyId entry.1 = true

def Keyring.get (keys : Keyring) (id : String) : Option Key := keys.entries.lookup id

def Keyring.set (keys : Keyring) (id : String) (key : Key) (valid : isKeyId id = true) : Keyring where
  entries := (id,key) :: keys.entries
  valid := by
    intro entry member
    rcases List.mem_cons.mp member with rfl | old
    · exact valid
    · exact keys.valid entry old

def addKeys (node : Node) (keys : Keyring) : List EncryptionKeyMaterial → Except PayableError Keyring
  | [] => .ok keys
  | material :: rest =>
    if valid : isKeyId material.id = true then
      match deriveKey node material.key material.salt with
      | .error error => .error error
      | .ok key => addKeys node (keys.set material.id key valid) rest
    else .error ⟨"Invalid encryption key id: " ++ material.id,"ENCRYPTION_KEY_ID_INVALID"⟩

structure NodeEncryptionDriver where
  keys : Keyring
  activeKeyId : String
  key : Key
  active : keys.get activeKeyId = some key

def NodeEncryptionDriver.create (node : Node) (options : NodeEncryptionOptions) : Except PayableError NodeEncryptionDriver :=
  let materials := options.keys.getD ((options.key.map fun key => ⟨"default",key,options.salt⟩).toList)
  if materials.isEmpty then .error ⟨"Encryption requires a key or a non-empty keyring","ENCRYPTION_KEY_REQUIRED"⟩
  else
    match addKeys node ⟨[],fun _ member => absurd member List.not_mem_nil⟩ materials with
    | .error error => .error error
    | .ok keys =>
      let activeKeyId := (options.activeKeyId.or (materials.getLast?.map (·.id))).getD "default"
      match active : keys.get activeKeyId with
      | none => .error ⟨"Active key id is not present in the keyring: " ++ activeKeyId,"ENCRYPTION_ACTIVE_KEY_UNKNOWN"⟩
      | some key => .ok ⟨keys,activeKeyId,key,active⟩

def utf8 (text : String) : Bytes := text.toByteArray.data.toList

def toStringUtf8 (node : Node) (bytes : Bytes) : String :=
  match (ByteArray.mk bytes.toArray).utf8Decode? with
  | some chars => String.ofList chars.toList
  | none => node.replaced bytes

def toBase64 (bytes : Bytes) : List Char := Base64.encode (bytes.map UInt8.toNat)

def fromBase64 (text : List Char) : Bytes := (Base64.decode text).map UInt8.ofNat

def aadOf (keyId : List Char) : List Char := "v1".toList ++ ':' :: keyId

def encrypt (node : Node) (driver : NodeEncryptionDriver) (iv : Iv) (plaintext : String) : String :=
  let aad := aadOf driver.activeKeyId.toList
  let sealed := node.encipher driver.key iv (utf8 (String.ofList aad)) (utf8 plaintext)
  String.ofList (aad ++ ':' :: toBase64 iv.bytes ++ ':' :: toBase64 sealed.2 ++ ':' :: toBase64 sealed.1)

structure ResolvedEnvelope where
  key : Key
  aad : List Char
  iv : List Char
  tag : List Char
  data : List Char

def keyForId (driver : NodeEncryptionDriver) (keyId : List Char) : Except PayableError Key :=
  require (driver.keys.get (String.ofList keyId))
    ⟨"No encryption key available for id: " ++ String.ofList keyId,"ENCRYPTION_KEY_UNKNOWN"⟩

def malformed : PayableError := ⟨"Malformed ciphertext","ENCRYPTION_INVALID_CIPHERTEXT"⟩

def resolveEnvelope (driver : NodeEncryptionDriver) (parts : List (List Char)) : Except PayableError ResolvedEnvelope :=
  match parts with
  | [version,keyId,iv,tag,data] =>
    if version = "v1".toList && !keyId.isEmpty && !iv.isEmpty && !tag.isEmpty && !data.isEmpty then
      (keyForId driver keyId).map fun key => ⟨key,aadOf keyId,iv,tag,data⟩
    else .error malformed
  | _ => .error malformed

def decrypt (node : Node) (driver : NodeEncryptionDriver) (ciphertext : String) : Except PayableError String := do
  let resolved ← resolveEnvelope driver (ciphertext.toList.splitOn ':')
  let decrypted ← require
    (node.decipher resolved.key (fromBase64 resolved.iv) (utf8 (String.ofList resolved.aad)) (fromBase64 resolved.tag)
      (fromBase64 resolved.data))
    ⟨"Failed to decrypt ciphertext","ENCRYPTION_DECRYPT_FAILED"⟩
  return toStringUtf8 node decrypted

end Payable.Encryption

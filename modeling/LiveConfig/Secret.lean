import LiveConfig.Hex
import LiveConfig.Cipher.Aes
import LiveConfig.Cipher.Gcm

/-!
# Secrets

A secret is a text sealed with AES-256 in Galois/counter mode and written as three hexadecimal
parts, `ciphertext--iv--tag`. The nonce has twelve or sixteen bytes.

`encrypt` writes such a text and `decrypt` reads it.
-/

namespace LiveConfig.Secret

/-- The hexadecimal texts that take part in sealing. -/
inductive Part where
  | key | iv | ciphertext | tag
deriving DecidableEq, Repr

/-- The name of a part in messages. -/
def Part.name : Part → String
  | .key => "key"
  | .iv => "iv"
  | .ciphertext => "ciphertext"
  | .tag => "tag"

/-- Why a secret cannot be sealed or opened. -/
inductive Fault where
  /-- The payload does not consist of three parts. -/
  | notThreeParts
  /-- A part is not hexadecimal. -/
  | badHex (part : Part) (fault : Hex.Fault)
  /-- The nonce has a length that the mode is not used with here. -/
  | nonceLength (length : Nat)
  /-- The key does not have 32 bytes. -/
  | keyLength
  /-- The tag does not belong to the text under this key and nonce. -/
  | notAuthentic
  /-- The opened bytes are not UTF-8. -/
  | notText
deriving DecidableEq, Repr

/-- Opens a payload with a key; both are texts. -/
abbrev Decrypter := String → String → Except Fault String

/-- The length of a tag in bytes. -/
def tagLength : Nat := 16

/-- Splits a text at each pair of dashes, from the left. -/
def splitDashes : List Char → List (List Char)
  | '-' :: '-' :: rest => [] :: splitDashes rest
  | c :: rest =>
    match splitDashes rest with
    | part :: parts => (c :: part) :: parts
    | [] => [[c]]
  | [] => [[]]

/-- Reads a hexadecimal part. -/
def readPart (part : Part) (text : String) : Except Fault Bytes :=
  (Hex.decode text).mapError (.badHex part)

/-- The block cipher of a 32-byte key. -/
def blockCipher (key : Bytes) : Cipher.Gcm.Block → Cipher.Gcm.Block :=
  let keys := Cipher.Aes.roundKeys key
  fun block => .ofBytes (Cipher.Aes.encryptBlock keys block.toBytes)

/-- Checks the lengths of nonce and key, in this order. -/
def checkLengths (key nonce : Bytes) : Except Fault Unit :=
  if nonce.length ≠ 12 ∧ nonce.length ≠ 16 then .error (.nonceLength nonce.length)
  else if key.length ≠ 32 then .error .keyLength
  else .ok ()

/-- Seals a text under a hexadecimal key. -/
def encrypt (keyText text : String) (nonce : Bytes) : Except Fault String := do
  let key ← readPart .key keyText
  checkLengths key nonce
  let (body, tag) := Cipher.Gcm.close (blockCipher key) nonce (Bytes.ofText text)
  return Hex.encode body ++ "--" ++ Hex.encode nonce ++ "--" ++ Hex.encode tag

/-- Opens a sealed text under a hexadecimal key. The tag is the end of ciphertext and tag taken
together, so only their joint length matters. -/
def decrypt : Decrypter := fun keyText payload => do
  match splitDashes payload.toList with
  | [bodyText, nonceText, tagText] =>
    let key ← readPart .key keyText
    let nonce ← readPart .iv (String.ofList nonceText)
    let body ← readPart .ciphertext (String.ofList bodyText)
    let tag ← readPart .tag (String.ofList tagText)
    checkLengths key nonce
    let joined := body ++ tag
    let cut := joined.length - tagLength
    match Cipher.Gcm.open? (blockCipher key) nonce (joined.take cut) (joined.drop cut) with
    | none => .error .notAuthentic
    | some opened =>
      match Bytes.toText? opened with
      | none => .error .notText
      | some text => return text
  | _ => .error .notThreeParts

end LiveConfig.Secret

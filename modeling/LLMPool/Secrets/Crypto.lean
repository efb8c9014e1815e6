import LLMPool.Models

/-! Encryption of the keys that are stored: a random nonce and the ciphertext under the
configured key, in base64. The primitives are those of the libraries. -/
namespace LLMPool.Secrets

inductive CryptoError where
  | missingKey
  | invalidKey (message : List Value)
  | encryptionFailed
  | decryptionFailed
  | invalidCiphertext
  | base64DecodeFailed (message : String)

/-- How an error is displayed. -/
def CryptoError.display : CryptoError → List Value
  | .missingKey =>
      [.string "Encryption key is not configured. Set [security] encryption_key in config file."]
  | .invalidKey message => .string "Invalid encryption key: " :: message
  | .encryptionFailed => [.string "AES-256-GCM encryption failed"]
  | .decryptionFailed => [.string "AES-256-GCM decryption failed (wrong key or corrupted data)"]
  | .invalidCiphertext => [.string "Invalid ciphertext format"]
  | .base64DecodeFailed message => [.string "Base64 decode failed: ", .string message]

def nonceSize : Nat := 12

abbrev Nonce := { bytes : ByteArray // bytes.size = nonceSize }

/-- Hex, AES-256-GCM and base64; the two decoders say why a text is none of theirs. -/
structure Primitives where
  hexDecode : String → Except String ByteArray
  aesEncrypt : ByteArray → ByteArray → ByteArray → Option ByteArray
  aesDecrypt : ByteArray → ByteArray → ByteArray → Option ByteArray
  base64Encode : ByteArray → String
  base64Decode : String → Except String ByteArray

/-- What the libraries promise: a ciphertext has a tag of 16 bytes and opens to the
plaintext under the same key and nonce, and base64 decodes what it has encoded. -/
structure Primitives.Lawful (p : Primitives) : Prop where
  tagged : p.aesEncrypt key nonce text = some sealed → sealed.size = text.size + 16
  opens : p.aesEncrypt key nonce text = some sealed → p.aesDecrypt key nonce sealed = some text
  decodes : p.base64Decode (p.base64Encode bytes) = .ok bytes

section Functions
variable (p : Primitives) (encryptionKey : String)

def getEncryptionKey : Except CryptoError ByteArray :=
  if encryptionKey = "" then .error .missingKey
  else
    match p.hexDecode encryptionKey with
    | .error e => .error (.invalidKey [.string "not valid hex: ", .string e])
    | .ok key =>
        if key.size ≠ 32 then
          .error (.invalidKey [.string "expected 32 bytes (64 hex chars), got ", .integer key.size,
            .string " bytes (", .integer encryptionKey.utf8ByteSize, .string " hex chars)"])
        else .ok key

def encrypt (nonce : Nonce) (plaintext : String) : Except CryptoError String := do
  let key ← getEncryptionKey p encryptionKey
  match p.aesEncrypt key nonce.val plaintext.toByteArray with
  | none => throw .encryptionFailed
  | some ciphertext => return p.base64Encode (nonce.val ++ ciphertext)

def decrypt (encrypted : String) : Except CryptoError String := do
  let key ← getEncryptionKey p encryptionKey
  match p.base64Decode encrypted with
  | .error e => throw (.base64DecodeFailed e)
  | .ok combined =>
      if combined.size ≤ nonceSize then throw .invalidCiphertext
      else
        match p.aesDecrypt key (combined.extract 0 nonceSize) (combined.extract nonceSize combined.size) with
        | none => throw .decryptionFailed
        | some plaintext =>
            match String.fromUTF8? plaintext with
            | none => throw .decryptionFailed
            | some text => return text

def isEncryptionConfigured : Bool := encryptionKey ≠ ""

def encryptIfConfigured (nonce : Nonce) (plaintext : String) : Except CryptoError String :=
  if isEncryptionConfigured encryptionKey then encrypt p encryptionKey nonce plaintext else .ok plaintext

def decryptIfConfigured (value : String) : Except CryptoError String :=
  if isEncryptionConfigured encryptionKey then decrypt p encryptionKey value else .ok value

end Functions

section RoundTrip
variable {p : Primitives} {encryptionKey : String}

theorem fromUTF8_toByteArray (text : String) : String.fromUTF8? text.toByteArray = some text := by
  rw [String.fromUTF8?, dif_pos text.isValidUTF8]
  rfl

theorem split_combined {nonce : Nonce} {ciphertext : ByteArray} :
    (nonce.val ++ ciphertext).extract 0 nonceSize = nonce.val ∧
      (nonce.val ++ ciphertext).extract nonceSize (nonce.val ++ ciphertext).size = ciphertext :=
  ⟨ByteArray.extract_append_eq_left nonce.property.symm,
    ByteArray.extract_append_eq_right nonce.property.symm ByteArray.size_append⟩

theorem decrypt_encrypt (lawful : p.Lawful) {nonce : Nonce} {plaintext encrypted : String}
    (encrypts : encrypt p encryptionKey nonce plaintext = .ok encrypted) :
    decrypt p encryptionKey encrypted = .ok plaintext := by
  rw [encrypt] at encrypts
  rw [decrypt]
  cases configured : getEncryptionKey p encryptionKey with
  | error e =>
      rw [configured] at encrypts
      cases encrypts
  | ok key =>
      rw [configured] at encrypts
      simp only [bind, Except.bind] at encrypts ⊢
      split at encrypts
      · cases encrypts
      · rename_i ciphertext made
        cases encrypts
        have long : ¬(nonce.val ++ ciphertext).size ≤ nonceSize := by
          have tagged := lawful.tagged made
          have sized := nonce.property
          rw [ByteArray.size_append]
          omega
        simp only [lawful.decodes, if_neg long, split_combined.1, split_combined.2, lawful.opens made,
          fromUTF8_toByteArray]
        rfl

theorem decryptIfConfigured_encryptIfConfigured (lawful : p.Lawful) {nonce : Nonce}
    {plaintext encrypted : String} (encrypts : encryptIfConfigured p encryptionKey nonce plaintext = .ok encrypted) :
    decryptIfConfigured p encryptionKey encrypted = .ok plaintext := by
  rw [encryptIfConfigured] at encrypts
  rw [decryptIfConfigured]
  split at encrypts
  · rename_i configured
    rw [if_pos configured]
    exact decrypt_encrypt lawful encrypts
  · rename_i plain
    rw [if_neg plain]
    exact encrypts.symm ▸ rfl

end RoundTrip

end LLMPool.Secrets

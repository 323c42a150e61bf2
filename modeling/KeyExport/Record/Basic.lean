import KeyExport.Hex

set_option autoImplicit false

/-!
# Records

A record holds one encrypted payload with all that its recipient needs. On the wire its fields
stand in a row without separators; reading cuts them at fixed places, the ciphertext being all
that remains.
-/

namespace KeyExport

/-- A record built by hand may have any version and fields of any length. -/
structure Record where
  version : Int
  keyId : Bytes
  ephemeralPoint : Bytes
  nonce : Bytes
  /-- The encrypted payload with its tag behind. -/
  ciphertext : Bytes
  deriving DecidableEq

namespace Record

/-- The version that is written and read. -/
def currentVersion : UInt8 := 0

/-- The last sixteen bytes of the ciphertext, or all of a shorter one. -/
def tag (r : Record) : Bytes :=
  r.ciphertext.drop (r.ciphertext.length - Sizes.tag)

/-- The length of the plaintext; negative when there is no room for a tag. -/
def payloadLength (r : Record) : Int :=
  r.ciphertext.length - Sizes.tag

def body (r : Record) : Bytes :=
  r.keyId ++ r.ephemeralPoint ++ r.nonce ++ r.ciphertext

def encode (r : Record) : Except Failure Bytes :=
  if 0 ≤ r.version ∧ r.version < 256 then .ok (UInt8.ofNat r.version.toNat :: r.body)
  else .error (.versionNotByte r.version)

/-- The fields that follow the version. -/
def ofBody (version : UInt8) (data : Bytes) : Record where
  version := version.toNat
  keyId := data.take Sizes.keyId
  ephemeralPoint := (data.drop Sizes.keyId).take Sizes.point
  nonce := (data.drop (Sizes.keyId + Sizes.point)).take Sizes.nonce
  ciphertext := data.drop (Sizes.keyId + Sizes.point + Sizes.nonce)

/-- A record that is too short is reported as such, whatever its version. -/
def decode (data : Bytes) : Except Failure Record :=
  if data.length < Sizes.overhead then .error (.shortRecord data.length)
  else
    match data with
    | [] => .error (.shortRecord 0)
    | version :: rest =>
      if version ≠ currentVersion then .error (.unknownVersion version)
      else .ok (ofBody version rest)

end Record

/-- What can be told of a record without its recipient's key. -/
structure RecordSummary where
  version : Int
  keyId : Bytes
  ephemeralPoint : Bytes
  nonce : Bytes
  payloadLength : Int
  totalLength : Nat
  deriving DecidableEq

def RecordSummary.ofBytes (data : Bytes) : Except Failure RecordSummary := do
  let r ← Record.decode data
  return ⟨r.version, r.keyId, r.ephemeralPoint, r.nonce, r.payloadLength, data.length⟩

/-- A summary as it is handed out, its byte strings in hexadecimal. -/
structure RecordInfo where
  version : Int
  keyId : String
  ephemeralPoint : String
  nonce : String
  payloadLength : Int
  totalLength : Nat
  deriving DecidableEq

def RecordSummary.info (s : RecordSummary) : RecordInfo :=
  ⟨s.version, Hex.encode s.keyId, Hex.encode s.ephemeralPoint, Hex.encode s.nonce,
    s.payloadLength, s.totalLength⟩

def RecordInfo.ofBytes (data : Bytes) : Except Failure RecordInfo :=
  (RecordSummary.ofBytes data).map RecordSummary.info

end KeyExport

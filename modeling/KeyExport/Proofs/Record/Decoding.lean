import KeyExport.Proofs.Hex
import KeyExport.Record.Basic
import Mathlib.Data.List.Basic

set_option autoImplicit false

/-!
# Reading records

A byte string is a record exactly when it is long enough and begins with the current version, and
reading it loses nothing. On the other side, a record whose fields have the sizes of the wire
format is read back as it was written.
-/

namespace KeyExport

namespace Record

variable {data : Bytes} {r : Record}

theorem decode_of_short (short : data.length < Sizes.overhead) :
    decode data = .error (.shortRecord data.length) := by
  rw [decode.eq_def, if_pos short]

theorem decode_cons_of_ne {version : UInt8} {rest : Bytes}
    (long : Sizes.overhead ≤ (version :: rest).length) (other : version ≠ currentVersion) :
    decode (version :: rest) = .error (.unknownVersion version) := by
  rw [decode.eq_def, if_neg (Nat.not_lt.mpr long)]
  exact if_pos other

theorem decode_cons {rest : Bytes} (long : Sizes.overhead ≤ (currentVersion :: rest).length) :
    decode (currentVersion :: rest) = .ok (ofBody currentVersion rest) := by
  rw [decode.eq_def, if_neg (Nat.not_lt.mpr long)]
  exact if_neg (not_not.mpr rfl)

/-- A byte string is short, or of another version, or read. -/
theorem decode_cases (data : Bytes) :
    data.length < Sizes.overhead ∧ decode data = .error (.shortRecord data.length) ∨
      Sizes.overhead ≤ data.length ∧ ∃ version rest, data = version :: rest ∧
        (version ≠ currentVersion ∧ decode data = .error (.unknownVersion version) ∨
          version = currentVersion ∧ decode data = .ok (ofBody version rest)) := by
  by_cases short : data.length < Sizes.overhead
  · exact .inl ⟨short, decode_of_short short⟩
  · have long := Nat.not_lt.mp short
    cases data with
    | nil => exact absurd long (by decide)
    | cons version rest =>
      refine .inr ⟨long, version, rest, rfl, ?_⟩
      by_cases current : version = currentVersion
      · subst current
        exact .inr ⟨rfl, decode_cons long⟩
      · exact .inl ⟨current, decode_cons_of_ne long current⟩

theorem body_ofBody (version : UInt8) (rest : Bytes) : (ofBody version rest).body = rest := by
  have second (a b : Nat) : (rest.drop a).take b ++ rest.drop (a + b) = rest.drop a := by
    rw [← List.drop_drop, List.take_append_drop]
  rw [body, ofBody, List.append_assoc, List.append_assoc, second, second, List.take_append_drop]

theorem encode_ofBody (version : UInt8) (rest : Bytes) :
    (ofBody version rest).encode = .ok (version :: rest) := by
  have below := version.toNat_lt
  have byte : UInt8.ofNat ((version.toNat : Int)).toNat = version := by
    rw [Int.toNat_natCast, UInt8.ofNat_toNat]
  rw [encode, body_ofBody, if_pos (by simp only [ofBody]; omega)]
  simp only [ofBody, byte]

/-- The fields in front of the ciphertext have the sizes at which reading cuts. -/
structure Aligned (r : Record) : Prop where
  keyId : r.keyId.length = Sizes.keyId
  ephemeralPoint : r.ephemeralPoint.length = Sizes.point
  nonce : r.nonce.length = Sizes.nonce

/-- Cutting restores the fields of an aligned record, whatever its version. -/
theorem Aligned.ofBody_body (aligned : r.Aligned) {version : UInt8}
    (same : r.version = version.toNat) : ofBody version r.body = r := by
  rcases r with ⟨_, keyId, point, nonce, ciphertext⟩
  rcases aligned with ⟨idSize, pointSize, nonceSize⟩
  simp only at same idSize pointSize nonceSize
  subst same
  have front : (keyId ++ point).length = Sizes.keyId + Sizes.point := by
    rw [List.length_append, idSize, pointSize]
  have whole : (keyId ++ point ++ nonce).length = Sizes.keyId + Sizes.point + Sizes.nonce := by
    rw [List.length_append, front, nonceSize]
  simp only [ofBody, body, List.append_assoc, mk.injEq]
  refine ⟨trivial, List.take_left' idSize, ?_, ?_, ?_⟩
  · rw [List.drop_left' idSize, List.take_left' pointSize]
  · rw [← List.append_assoc, List.drop_left' front, List.take_left' nonceSize]
  · rw [← List.append_assoc, ← List.append_assoc, List.drop_left' whole]

/-- The fields have the sizes that reading gives them, and the version is the current one. -/
structure Regular (r : Record) : Prop where
  version : r.version = currentVersion.toNat
  keyId : r.keyId.length = Sizes.keyId
  ephemeralPoint : r.ephemeralPoint.length = Sizes.point
  nonce : r.nonce.length = Sizes.nonce
  tag : Sizes.tag ≤ r.ciphertext.length

theorem regular_ofBody {rest : Bytes} (long : Sizes.overhead ≤ (currentVersion :: rest).length) :
    (ofBody currentVersion rest).Regular := by
  have room : Sizes.keyId + Sizes.point + Sizes.nonce + Sizes.tag ≤ rest.length :=
    Nat.le_of_succ_le_succ long
  constructor
  · rfl
  · simp only [ofBody, List.length_take]
    omega
  · simp only [ofBody, List.length_take, List.length_drop]
    omega
  · simp only [ofBody, List.length_take, List.length_drop]
    omega
  · simp only [ofBody, List.length_drop]
    omega

namespace Regular

theorem encode_eq (regular : r.Regular) : r.encode = .ok (currentVersion :: r.body) := by
  have byte : (currentVersion.toNat : Int) = 0 := by decide
  rw [encode, regular.version, byte, if_pos (by decide)]
  rfl

theorem length_body (regular : r.Regular) :
    r.body.length = Sizes.keyId + Sizes.point + Sizes.nonce + r.ciphertext.length := by
  simp only [body, List.length_append, regular.keyId, regular.ephemeralPoint, regular.nonce]

theorem aligned (regular : r.Regular) : r.Aligned :=
  ⟨regular.keyId, regular.ephemeralPoint, regular.nonce⟩

theorem ofBody_body (regular : r.Regular) : ofBody currentVersion r.body = r :=
  regular.aligned.ofBody_body regular.version

/-- A regular record is read back as it was written. -/
theorem decode_cons_body (regular : r.Regular) : decode (currentVersion :: r.body) = .ok r := by
  have long : Sizes.overhead ≤ (currentVersion :: r.body).length := by
    have := regular.tag
    rw [List.length_cons, regular.length_body]
    simp only [Sizes.overhead, Sizes.header, Sizes.version]
    omega
  rw [decode_cons long, regular.ofBody_body]

end Regular

/-- The record and the byte string are one and the same on the wire. Behind the version stand the
fields, each at its place. -/
structure OnWire (r : Record) (data : Bytes) : Prop where
  encode : r.encode = .ok data
  decode : Record.decode data = .ok r
  whole : data = 0 :: (r.keyId ++ r.ephemeralPoint ++ r.nonce ++ r.ciphertext)
  version : data.take 1 = [0]
  keyId : (data.drop 1).take 4 = r.keyId
  ephemeralPoint : (data.drop 5).take 64 = r.ephemeralPoint
  nonce : (data.drop 69).take 12 = r.nonce
  ciphertext : data.drop 81 = r.ciphertext

/-- The places are those at which reading cuts. -/
theorem Regular.onWire (regular : r.Regular) : r.OnWire (currentVersion :: r.body) where
  encode := regular.encode_eq
  decode := regular.decode_cons_body
  whole := rfl
  version := rfl
  keyId := congrArg Record.keyId regular.ofBody_body
  ephemeralPoint := congrArg Record.ephemeralPoint regular.ofBody_body
  nonce := congrArg Record.nonce regular.ofBody_body
  ciphertext := congrArg Record.ciphertext regular.ofBody_body

theorem take_payload_append_tag (r : Record) :
    r.ciphertext.take r.payloadLength.toNat ++ r.tag = r.ciphertext := by
  have same : r.payloadLength.toNat = r.ciphertext.length - Sizes.tag := by
    rw [payloadLength]
    omega
  rw [same, tag, List.take_append_drop]

/-- What a record says of the byte string that it was read from. -/
structure ReadFrom (r : Record) (data : Bytes) : Prop where
  encode : r.encode = .ok data
  version : r.version = 0
  keyId : r.keyId.length = 4
  ephemeralPoint : r.ephemeralPoint.length = 64
  nonce : r.nonce.length = 12
  ciphertext : 16 ≤ r.ciphertext.length
  payloadLength : r.payloadLength = data.length - 97
  payloadLength_nonneg : 0 ≤ r.payloadLength
  payload_append_tag : r.ciphertext.take r.payloadLength.toNat ++ r.tag = r.ciphertext
  tag : r.tag.length = 16

theorem readFrom_ofBody {rest : Bytes}
    (long : Sizes.overhead ≤ (currentVersion :: rest).length) :
    (ofBody currentVersion rest).ReadFrom (currentVersion :: rest) := by
  have regular := regular_ofBody long
  have room := regular.tag
  have size : rest.length =
      Sizes.keyId + Sizes.point + Sizes.nonce + (ofBody currentVersion rest).ciphertext.length := by
    rw [← regular.length_body, body_ofBody]
  simp only [Sizes.tag] at room
  simp only [Sizes.keyId, Sizes.point, Sizes.coordinate, Sizes.nonce] at size
  refine {
    encode := encode_ofBody _ _
    version := rfl
    keyId := regular.keyId
    ephemeralPoint := regular.ephemeralPoint
    nonce := regular.nonce
    ciphertext := room
    payloadLength := ?_
    payloadLength_nonneg := ?_
    payload_append_tag := take_payload_append_tag _
    tag := ?_ }
  · rw [payloadLength, Sizes.tag, List.length_cons]
    omega
  · rw [payloadLength, Sizes.tag]
    omega
  · rw [tag, List.length_drop, Sizes.tag]
    omega

theorem readFrom_of_decode_eq_ok (read : decode data = .ok r) : r.ReadFrom data := by
  rcases decode_cases data with ⟨-, outcome⟩ | ⟨long, version, rest, rfl, outcome⟩
  · rw [outcome] at read
    cases read
  · rcases outcome with ⟨-, outcome⟩ | ⟨rfl, outcome⟩
    · rw [outcome] at read
      cases read
    · rw [outcome] at read
      cases read
      exact readFrom_ofBody long

end Record

/-- A printed summary says of a record what the record itself says. -/
structure RecordInfo.Describes (info : RecordInfo) (r : Record) (data : Bytes) : Prop where
  totalLength : info.totalLength = data.length
  version : info.version = r.version
  payloadLength : info.payloadLength = r.payloadLength
  keyId : Hex.decode info.keyId = .ok r.keyId
  ephemeralPoint : Hex.decode info.ephemeralPoint = .ok r.ephemeralPoint
  nonce : Hex.decode info.nonce = .ok r.nonce

theorem RecordInfo.exists_describes {data : Bytes} {r : Record} (read : Record.decode data = .ok r) :
    ∃ info, RecordInfo.ofBytes data = .ok info ∧ info.Describes r data := by
  refine ⟨RecordSummary.info ⟨r.version, r.keyId, r.ephemeralPoint, r.nonce, r.payloadLength,
    data.length⟩, ?_, ?_⟩
  · rw [RecordInfo.ofBytes, RecordSummary.ofBytes, read]
    rfl
  · exact ⟨rfl, rfl, rfl, Hex.decode_encode _, Hex.decode_encode _, Hex.decode_encode _⟩

namespace Record

/-- Reading accepts what is long enough and of the current version, says of anything else which of
the two is amiss, and loses no byte of what it accepts. -/
theorem decode_exact (data : Bytes) :
    ((∃ r, decode data = .ok r) ↔ 97 ≤ data.length ∧ data.head? = some 0) ∧
      (∀ failure, decode data = .error failure → failure.category = .record ∧
        (data.length < 97 ∧ failure = .shortRecord data.length ∨
          97 ≤ data.length ∧ ∃ version, data.head? = some version ∧ version ≠ 0 ∧
            failure = .unknownVersion version)) ∧
      ∀ r, decode data = .ok r → r.ReadFrom data ∧
        ∃ info, RecordInfo.ofBytes data = .ok info ∧ info.Describes r data := by
  rcases decode_cases data with ⟨short, outcome⟩ | ⟨long, version, rest, rfl, outcome⟩
  · refine ⟨?_, ?_, ?_⟩
    · constructor
      · rintro ⟨r, read⟩
        rw [outcome] at read
        cases read
      · rintro ⟨long, -⟩
        exact absurd short (Nat.not_lt.mpr long)
    · intro failure failed
      rw [outcome] at failed
      cases failed
      exact ⟨rfl, .inl ⟨short, rfl⟩⟩
    · intro r read
      rw [outcome] at read
      cases read
  · rcases outcome with ⟨other, outcome⟩ | ⟨rfl, outcome⟩
    · refine ⟨?_, ?_, ?_⟩
      · constructor
        · rintro ⟨r, read⟩
          rw [outcome] at read
          cases read
        · rintro ⟨-, current⟩
          exact absurd (Option.some.inj current) other
      · intro failure failed
        rw [outcome] at failed
        cases failed
        exact ⟨rfl, .inr ⟨long, version, rfl, other, rfl⟩⟩
      · intro r read
        rw [outcome] at read
        cases read
    · refine ⟨⟨fun _ => ⟨long, rfl⟩, fun _ => ⟨_, outcome⟩⟩, ?_, ?_⟩
      · intro failure failed
        rw [outcome] at failed
        cases failed
      · intro r read
        exact ⟨readFrom_of_decode_eq_ok read, RecordInfo.exists_describes read⟩

example : decode (Bytes.zeros 96) = .error (.shortRecord 96) := by decide

example : decode (Bytes.zeros 97) =
    .ok ⟨0, Bytes.zeros 4, Bytes.zeros 64, Bytes.zeros 12, Bytes.zeros 16⟩ := by decide

end Record
end KeyExport

import KeyExport.Proofs.Record.Decoding
import KeyExport.Proofs.Secrecy.Action
import KeyExport.Record.Editing

set_option autoImplicit false

/-!
# What a record tells without its key

Two byte strings are alike on the wire when they have the same length and the same first five
bytes, which hold the version and the key id of a record. Reading such strings fails in the same way
or gives records with the same version, key id and sizes, also after both were tampered with in
the same way.
-/

namespace KeyExport

/-- The same length, and the same bytes up to the end of the key id. -/
structure WireAlike (a b : Bytes) : Prop where
  length : a.length = b.length
  front : a.take 5 = b.take 5

namespace WireAlike

variable {a b : Bytes}

theorem take (alike : WireAlike a b) (n : Nat) : WireAlike (a.take n) (b.take n) where
  length := by simp [alike.length]
  front := by rw [List.take_take, List.take_take, Nat.min_comm, ← List.take_take, alike.front,
    List.take_take]

theorem modify (alike : WireAlike a b) (i : Nat) (f : UInt8 → UInt8) :
    WireAlike (a.modify i f) (b.modify i f) where
  length := by simp [alike.length]
  front := by rw [List.take_modify, List.take_modify, alike.front]

theorem append (alike : WireAlike a b) (more : Bytes) : WireAlike (a ++ more) (b ++ more) where
  length := by simp [alike.length]
  front := by rw [List.take_append, List.take_append, alike.front, alike.length]

theorem foldl_modify (alike : WireAlike a b) (changes : List (Nat × UInt8)) :
    WireAlike (changes.foldl (fun bytes (i, mask) => bytes.modify i (· ^^^ mask)) a)
      (changes.foldl (fun bytes (i, mask) => bytes.modify i (· ^^^ mask)) b) := by
  induction changes generalizing a b with
  | nil => exact alike
  | cons change rest ih => exact ih (alike.modify change.1 (· ^^^ change.2))

theorem tampered (alike : WireAlike a b) (tampering : Tampering) :
    WireAlike (tampering.apply a) (tampering.apply b) := by
  rcases tampering with ⟨keep, altered, appended⟩
  apply append
  apply foldl_modify
  cases keep with
  | none => exact alike
  | some n => exact alike.take n

end WireAlike

/-- Records that differ at most in the contents of their point, nonce and ciphertext. -/
structure Record.Alike (r q : Record) : Prop where
  version : r.version = q.version
  keyId : r.keyId = q.keyId
  keyIdSize : r.keyId.length = Sizes.keyId
  ephemeralPoint : SameLength r.ephemeralPoint q.ephemeralPoint
  nonce : SameLength r.nonce q.nonce
  ciphertext : SameLength r.ciphertext q.ciphertext

structure RecordSummary.Alike (s t : RecordSummary) : Prop where
  version : s.version = t.version
  keyId : s.keyId = t.keyId
  ephemeralPoint : SameLength s.ephemeralPoint t.ephemeralPoint
  nonce : SameLength s.nonce t.nonce
  payloadLength : s.payloadLength = t.payloadLength
  totalLength : s.totalLength = t.totalLength

namespace Record

variable {r q : Record} {a b : Bytes}

theorem Alike.payloadLength (alike : r.Alike q) : r.payloadLength = q.payloadLength := by
  have size : r.ciphertext.length = q.ciphertext.length := alike.ciphertext
  simp only [Record.payloadLength, size]

theorem Alike.length_body (alike : r.Alike q) : r.body.length = q.body.length := by
  have point : r.ephemeralPoint.length = q.ephemeralPoint.length := alike.ephemeralPoint
  have nonce : r.nonce.length = q.nonce.length := alike.nonce
  have ciphertext : r.ciphertext.length = q.ciphertext.length := alike.ciphertext
  simp only [body, List.length_append, alike.keyId, point, nonce, ciphertext]

theorem take_body (size : r.keyId.length = Sizes.keyId) : r.body.take 4 = r.keyId := by
  rw [body, List.append_assoc, List.append_assoc]
  exact List.take_left' size

theorem Alike.encode (alike : r.Alike q) : ResultRel WireAlike r.encode q.encode := by
  have otherSize : q.keyId.length = Sizes.keyId := alike.keyId ▸ alike.keyIdSize
  have front : r.body.take 4 = q.body.take 4 := by
    rw [take_body alike.keyIdSize, take_body otherSize, alike.keyId]
  unfold Record.encode
  rw [alike.version]
  split
  · exact .ok ⟨by simp [alike.length_body], by simp [front]⟩
  · exact .error _

theorem alike_ofBody (version : UInt8) (size : a.length = b.length) (front : a.take 4 = b.take 4)
    (long : 4 ≤ a.length) : (ofBody version a).Alike (ofBody version b) where
  version := rfl
  keyId := front
  keyIdSize := List.length_take_of_le long
  ephemeralPoint := by simp [SameLength, ofBody, size]
  nonce := by simp [SameLength, ofBody, size]
  ciphertext := by simp [SameLength, ofBody, size]

end Record

variable {a b : Bytes}

theorem WireAlike.decode (alike : WireAlike a b) :
    ResultRel Record.Alike (Record.decode a) (Record.decode b) := by
  have size := alike.length
  rcases Record.decode_cases a with ⟨short, outcome⟩ | ⟨long, version, rest, rfl, outcome⟩
  · rw [outcome, Record.decode_of_short (size ▸ short), size]
    exact .error _
  · cases b with
    | nil => cases size
    | cons other otherRest =>
      have front := alike.front
      rw [List.take_succ_cons, List.take_succ_cons] at front
      injection front with first front
      subst first
      have otherLong : Sizes.overhead ≤ (version :: otherRest).length := size ▸ long
      rcases outcome with ⟨different, outcome⟩ | ⟨rfl, outcome⟩
      · rw [outcome, Record.decode_cons_of_ne otherLong different]
        exact .error _
      · rw [outcome, Record.decode_cons otherLong]
        have room : 96 ≤ rest.length := Nat.le_of_succ_le_succ long
        exact .ok (Record.alike_ofBody _ (Nat.succ.inj size) front (by omega))

theorem WireAlike.summary (alike : WireAlike a b) :
    ResultRel RecordSummary.Alike (RecordSummary.ofBytes a) (RecordSummary.ofBytes b) := by
  apply alike.decode.bind
  intro r q records
  exact .ok ⟨records.version, records.keyId, records.ephemeralPoint, records.nonce,
    records.payloadLength, alike.length⟩

end KeyExport

import KeyExport.Proofs.Session.Layout

set_option autoImplicit false

/-!
# What a session does not depend on

A scalar agrees with a point and with its opposite on one and the same secret, since their products
have one abscissa. So neither the sign of the recipient's point nor the key id has any influence on
the sealing key. The key id is copied into each record, and nothing else of a record tells it.
-/

namespace KeyExport

namespace Coordinates

/-- The point with the same abscissa on the other side of the axis. -/
def opposite (q : Coordinates) : Coordinates :=
  ⟨q.x, (Curve.p256.modulus - q.y) % Curve.p256.modulus⟩

theorem opposite_val (x y : Curve.p256.Field) : opposite ⟨x.val, y.val⟩ = ⟨x.val, (-y).val⟩ := by
  have below : y.val ≤ Curve.p256.modulus := y.isLt.le
  rw [opposite, Fin.val_neg']
  push_cast [below]
  rfl

end Coordinates

namespace Session

open Curve.Field

variable {s : Session} {keyId : Bytes} {e : Curve.p256.Scalar} {source : Source}

/-- The serialized key opens this session for the ephemeral scalar, given or drawn. -/
def OpenedBy (s : Session) (publicKey : Bytes) (e : Curve.p256.Scalar) : Prop :=
  ∀ (given : Option Curve.p256.Scalar) (source : Source), given.getD (source.ephemeral 0) = e →
    ∃ events, start publicKey (given.map .ofScalar) source = ⟨.ok s, events⟩

theorem openedBy_append (size : keyId.length = Sizes.keyId) {x y u v a b : Curve.p256.Field}
    (point : e.point = .affine u v) (onCurve : (Curve.Point.affine x y).OnCurve)
    (product : .multiple e.value (.affine x y) = Curve.Point.affine a b) :
    OpenedBy ⟨keyId, toBytes u ++ toBytes v, ⟨u.val, v.val⟩,
      Recipient.sealingKey (toBytes u ++ toBytes v) (toBytes a)⟩
      (keyId ++ (toBytes x ++ toBytes y)) e := by
  rintro given source rfl
  exact exists_start_eq (RecipientKey.decode_append size onCurve)
    (establish_ofScalar keyId point onCurve product source)

/-- The session under another key id. -/
def withKeyId (s : Session) (keyId : Bytes) : Session :=
  { s with keyId }

/-- What opens for a point opens for its opposite too, but for the key id. -/
theorem exists_openedBy_opposite {x y : Curve.p256.Field}
    (onCurve : (Curve.Point.affine x y).OnCurve) (e : Curve.p256.Scalar) {i j : Bytes}
    (size : i.length = Sizes.keyId) (otherSize : j.length = Sizes.keyId) :
    ∃ s : Session, s.Sound ∧ s.keyId = i ∧ s.OpenedBy (i ++ (toBytes x ++ toBytes y)) e ∧
      (s.withKeyId j).OpenedBy (j ++ (toBytes x ++ toBytes (-y))) e := by
  obtain ⟨u, v, point, -⟩ := e.exists_point_eq
  obtain ⟨a, b, product, -⟩ := e.exists_multiple_affine_eq onCurve
  have oppositeOnCurve : (Curve.Point.affine x (-y)).OnCurve := onCurve.neg
  have oppositeProduct : .multiple e.value (.affine x (-y)) = Curve.Point.affine a (-b) := by
    have opposite := Curve.Point.multiple_neg e.value onCurve
    rwa [product] at opposite
  refine ⟨_, ⟨size, ?_, length_sealingKey _ _⟩, rfl, openedBy_append size point onCurve product,
    openedBy_append otherSize point oppositeOnCurve oppositeProduct⟩
  rw [List.length_append, length_toBytes, length_toBytes]
  rfl

theorem Sound.withKeyId (sound : s.Sound) (size : keyId.length = Sizes.keyId) :
    (s.withKeyId keyId).Sound :=
  ⟨size, sound.token, sound.sealingKey⟩

/-- A record takes over the key id of its session, and is otherwise the same. -/
theorem encryptRecord_withKeyId (s : Session) (keyId : Bytes) (plaintext : Plaintext) :
    (s.withKeyId keyId).encryptRecord plaintext =
      (fun r : Record => { r with keyId }) <$> s.encryptRecord plaintext := by
  simp only [encryptRecord, Session.withKeyId, map_bind, map_pure]

/-- Behind the key id. -/
theorem drop_five_body {r : Record} (size : r.keyId.length = Sizes.keyId) (version : UInt8) :
    (version :: r.body).drop 5 = r.ephemeralPoint ++ r.nonce ++ r.ciphertext := by
  simp only [List.drop_succ_cons, Record.body, List.append_assoc]
  exact List.drop_left' size

/-- Two encryptions end alike and leave the same events behind: with one and the same failure, or
with two records that have these key ids in the bytes from 1 to 4 and are otherwise the same. -/
inductive Twins (i j : Bytes) : Outcome Bytes → Outcome Bytes → Prop
  | failed {failure events} : Twins i j ⟨.error failure, events⟩ ⟨.error failure, events⟩
  | sealed {first second events} (version : first.take 1 = second.take 1)
      (keyId : (first.drop 1).take 4 = i) (otherKeyId : (second.drop 1).take 4 = j)
      (rest : first.drop 5 = second.drop 5) : Twins i j ⟨.ok first, events⟩ ⟨.ok second, events⟩

theorem twins_encrypt (sound : s.Sound) (size : keyId.length = Sizes.keyId)
    (plaintext : Plaintext) (source : Source) :
    Twins s.keyId keyId (s.encrypt plaintext source)
      ((s.withKeyId keyId).encrypt plaintext source) := by
  have other := congrFun (encryptRecord_withKeyId s keyId plaintext) source
  rw [map_eq_pure_bind] at other
  rcases made : s.encryptRecord plaintext source with ⟨result, events⟩
  cases result with
  | error failure =>
    rw [Action.bind_eq_of_error made] at other
    rw [encrypt_eq_of_error made, encrypt_eq_of_error other]
    exact .failed
  | ok r =>
    obtain ⟨data, -, nonceSize, -, rfl, -⟩ := exists_sealed_of_encryptRecord_eq_ok sound made
    rw [Action.bind_pure_eq_of_ok made] at other
    have regular := regular_sealed sound nonceSize data
    have otherRegular := regular_sealed (sound.withKeyId size) nonceSize data
    have sameLength : ((s.withKeyId keyId).sealed (source.nonce 0) data).body.length =
        (s.sealed (source.nonce 0) data).body.length := by
      rw [regular.length_body, otherRegular.length_body]
      rfl
    rw [encrypt_eq_of_ok regular made, encrypt_eq_of_ok otherRegular other, sameLength]
    refine .sealed rfl regular.onWire.keyId otherRegular.onWire.keyId ?_
    rw [drop_five_body regular.keyId, drop_five_body otherRegular.keyId]
    rfl

/-- With a point that passes the check its opposite passes too. Whatever the two key ids and the
ephemeral scalar, the sessions for both have the same token and the same sealing key, and what they
encrypt under the same nonce is the same but for the key id; with a nonce of the right size, every
byte string that the cipher takes is encrypted. -/
theorem keyId_and_sign_unbound {q : Coordinates} (checked : q.check = .ok q) :
    q.opposite.check = .ok q.opposite ∧
      ∃ point opposite, q.encode = .ok point ∧ q.opposite.encode = .ok opposite ∧
        ∀ (i j : Bytes) (e : Curve.p256.Scalar), i.length = 4 → j.length = 4 →
          ∃ s t : Session, s.OpenedBy (i ++ point) e ∧ t.OpenedBy (j ++ opposite) e ∧
            s.keyId = i ∧ t.keyId = j ∧ s.token = t.token ∧ s.sealingKey = t.sealingKey ∧
            (∀ plaintext, t.encryptRecord plaintext =
              (fun r : Record => { r with keyId := j }) <$> s.encryptRecord plaintext) ∧
            (∀ plaintext source,
              Twins i j (s.encrypt plaintext source) (t.encrypt plaintext source)) ∧
            ∀ (data : Bytes) (source : Source), (source.nonce 0).length = 12 →
              data.length ≤ 2 ^ 31 - 1 →
              ∃ record log, s.encrypt (.bytes data) source = ⟨.ok record, log⟩ := by
  obtain ⟨x, y, rfl, onCurve⟩ := Coordinates.exists_val_of_check_eq_ok checked
  have oppositeOnCurve : (Curve.Point.affine x (-y)).OnCurve := onCurve.neg
  rw [Coordinates.opposite_val]
  refine ⟨Coordinates.check_val oppositeOnCurve, toBytes x ++ toBytes y, toBytes x ++ toBytes (-y),
    Coordinates.encode_natCast (Coordinates.val_lt x) (Coordinates.val_lt y),
    Coordinates.encode_natCast (Coordinates.val_lt x) (Coordinates.val_lt (-y)), ?_⟩
  intro i j e size otherSize
  obtain ⟨s, sound, rfl, opened, otherOpened⟩ :=
    exists_openedBy_opposite onCurve e size otherSize
  refine ⟨s, s.withKeyId j, opened, otherOpened, rfl, rfl, rfl, rfl,
    encryptRecord_withKeyId s j, twins_encrypt sound otherSize, ?_⟩
  intro data source nonceSize short
  exact ⟨_, _, encrypt_eq_sealed sound nonceSize short⟩

/-- The generator and its opposite under two key ids, with the scalar one drawn for the first session
and given for the second. -/
theorem keyId_and_sign_unbound_generator :
    let q : Coordinates := ⟨Curve.p256.generatorX, Curve.p256.generatorY⟩
    let source : Source := .constant (Bytes.zeros 12) .one
    q.check = .ok q ∧ ∃ (point opposite : Bytes) (s t : Session) (first second : Bytes)
        (log : List Event), q.encode = .ok point ∧ q.opposite.encode = .ok opposite ∧
        s.OpenedBy (Bytes.zeros 4 ++ point) .one ∧ t.OpenedBy ([1, 2, 3, 4] ++ opposite) .one ∧
        s.sealingKey = t.sealingKey ∧ s.encrypt (.bytes [5]) source = ⟨.ok first, log⟩ ∧
        t.encrypt (.bytes [5]) source = ⟨.ok second, log⟩ ∧ (first.drop 1).take 4 = Bytes.zeros 4 ∧
        (second.drop 1).take 4 = [1, 2, 3, 4] ∧ first.drop 5 = second.drop 5 := by
  intro q source
  have checked : q.check = .ok q := by decide
  obtain ⟨-, point, opposite, encoded, oppositeEncoded, sessions⟩ := keyId_and_sign_unbound checked
  obtain ⟨s, t, opened, otherOpened, -, -, -, sameKey, -, twins, written⟩ :=
    sessions (Bytes.zeros 4) [1, 2, 3, 4] .one rfl rfl
  obtain ⟨first, log, outcome⟩ := written [5] source rfl (by decide)
  have twin := twins (.bytes [5]) source
  rcases otherOutcome : t.encrypt (.bytes [5]) source with ⟨result, events⟩
  rw [outcome, otherOutcome] at twin
  cases twin with
  | sealed version keyId otherKeyId rest =>
    exact ⟨checked, point, opposite, s, t, first, _, log, encoded, oppositeEncoded, opened,
      otherOpened, sameKey, outcome, otherOutcome, keyId, otherKeyId, rest⟩

end Session
end KeyExport

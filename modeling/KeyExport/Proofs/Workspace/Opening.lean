import KeyExport.Proofs.Session.Opening
import KeyExport.Workspace

set_option autoImplicit false

/-!
# Draws of an opening

Whatever way a session is opened, no nonce is drawn. An ephemeral key is drawn exactly when none
is given and the public key can be parsed, and then the session works with that key.
-/

namespace KeyExport

namespace Session

variable {publicKey : Bytes} {source : Source} {s : Session} {events : List Event}

theorem closed_start_some (publicKey : Bytes) (key : PrivateKey) :
    (start publicKey (some key)).Closed := by
  rw [start]
  exact (Action.closed_ofExcept _).bind fun _ =>
    (Action.closed_pure _).bind fun _ => closed_establish _ _

theorem sound_of_start_eq_ok {given : Option PrivateKey}
    (h : start publicKey given source = ⟨.ok s, events⟩) : s.Sound := by
  rw [start] at h
  obtain ⟨recipient, decoded, h⟩ := Action.ofExcept_bind_eq_ok h
  obtain ⟨key, _, _, -, h, -⟩ := Action.exists_of_bind_ok h
  exact sound_of_establish_eq_ok (RecipientKey.valid_of_decode_eq_ok decoded).keyId h

theorem ephemeral_of_start_none_eq_ok (h : start publicKey none source = ⟨.ok s, events⟩) :
    s.ephemeral = (PrivateKey.ofScalar (source.ephemeral 0)).publicCoordinates := by
  rw [start] at h
  obtain ⟨recipient, decoded, h⟩ := Action.ofExcept_bind_eq_ok h
  obtain ⟨key, _, _, drawn, h, -⟩ := Action.exists_of_bind_ok h
  cases drawn
  exact (exists_of_establish_eq_ok h).2.1

theorem count_nonce_start (publicKey : Bytes) (given : Option PrivateKey) (source : Source) :
    (start publicKey given source).events.count (.drew .nonce) = 0 := by
  cases given with
  | some key => exact (closed_start_some publicKey key).count_draw source .nonce
  | none =>
    cases decoded : RecipientKey.decode publicKey with
    | error failure =>
      rw [start_of_decode_eq_error decoded]
      rfl
    | ok recipient =>
      rw [start_none_apply decoded, List.count_cons_of_ne (by simp)]
      exact (closed_establish _ _).count_draw source .nonce

theorem count_ephemeral_start_none (publicKey : Bytes) (source : Source) :
    (start publicKey none source).events.count (.drew .ephemeral) =
      if (RecipientKey.decode publicKey).isOk then 1 else 0 := by
  cases decoded : RecipientKey.decode publicKey with
  | error failure =>
    rw [start_of_decode_eq_error decoded]
    rfl
  | ok recipient =>
    have later := (closed_establish recipient (.ofScalar (source.ephemeral 0))).count_draw source
      .ephemeral
    rw [start_none_apply decoded, List.count_cons_self, later]
    rfl

end Session

namespace Opening

/-- The serialized public key of an opening. -/
def publicKey : Opening → Except Failure Bytes
  | .bytes publicKey _ => .ok publicKey
  | .hex text => Hex.decode text
  | .recipient key _ => key.encode

def given? : Opening → Option KeyMaterial
  | .bytes _ ephemeral | .recipient _ ephemeral => ephemeral
  | .hex _ => none

/-- No ephemeral key is given, and the public key can be parsed. -/
def fresh (opening : Opening) : Bool :=
  opening.given?.isNone && (opening.publicKey >>= RecipientKey.decode).isOk

theorem start_eq (opening : Opening) :
    opening.start = .ofExcept (decodeEphemeral opening.given?) >>= fun given =>
      .ofExcept opening.publicKey >>= fun publicKey => Session.start publicKey given := by
  cases opening <;> rfl

variable {opening : Opening} {source : Source} {s : Session} {events : List Event}

theorem exists_of_start_eq_ok (h : opening.start source = ⟨.ok s, events⟩) :
    ∃ given publicKey, decodeEphemeral opening.given? = .ok given ∧
      opening.publicKey = .ok publicKey ∧
      Session.start publicKey given source = ⟨.ok s, events⟩ := by
  rw [start_eq] at h
  obtain ⟨given, decoded, h⟩ := Action.ofExcept_bind_eq_ok h
  obtain ⟨publicKey, written, h⟩ := Action.ofExcept_bind_eq_ok h
  exact ⟨given, publicKey, decoded, written, h⟩

theorem sound_of_start_eq_ok (h : opening.start source = ⟨.ok s, events⟩) : s.Sound := by
  obtain ⟨given, publicKey, -, -, started⟩ := exists_of_start_eq_ok h
  exact Session.sound_of_start_eq_ok started

theorem ephemeral_of_start_eq_ok (fresh : opening.fresh)
    (h : opening.start source = ⟨.ok s, events⟩) :
    s.ephemeral = (PrivateKey.ofScalar (source.ephemeral 0)).publicCoordinates := by
  have ungiven : opening.given? = none := by
    simp only [Opening.fresh, Bool.and_eq_true, Option.isNone_iff_eq_none] at fresh
    exact fresh.1
  obtain ⟨given, publicKey, decoded, -, started⟩ := exists_of_start_eq_ok h
  rw [ungiven] at decoded
  cases decoded
  exact Session.ephemeral_of_start_none_eq_ok started

theorem count_nonce_start (opening : Opening) (source : Source) :
    (opening.start source).events.count (.drew .nonce) = 0 := by
  rw [start_eq]
  cases decodeEphemeral opening.given? with
  | error failure => rfl
  | ok given =>
    cases opening.publicKey with
    | error failure => rfl
    | ok publicKey => exact Session.count_nonce_start publicKey given source

theorem count_ephemeral_start (opening : Opening) (source : Source) :
    (opening.start source).events.count (.drew .ephemeral) = if opening.fresh then 1 else 0 := by
  rw [start_eq, fresh]
  cases opening.given? with
  | none =>
    cases opening.publicKey with
    | error failure => rfl
    | ok publicKey => exact Session.count_ephemeral_start_none publicKey source
  | some material =>
    cases decoded : material.decode with
    | error failure =>
      simp only [decodeEphemeral, decoded]
      rfl
    | ok key =>
      simp only [decodeEphemeral, decoded]
      cases opening.publicKey with
      | error failure => rfl
      | ok publicKey => exact (Session.closed_start_some publicKey key).count_draw source .ephemeral

end Opening
end KeyExport

import KeyExport.Proofs.Workspace.Step

set_option autoImplicit false

/-!
# What effects draw and hand out

A nonce is drawn for each byte string that an open session is asked to encrypt, and an ephemeral
key for each session that needs one of its own. What is handed out carries what was drawn for it.
-/

namespace KeyExport

/-- A session is to be opened with an ephemeral key of its own. -/
def Command.opensFresh : Command → Bool
  | .openSession _ opening => opening.fresh
  | _ => false

theorem Command.opensFresh_eq_false {command : Command}
    (unopened : ∀ slot opening, command ≠ .openSession slot opening) :
    command.opensFresh = false := by
  cases command with
  | openSession slot opening => exact absurd rfl (unopened slot opening)
  | encrypt slot plaintext => rfl
  | encryptRecord slot plaintext => rfl
  | inspect slot => rfl
  | tamper record tampering => rfl

namespace Workspace

variable {w next : Workspace} {source : Source} {command : Command} {reply : Reply}
  {events : List Event}

theorem opensFresh_of_sealing?_eq_some {s : Session} {data : Bytes}
    (asked : w.sealing? command = some (s, data)) : command.opensFresh = false := by
  apply Command.opensFresh_eq_false
  rintro slot opening rfl
  cases asked

namespace Effect

theorem sound (effect : w.Effect source command next reply events) (sound : w.Sound) :
    next.Sound := by
  cases effect with
  | @opened slot _ s _ _ outcome =>
    intro other t found
    by_cases same : other = slot
    · subst same
      rw [session?_putSession] at found
      cases found
      exact Opening.sound_of_start_eq_ok outcome
    · rw [session?_putSession_of_ne _ _ same] at found
      exact sound other t found
  | unopened => exact sound
  | wrongNonce => exact sound
  | tooLong => exact sound
  | sealed => exact sound
  | idle => exact sound

theorem count_nonce (effect : w.Effect source command next reply events) :
    events.count (.drew .nonce) = if (w.sealing? command).isSome then 1 else 0 := by
  cases effect with
  | @opened _ opening _ _ asked outcome =>
    subst asked
    have drawn := Opening.count_nonce_start opening source
    rw [outcome] at drawn
    exact drawn
  | @unopened _ opening _ _ asked outcome =>
    subst asked
    have drawn := Opening.count_nonce_start opening source
    rw [outcome] at drawn
    exact drawn
  | wrongNonce asked => simp [asked]
  | tooLong asked => simp [asked]
  | sealed asked _ _ _ drawless =>
    rw [asked, List.count_cons_self, List.count_eq_zero.mpr (drawless .nonce)]
    rfl
  | idle unasked => simp [unasked]

theorem count_ephemeral (effect : w.Effect source command next reply events) :
    events.count (.drew .ephemeral) = if command.opensFresh then 1 else 0 := by
  cases effect with
  | @opened _ opening _ _ asked outcome =>
    subst asked
    have drawn := Opening.count_ephemeral_start opening source
    rw [outcome] at drawn
    exact drawn
  | @unopened _ opening _ _ asked outcome =>
    subst asked
    have drawn := Opening.count_ephemeral_start opening source
    rw [outcome] at drawn
    exact drawn
  | wrongNonce asked => simp [opensFresh_of_sealing?_eq_some asked]
  | tooLong asked => simp [opensFresh_of_sealing?_eq_some asked]
  | sealed asked _ _ _ drawless =>
    rw [opensFresh_of_sealing?_eq_some asked, List.count_cons_of_ne (by simp),
      List.count_eq_zero.mpr (drawless .ephemeral)]
    rfl
  | idle _ unopened => simp [Command.opensFresh_eq_false unopened]

/-- A nonce of another size is used up all the same, and nothing comes of it. -/
theorem failed_of_wrong_nonce (effect : w.Effect source command next reply events)
    (asked : (w.sealing? command).isSome) (wrong : (source.nonce 0).length ≠ Sizes.nonce) :
    next = w ∧ reply = .failed (.nonceSize (source.nonce 0).length) := by
  cases effect with
  | opened opening =>
    subst opening
    cases asked
  | unopened opening =>
    subst opening
    cases asked
  | wrongNonce => exact ⟨rfl, rfl⟩
  | tooLong _ nonceSize => exact absurd nonceSize wrong
  | sealed _ nonceSize => exact absurd nonceSize wrong
  | idle unasked =>
    rw [unasked] at asked
    cases asked

/-- A record is handed out for a short enough byte string under a nonce of the right size, or none
is. -/
theorem sealed_or_none (effect : w.Effect source command next reply events) :
    (∃ s data, w.sealing? command = some (s, data) ∧ (source.nonce 0).length = Sizes.nonce ∧
      data.length ≤ Sealing.maxPlaintext ∧
      reply.record? = some (s.sealed (source.nonce 0) data)) ∨
      reply.record? = none ∧ reply.wire? = none := by
  cases effect with
  | opened => exact .inr ⟨rfl, rfl⟩
  | unopened => exact .inr ⟨rfl, rfl⟩
  | wrongNonce => exact .inr ⟨rfl, rfl⟩
  | tooLong => exact .inr ⟨rfl, rfl⟩
  | sealed asked nonceSize short answer => exact .inl ⟨_, _, asked, nonceSize, short, answer⟩
  | idle _ _ quiet => exact .inr ⟨quiet.record?_eq_none, quiet.wire?_eq_none⟩

/-- Every record that is handed out carries the nonce that its own command drew. -/
theorem nonce_of_record? (effect : w.Effect source command next reply events) {r : Record}
    (handed : reply.record? = some r) :
    (w.sealing? command).isSome ∧ (source.nonce 0).length = Sizes.nonce ∧
      r.nonce = source.nonce 0 := by
  rcases effect.sealed_or_none with ⟨s, data, asked, nonceSize, -, answer⟩ | ⟨nothing, -⟩
  · rw [answer] at handed
    cases handed
    exact ⟨by simp [asked], nonceSize, rfl⟩
  · rw [nothing] at handed
    cases handed

theorem exists_record?_of_bytes (effect : w.Effect source command next reply events)
    {data : Bytes} (written : reply = .bytes data) : ∃ r, Record.decode data = .ok r := by
  subst written
  rcases effect.sealed_or_none with ⟨s, _, -, -, -, answer⟩ | ⟨-, nothing⟩
  · cases decoded : Record.decode data with
    | ok r => exact ⟨r, rfl⟩
    | error failure =>
      rw [Reply.record?, decoded] at answer
      cases answer
  · cases nothing

theorem ephemeral_of_session (effect : w.Effect source command next reply events) {s : Session}
    (fresh : command.opensFresh) (opened : reply = .session s) :
    s.ephemeral = (PrivateKey.ofScalar (source.ephemeral 0)).publicCoordinates := by
  cases effect with
  | opened asked outcome =>
    subst asked
    cases opened
    exact Opening.ephemeral_of_start_eq_ok fresh outcome
  | unopened => cases opened
  | wrongNonce => cases opened
  | tooLong => cases opened
  | sealed asked =>
    rw [opensFresh_of_sealing?_eq_some asked] at fresh
    cases fresh
  | idle _ _ quiet =>
    subst opened
    cases quiet

end Effect
end Workspace
end KeyExport

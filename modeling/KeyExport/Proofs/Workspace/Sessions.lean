import KeyExport.Proofs.Session.Invariant
import KeyExport.Proofs.Workspace.Ledger

set_option autoImplicit false

/-!
# The sessions of a run

Opening a session is the only command that changes what stands under a name. So the session found
under a name is, field for field, the one that was last opened under it (`session?_of_history_eq`),
and it holds what its opening determined, whatever was encrypted since.
-/

namespace KeyExport

/-- The session that a command opened under a name, going by its reply. -/
def opened? (slot : String) : Command → Reply → Option Session
  | .openSession name _, .session s => if name = slot then some s else none
  | _, _ => none

section Opened

variable {slot : String} {command : Command} {reply : Reply} {s : Session}

theorem opened?_eq_none (unopened : ∀ name opening, command ≠ .openSession name opening) :
    opened? slot command reply = none := by
  cases command with
  | openSession name opening => exact absurd rfl (unopened name opening)
  | _ => rfl

@[simp] theorem opened?_failed (slot : String) (command : Command) (failure : Failure) :
    opened? slot command (.failed failure) = none := by
  cases command <;> rfl

@[simp] theorem opened?_openSession (slot name : String) (opening : Opening) (s : Session) :
    opened? slot (.openSession name opening) (.session s) = if name = slot then some s else none :=
  rfl

theorem exists_of_opened?_eq_some (h : opened? slot command reply = some s) :
    ∃ opening, command = .openSession slot opening ∧ reply = .session s := by
  cases command with
  | openSession name opening =>
    cases reply with
    | session t =>
      simp only [opened?_openSession, Option.ite_none_right_eq_some, Option.some.injEq] at h
      obtain ⟨rfl, rfl⟩ := h
      exact ⟨opening, rfl, rfl⟩
    | _ => cases h
  | _ => cases h

end Opened

namespace Workspace.Effect

variable {w next : Workspace} {source : Source} {command : Command} {reply : Reply}
  {events : List Event}

/-- What stands under a name after a command is what the command opened there, or else what stood
there before. -/
theorem session?_next (effect : w.Effect source command next reply events) (slot : String) :
    next.session? slot = (opened? slot command reply).or (w.session? slot) := by
  cases effect with
  | @opened name _ s _ asked outcome =>
    subst asked
    by_cases same : name = slot
    · simp [same]
    · simp [same, session?_putSession_of_ne w s (Ne.symm same)]
  | unopened => simp
  | wrongNonce => simp
  | tooLong => simp
  | sealed asked =>
    have unopened : ∀ name opening, command ≠ .openSession name opening := by
      rintro name opening rfl
      cases asked
    simp [opened?_eq_none unopened]
  | idle _ unopened => simp [opened?_eq_none unopened]

theorem start_of_opened (effect : w.Effect source command next reply events) {slot : String}
    {opening : Opening} {s : Session} (asked : command = .openSession slot opening)
    (opened : reply = .session s) : opening.start source = ⟨.ok s, events⟩ := by
  cases effect with
  | opened sameAsked outcome =>
    cases opened
    cases asked.symm.trans sameAsked
    exact outcome
  | unopened => cases opened
  | wrongNonce => cases opened
  | tooLong => cases opened
  | sealed sealing =>
    subst asked
    cases sealing
  | idle _ unopened => exact absurd asked (unopened slot opening)

end Workspace.Effect

namespace Opening

/-- The ephemeral key of an opening: the given one, or the next one of the source. -/
def key (opening : Opening) (source : Source) : Except Failure PrivateKey :=
  match opening.given? with
  | none => .ok (.ofScalar (source.ephemeral 0))
  | some material => material.decode

theorem key_eq_ok {opening : Opening} {given : Option PrivateKey} (source : Source)
    (decoded : decodeEphemeral opening.given? = .ok given) :
    opening.key source = .ok (given.getD (.ofScalar (source.ephemeral 0))) := by
  unfold key
  cases material : opening.given? with
  | none =>
    rw [material] at decoded
    cases decoded
    rfl
  | some given =>
    rw [material] at decoded
    cases read : given.decode with
    | error failure => simp [decodeEphemeral, read, Except.map] at decoded
    | ok key =>
      simp only [decodeEphemeral, read, Except.map, Except.ok.injEq] at decoded
      subst decoded
      exact read

theorem exists_agreed_of_start_eq_ok {opening : Opening} {source : Source} {s : Session}
    {events : List Event} (h : opening.start source = ⟨.ok s, events⟩) :
    ∃ publicKey recipient e, opening.publicKey = .ok publicKey ∧
      RecipientKey.decode publicKey = .ok recipient ∧ opening.key source = .ok (.ofScalar e) ∧
      s.Agreed recipient e := by
  obtain ⟨given, publicKey, decoded, written, started⟩ := exists_of_start_eq_ok h
  obtain ⟨recipient, e, parsed, used, agreed⟩ := Session.exists_agreed_of_start_eq_ok started
  refine ⟨publicKey, recipient, e, written, parsed, ?_, agreed⟩
  rw [key_eq_ok source decoded, used]

end Opening

namespace Moment

def opened? (slot : String) (m : Moment) : Option Session :=
  KeyExport.opened? slot m.command m.reply

theorem session?_after {m : Moment} (sound : m.before.Sound) (slot : String) :
    m.after.session? slot = (m.opened? slot).or (m.before.session? slot) :=
  (effect sound).session?_next slot

/-- The last moment that opened a session under the name. -/
def opener? (slot : String) (earlier : List Moment) : Option Moment :=
  earlier.reverse.find? fun m => (m.opened? slot).isSome

@[simp] theorem opener?_nil (slot : String) : opener? slot [] = none := rfl

theorem opener?_cons (slot : String) (m : Moment) (later : List Moment) :
    opener? slot (m :: later) =
      (opener? slot later).or (if (m.opened? slot).isSome then some m else none) := by
  rw [opener?, List.reverse_cons, List.find?_append, List.find?_singleton]
  rfl

theorem mem_of_opener?_eq_some {slot : String} {earlier : List Moment} {o : Moment}
    (h : opener? slot earlier = some o) : o ∈ earlier ∧ (o.opened? slot).isSome := by
  unfold opener? at h
  have opened := List.find?_some h
  exact ⟨List.mem_reverse.mp (List.mem_of_find?_eq_some h), opened⟩

/-- Looking for the last opening and then at its session is looking at a moment only when no later
one opened a session. -/
theorem bind_opener?_cons (slot : String) (m : Moment) (later : List Moment) :
    (opener? slot (m :: later)).bind (opened? slot) =
      ((opener? slot later).bind (opened? slot)).or (m.opened? slot) := by
  rw [opener?_cons]
  cases last : opener? slot later with
  | none => cases session : m.opened? slot <;> simp [session]
  | some o =>
    obtain ⟨s, session⟩ := Option.isSome_iff_exists.mp (mem_of_opener?_eq_some last).2
    simp [session]

/-- The moment opened the session under the name, for the serialized key and with the scalar. -/
structure Opened (o : Moment) (slot : String) (s : Session) (publicKey : Bytes)
    (e : Curve.p256.Scalar) : Prop where
  reply : o.reply = .session s
  opening : ∃ opening, o.command = .openSession slot opening ∧
    opening.publicKey = .ok publicKey ∧ opening.key o.source = .ok (.ofScalar e)

theorem exists_opened {o : Moment} (sound : o.before.Sound) {slot : String} {s : Session}
    (opened : o.opened? slot = some s) :
    ∃ publicKey recipient e, o.Opened slot s publicKey e ∧
      RecipientKey.decode publicKey = .ok recipient ∧ s.Agreed recipient e := by
  obtain ⟨opening, command, reply⟩ := exists_of_opened?_eq_some opened
  have started := (effect sound).start_of_opened command reply
  obtain ⟨publicKey, recipient, e, written, decoded, used, agreed⟩ :=
    Opening.exists_agreed_of_start_eq_ok started
  exact ⟨publicKey, recipient, e, ⟨reply, opening, command, written, used⟩, decoded, agreed⟩

end Moment

namespace Workspace

variable {w : Workspace} {commands : List Command} {source : Source} {m : Moment}
  {earlier later : List Moment} {slot : String} {s : Session}

/-- Under a name stands what was last opened there. -/
theorem session?_of_history_eq (sound : w.Sound)
    (split : w.history commands source = earlier ++ m :: later) (slot : String) :
    m.before.session? slot =
      ((Moment.opener? slot earlier).bind (Moment.opened? slot)).or (w.session? slot) := by
  induction earlier generalizing w commands source with
  | nil =>
    obtain ⟨-, before, -, -⟩ := exists_of_history_eq_cons split
    simp [before]
  | cons first others ih =>
    obtain ⟨rest, before, -, tail⟩ := exists_of_history_eq_cons split
    have soundAt : first.before.Sound := by
      rw [before]
      exact sound
    have still := ih ((Moment.effect soundAt).sound soundAt) tail
    rw [still, Moment.session?_after soundAt, before, Moment.bind_opener?_cons, Option.or_assoc]

/-- In a run that starts with nothing, every session was opened by an earlier moment. -/
theorem exists_opener (split : empty.history commands source = earlier ++ m :: later)
    (found : m.before.session? slot = some s) :
    ∃ o publicKey recipient e, Moment.opener? slot earlier = some o ∧
      o.Opened slot s publicKey e ∧ RecipientKey.decode publicKey = .ok recipient ∧
      s.Agreed recipient e := by
  rw [session?_of_history_eq sound_empty split, session?_empty, Option.or_none,
    Option.bind_eq_some_iff] at found
  obtain ⟨o, last, opened⟩ := found
  have mem : o ∈ empty.history commands source := by
    rw [split]
    exact List.mem_append_left _ (Moment.mem_of_opener?_eq_some last).1
  obtain ⟨publicKey, recipient, e, wasOpened, decoded, agreed⟩ :=
    Moment.exists_opened (sound_of_mem_history sound_empty mem) opened
  exact ⟨o, publicKey, recipient, e, last, wasOpened, decoded, agreed⟩

/-- A session that opens holds what its serialized key and its ephemeral key determine, and the
ephemeral key is one of P-256; no other key opens a session. Whatever is encrypted afterwards, with
success or without, changes no session: at any moment of a run, a session that stands under a name
is the one that was last opened under it, and still holds what it held then. -/
theorem sessions_hold :
    (∀ (publicKey : Bytes) (given : Option PrivateKey) (source : Source) (s : Session)
      (events : List Event), Session.start publicKey given source = ⟨.ok s, events⟩ →
        ∃ e, given.getD (.ofScalar (source.ephemeral 0)) = .ofScalar e ∧ s.Holds publicKey e) ∧
      (∀ (publicKey : Bytes) (key : PrivateKey) (source : Source) (s : Session)
        (events : List Event), key.curve ≠ .p256 →
          Session.start publicKey (some key) source ≠ ⟨.ok s, events⟩) ∧
      ∀ (commands : List Command) (source : Source) (earlier : List Moment) (m : Moment)
        (later : List Moment), empty.history commands source = earlier ++ m :: later →
          (∀ slot s, m.before.session? slot = some s → ∃ o publicKey e,
            Moment.opener? slot earlier = some o ∧ o.Opened slot s publicKey e ∧
              s.Holds publicKey e) ∧
          ∀ slot plaintext, m.command = .encrypt slot plaintext ∨
            m.command = .encryptRecord slot plaintext →
              ∀ other, m.after.session? other = m.before.session? other := by
  refine ⟨?_, ?_, ?_⟩
  · intro publicKey given source s events opened
    exact Session.exists_holds_of_start_eq_ok opened
  · intro publicKey key source s events foreign
    exact Session.start_some_ne_ok foreign publicKey source s events
  · intro commands source earlier m later split
    refine ⟨?_, ?_⟩
    · intro slot s found
      obtain ⟨o, publicKey, recipient, e, last, opened, decoded, agreed⟩ :=
        exists_opener split found
      exact ⟨o, publicKey, e, last, opened, agreed.holds decoded⟩
    · intro slot plaintext asked other
      have sound : m.before.Sound := sound_of_mem_history sound_empty (by rw [split]; simp)
      have unopened : ∀ name opening, m.command ≠ .openSession name opening := by
        rcases asked with asked | asked <;> simp [asked]
      rw [Moment.session?_after sound, Moment.opened?, opened?_eq_none unopened, Option.none_or]

end Workspace
end KeyExport

import KeyExport.Proofs.Session.Encryption
import KeyExport.Proofs.Workspace.Opening

set_option autoImplicit false

/-!
# Steps of a workspace

`Workspace.Effect` says all that a command can do: whom it asks, what it draws, how it answers and
what it leaves behind. A workspace with sound sessions steps by one of these effects.
-/

namespace KeyExport

/-- The record that a reply hands out, as it stands or as it was written. -/
def Reply.record? : Reply → Option Record
  | .bytes data => (Record.decode data).toOption
  | .record r => some r
  | _ => none

/-- The bytes that a reply hands out, written for an unserialized record. -/
def Reply.wire? : Reply → Option Bytes
  | .bytes data => some data
  | .record r => r.encode.toOption
  | _ => none

/-- A reply that hands out neither a session nor a record. -/
def Reply.Quiet : Reply → Prop
  | .session _ | .bytes _ | .record _ => False
  | _ => True

theorem Reply.Quiet.record?_eq_none {reply : Reply} (quiet : reply.Quiet) :
    reply.record? = none := by
  cases reply with
  | session => cases quiet
  | bytes => cases quiet
  | record => cases quiet
  | _ => rfl

theorem Reply.Quiet.wire?_eq_none {reply : Reply} (quiet : reply.Quiet) : reply.wire? = none := by
  cases reply with
  | bytes => cases quiet
  | record => cases quiet
  | _ => rfl

namespace Workspace

/-- The open session and the byte string of a command that encrypts. -/
def sealing? (w : Workspace) : Command → Option (Session × Bytes)
  | .encrypt slot (.bytes data) | .encryptRecord slot (.bytes data) =>
    (w.session? slot).map (·, data)
  | _ => none

/-- What a command can do to a workspace, draw, and answer. -/
inductive Effect (w : Workspace) (source : Source) (command : Command) :
    Workspace → Reply → List Event → Prop where
  | opened {slot : String} {opening : Opening} {s : Session} {events : List Event}
      (asked : command = .openSession slot opening)
      (outcome : opening.start source = ⟨.ok s, events⟩) :
      Effect w source command (w.putSession slot s) (.session s) events
  | unopened {slot : String} {opening : Opening} {failure : Failure} {events : List Event}
      (asked : command = .openSession slot opening)
      (outcome : opening.start source = ⟨.error failure, events⟩) :
      Effect w source command w (.failed failure) events
  | wrongNonce {s : Session} {data : Bytes} (asked : w.sealing? command = some (s, data))
      (wrong : (source.nonce 0).length ≠ Sizes.nonce) :
      Effect w source command w (.failed (.nonceSize (source.nonce 0).length)) [.drew .nonce]
  | tooLong {s : Session} {data : Bytes} (asked : w.sealing? command = some (s, data))
      (nonceSize : (source.nonce 0).length = Sizes.nonce)
      (long : Sealing.maxPlaintext < data.length) :
      Effect w source command w (.failed Sealing.tooLong) [.drew .nonce, .computed .cipher]
  | sealed {s : Session} {data : Bytes} {reply : Reply} {log : List Event}
      (asked : w.sealing? command = some (s, data))
      (nonceSize : (source.nonce 0).length = Sizes.nonce)
      (short : data.length ≤ Sealing.maxPlaintext)
      (answer : reply.record? = some (s.sealed (source.nonce 0) data))
      (drawless : ∀ draw, .drew draw ∉ log) :
      Effect w source command
        (w.addRecord (Record.currentVersion :: (s.sealed (source.nonce 0) data).body)) reply
        (.drew .nonce :: log)
  | idle {reply : Reply} (unasked : w.sealing? command = none)
      (unopened : ∀ slot opening, command ≠ .openSession slot opening) (quiet : reply.Quiet) :
      Effect w source command w reply []

/-- Every session that can be addressed is sound. -/
def Sound (w : Workspace) : Prop :=
  ∀ slot s, w.session? slot = some s → s.Sound

variable {w next : Workspace} {source : Source} {command : Command} {reply : Reply}
  {events : List Event} {slot : String} {plaintext : Plaintext} {s : Session} {failure : Failure}

theorem step_of_ok (h : w.perform command source = ⟨.ok (next, reply), events⟩) :
    w.step command source = (next, reply, events) := by
  rw [step, h]

theorem step_of_error (h : w.perform command source = ⟨.error failure, events⟩) :
    w.step command source = (w, .failed failure, events) := by
  rw [step, h]

theorem perform_encrypt_of_none (missing : w.session? slot = none) (plaintext : Plaintext) :
    w.perform (.encrypt slot plaintext) = pure (w, .noSession) := by
  simp only [perform, missing]

theorem perform_encryptRecord_of_none (missing : w.session? slot = none)
    (plaintext : Plaintext) :
    w.perform (.encryptRecord slot plaintext) = pure (w, .noSession) := by
  simp only [perform, missing]

theorem perform_encrypt (found : w.session? slot = some s) (plaintext : Plaintext) :
    w.perform (.encrypt slot plaintext) =
      s.encrypt plaintext >>= fun data => pure (w.addRecord data, .bytes data) := by
  simp only [perform, found]

theorem perform_encryptRecord (found : w.session? slot = some s) (plaintext : Plaintext) :
    w.perform (.encryptRecord slot plaintext) =
      s.encryptRecord plaintext >>= fun r =>
        .ofExcept r.encode >>= fun data => pure (w.addRecord data, .record r) := by
  simp only [perform, found]

/-- What `step` gives is an effect of the command. -/
def Steps (w : Workspace) (source : Source) (command : Command) : Prop :=
  w.Effect source command (w.step command source).1 (w.step command source).2.1
    (w.step command source).2.2

theorem steps_of_ok (h : w.perform command source = ⟨.ok (next, reply), events⟩)
    (effect : w.Effect source command next reply events) : w.Steps source command := by
  rw [Steps, step_of_ok h]
  exact effect

theorem steps_of_error (h : w.perform command source = ⟨.error failure, events⟩)
    (effect : w.Effect source command w (.failed failure) events) : w.Steps source command := by
  rw [Steps, step_of_error h]
  exact effect

theorem steps_openSession (w : Workspace) (source : Source) (slot : String) (opening : Opening) :
    w.Steps source (.openSession slot opening) := by
  rcases outcome : opening.start source with ⟨result, events⟩
  cases result with
  | ok s =>
    apply steps_of_ok
    · exact Action.bind_pure_eq_of_ok outcome fun s => (w.putSession slot s, Reply.session s)
    · exact .opened rfl outcome
  | error failure =>
    apply steps_of_error
    · exact Action.bind_eq_of_error outcome _
    · exact .unopened rfl outcome

/-- A command that encrypts fails as `encryptRecord` does, and otherwise delivers its record. -/
structure Delivers (w : Workspace) (source : Source) (command : Command) (s : Session)
    (plaintext : Plaintext) : Prop where
  refuse : ∀ failure events, s.encryptRecord plaintext source = ⟨.error failure, events⟩ →
    w.perform command source = ⟨.error failure, events⟩
  deliver : ∀ r events, r.Regular → s.encryptRecord plaintext source = ⟨.ok r, events⟩ →
    ∃ reply log, reply.record? = some r ∧ (∀ draw, .drew draw ∉ log) ∧
      w.perform command source =
        ⟨.ok (w.addRecord (Record.currentVersion :: r.body), reply), events ++ log⟩

theorem delivers_encrypt (found : w.session? slot = some s) (plaintext : Plaintext)
    (source : Source) : w.Delivers source (.encrypt slot plaintext) s plaintext := by
  have same := perform_encrypt found plaintext
  constructor
  · intro failure events failed
    rw [same, Action.bind_eq_of_error (Session.encrypt_eq_of_error failed)]
  · intro r events regular produced
    refine ⟨.bytes (Record.currentVersion :: r.body),
      [.logged (.encrypted r.payloadLength (r.body.length + 1))], ?_, by simp, ?_⟩
    · rw [Reply.record?, regular.decode_cons_body]
      rfl
    · rw [same, Action.bind_pure_eq_of_ok (Session.encrypt_eq_of_ok regular produced)]

theorem delivers_encryptRecord (found : w.session? slot = some s) (plaintext : Plaintext)
    (source : Source) : w.Delivers source (.encryptRecord slot plaintext) s plaintext := by
  have same := perform_encryptRecord found plaintext
  constructor
  · intro failure events failed
    rw [same, Action.bind_eq_of_error failed]
  · intro r events regular produced
    refine ⟨.record r, [], rfl, fun _ => List.not_mem_nil, ?_⟩
    rw [same, Action.bind_eq_of_ok produced, regular.encode_eq]
    rfl

theorem Delivers.steps_of_accepted {data : Bytes} (delivers : w.Delivers source command s plaintext)
    (sound : s.Sound) (accepted : plaintext.toBytes = .ok data)
    (asked : w.sealing? command = some (s, data)) : w.Steps source command := by
  cases plaintext with
  | text value => cases accepted
  | other typeName => cases accepted
  | bytes given =>
    cases accepted
    rcases Session.encryptRecord_cases sound data source with
      ⟨wrong, failed⟩ | ⟨nonceSize, long, failed⟩ | ⟨nonceSize, short, produced⟩
    · exact steps_of_error (delivers.refuse _ _ failed) (.wrongNonce asked wrong)
    · exact steps_of_error (delivers.refuse _ _ failed) (.tooLong asked nonceSize long)
    · obtain ⟨reply, log, answer, drawless, performed⟩ :=
        delivers.deliver _ _ (Session.regular_sealed sound nonceSize data) produced
      refine steps_of_ok performed (.sealed asked nonceSize short answer ?_)
      intro draw
      apply List.not_mem_append
      · simp
      · exact drawless draw

theorem Delivers.steps_of_refused (delivers : w.Delivers source command s plaintext)
    (refused : plaintext.toBytes = .error failure) (unasked : w.sealing? command = none)
    (unopened : ∀ slot opening, command ≠ .openSession slot opening) :
    w.Steps source command := by
  have failed : s.encryptRecord plaintext source = ⟨.error failure, []⟩ := by
    rw [Session.encryptRecord_of_toBytes_eq_error refused]
    rfl
  exact steps_of_error (delivers.refuse _ _ failed) (.idle unasked unopened trivial)

/-- Asked to encrypt without a session under the name, a workspace says so; with one, the command
delivers. -/
structure EncryptsWith (w : Workspace) (source : Source) (command : Command) (slot : String)
    (plaintext : Plaintext) : Prop where
  absent : w.session? slot = none → w.perform command = pure (w, .noSession)
  delivers : ∀ s, w.session? slot = some s → w.Delivers source command s plaintext

theorem encryptsWith_encrypt (w : Workspace) (source : Source) (slot : String)
    (plaintext : Plaintext) : w.EncryptsWith source (.encrypt slot plaintext) slot plaintext where
  absent missing := perform_encrypt_of_none missing plaintext
  delivers _ found := delivers_encrypt found plaintext source

theorem encryptsWith_encryptRecord (w : Workspace) (source : Source) (slot : String)
    (plaintext : Plaintext) :
    w.EncryptsWith source (.encryptRecord slot plaintext) slot plaintext where
  absent missing := perform_encryptRecord_of_none missing plaintext
  delivers _ found := delivers_encryptRecord found plaintext source

/-- The way of both commands that encrypt. -/
theorem EncryptsWith.steps (encrypts : w.EncryptsWith source command slot plaintext)
    (sound : w.Sound)
    (sealing : w.sealing? command =
      plaintext.toBytes.toOption.bind fun data => (w.session? slot).map (·, data))
    (unopened : ∀ slot opening, command ≠ .openSession slot opening) :
    w.Steps source command := by
  cases found : w.session? slot with
  | none =>
    have nothing : w.perform command source = ⟨.ok (w, .noSession), []⟩ := by
      rw [encrypts.absent found, Action.pure_eq]
    have unasked : w.sealing? command = none := by simp [sealing, found]
    exact steps_of_ok nothing (.idle unasked unopened trivial)
  | some s =>
    cases type : plaintext.toBytes with
    | ok data =>
      have asked : w.sealing? command = some (s, data) := by
        simp [sealing, type, found, Except.toOption]
      exact (encrypts.delivers s found).steps_of_accepted (sound slot s found) type asked
    | error failure =>
      have unasked : w.sealing? command = none := by simp [sealing, type, Except.toOption]
      exact (encrypts.delivers s found).steps_of_refused type unasked unopened

theorem steps_encrypt (sound : w.Sound) (source : Source) (slot : String) (plaintext : Plaintext) :
    w.Steps source (.encrypt slot plaintext) := by
  apply (encryptsWith_encrypt w source slot plaintext).steps sound
  · cases plaintext <;> rfl
  · simp

theorem steps_encryptRecord (sound : w.Sound) (source : Source) (slot : String)
    (plaintext : Plaintext) : w.Steps source (.encryptRecord slot plaintext) := by
  apply (encryptsWith_encryptRecord w source slot plaintext).steps sound
  · cases plaintext <;> rfl
  · simp

theorem steps_inspect (w : Workspace) (source : Source) (slot : String) :
    w.Steps source (.inspect slot) := by
  cases found : w.session? slot with
  | none =>
    have nothing : w.perform (.inspect slot) source = ⟨.ok (w, .noSession), []⟩ := by
      simp only [perform, found]
      rfl
    exact steps_of_ok nothing (.idle rfl (by simp) trivial)
  | some s =>
    have shown : w.perform (.inspect slot) source = ⟨.ok (w, .state s), []⟩ := by
      simp only [perform, found]
      rfl
    exact steps_of_ok shown (.idle rfl (by simp) trivial)

theorem steps_tamper (w : Workspace) (source : Source) (record : Nat) (tampering : Tampering) :
    w.Steps source (.tamper record tampering) := by
  cases found : w.records[record]? with
  | none =>
    have nothing : w.perform (.tamper record tampering) source = ⟨.ok (w, .noRecord), []⟩ := by
      simp only [perform, found]
      rfl
    exact steps_of_ok nothing (.idle rfl (by simp) trivial)
  | some data =>
    cases read : readTampered data tampering with
    | error failure =>
      have failed : w.perform (.tamper record tampering) source = ⟨.error failure, []⟩ := by
        simp only [perform, found, read]
        rfl
      exact steps_of_error failed (.idle rfl (by simp) trivial)
    | ok view =>
      have shown : w.perform (.tamper record tampering) source =
          ⟨.ok (w, .reading view.1 view.2), []⟩ := by
        simp only [perform, found, read]
        rfl
      exact steps_of_ok shown (.idle rfl (by simp) trivial)

/-- While its sessions are sound, a workspace steps by one of the effects. -/
theorem Sound.steps (sound : w.Sound) (source : Source) (command : Command) :
    w.Steps source command := by
  cases command with
  | openSession slot opening => exact steps_openSession w source slot opening
  | encrypt slot plaintext => exact steps_encrypt sound source slot plaintext
  | encryptRecord slot plaintext => exact steps_encryptRecord sound source slot plaintext
  | inspect slot => exact steps_inspect w source slot
  | tamper record tampering => exact steps_tamper w source record tampering

end Workspace
end KeyExport

import KeyExport.Proofs.Session.Layout
import KeyExport.Proofs.Workspace.Effect

set_option autoImplicit false

/-!
# What a run logs

A command that succeeds logs one line when it opens a session, one line when it encrypts, and
nothing when it leaves the record unserialized. The lines hold a key id and two lengths.
-/

namespace KeyExport

def Event.entry? : Event → Option LogEntry
  | .logged entry => some entry
  | _ => none

/-- The lines that were logged, in order. -/
def logLines (events : List Event) : List String :=
  (events.filterMap Event.entry?).map LogEntry.message

@[simp] theorem logLines_append (before after : List Event) :
    logLines (before ++ after) = logLines before ++ logLines after := by
  simp [logLines]

theorem Session.logLines_of_start_eq_ok {publicKey : Bytes} {given : Option PrivateKey}
    {source : Source} {s : Session} {events : List Event}
    (h : start publicKey given source = ⟨.ok s, events⟩) :
    logLines events = [s!"Hybrid encryption session ready for key id {Hex.encode s.keyId}"] := by
  rw [start] at h
  obtain ⟨recipient, decoded, h⟩ := Action.ofExcept_bind_eq_ok h
  obtain ⟨key, draws, _, chosen, established, rfl⟩ := Action.exists_of_bind_ok h
  obtain ⟨e, rfl, agreed, rfl⟩ :=
    exists_agreed_of_establish_eq_ok (RecipientKey.valid_of_decode_eq_ok decoded) established
  have silent : logLines draws = [] := by
    cases given <;> cases chosen <;> rfl
  rw [logLines_append, silent, agreed.keyId]
  rfl

theorem Opening.logLines_of_start_eq_ok {opening : Opening} {source : Source} {s : Session}
    {events : List Event} (h : opening.start source = ⟨.ok s, events⟩) :
    logLines events = [s!"Hybrid encryption session ready for key id {Hex.encode s.keyId}"] := by
  obtain ⟨given, publicKey, -, -, started⟩ := exists_of_start_eq_ok h
  exact Session.logLines_of_start_eq_ok started

/-- What a command has logged if it has succeeded. Without a session, and on a failure, nothing is
said here of what was logged before. -/
def Logged (reply : Reply) (events : List Event) : Command → Prop
  | .openSession _ _ => (∃ failure, reply = .failed failure) ∨
      ∃ s, reply = .session s ∧
        logLines events = [s!"Hybrid encryption session ready for key id {Hex.encode s.keyId}"]
  | .encrypt _ plaintext => reply = .noSession ∨ (∃ failure, reply = .failed failure) ∨
      ∃ data record, plaintext = .bytes data ∧ reply = .bytes record ∧
        record.length = data.length + 97 ∧
        logLines events = [s!"Encrypted {data.length} bytes into {data.length + 97} byte record"]
  | .encryptRecord _ _ => reply = .noSession ∨ (∃ failure, reply = .failed failure) ∨
      ∃ r, reply = .record r ∧ logLines events = []
  | .inspect _ | .tamper _ _ => events = []

namespace Workspace

variable {w : Workspace} {source : Source} {command : Command} {slot : String}
  {plaintext : Plaintext}

/-- What `step` gives is logged as the command asks. -/
def LogsStep (w : Workspace) (source : Source) (command : Command) : Prop :=
  Logged (w.step command source).2.1 (w.step command source).2.2 command

theorem logsStep_openSession (w : Workspace) (source : Source) (slot : String)
    (opening : Opening) : w.LogsStep source (.openSession slot opening) := by
  rcases outcome : opening.start source with ⟨result, events⟩
  cases result with
  | error failure =>
    rw [LogsStep, step_of_error (Action.bind_eq_of_error outcome _)]
    exact .inl ⟨failure, rfl⟩
  | ok s =>
    have performed : w.perform (.openSession slot opening) source =
        ⟨.ok (w.putSession slot s, .session s), events⟩ :=
      Action.bind_pure_eq_of_ok outcome fun s => (w.putSession slot s, Reply.session s)
    rw [LogsStep, step_of_ok performed]
    exact .inr ⟨s, rfl, Opening.logLines_of_start_eq_ok outcome⟩

/-- A command that encrypts finds no session, or fails, or seals a byte string. -/
theorem EncryptsWith.step_cases (encrypts : w.EncryptsWith source command slot plaintext)
    (sound : w.Sound) :
    (w.step command source).2.1 = .noSession ∨
      (∃ failure, (w.step command source).2.1 = .failed failure) ∨
      ∃ s data, w.session? slot = some s ∧ s.Sound ∧ plaintext = .bytes data ∧
        (source.nonce 0).length = Sizes.nonce ∧ data.length ≤ Sealing.maxPlaintext := by
  cases found : w.session? slot with
  | none =>
    have nothing : w.perform command source = ⟨.ok (w, .noSession), []⟩ := by
      rw [encrypts.absent found, Action.pure_eq]
    rw [step_of_ok nothing]
    exact .inl rfl
  | some s =>
    rcases outcome : s.encryptRecord plaintext source with ⟨result, events⟩
    cases result with
    | error failure =>
      rw [step_of_error ((encrypts.delivers s found).refuse _ _ outcome)]
      exact .inr (.inl ⟨failure, rfl⟩)
    | ok r =>
      have soundSession := sound slot s found
      obtain ⟨data, encrypted, nonceSize, short, -, -⟩ :=
        Session.exists_sealed_of_encryptRecord_eq_ok soundSession outcome
      exact .inr (.inr ⟨s, data, rfl, soundSession, encrypted, nonceSize, short⟩)

theorem logsStep_encrypt (sound : w.Sound) (source : Source) (slot : String)
    (plaintext : Plaintext) : w.LogsStep source (.encrypt slot plaintext) := by
  rcases (encryptsWith_encrypt w source slot plaintext).step_cases sound with
    nothing | failed | ⟨s, data, found, soundSession, rfl, nonceSize, short⟩
  · exact .inl nothing
  · exact .inr (.inl failed)
  · have size := Session.length_encode_sealed soundSession nonceSize data
    have performed := Action.bind_pure_eq_of_ok
      (Session.encrypt_eq_sealed soundSession nonceSize short) fun record =>
        (w.addRecord record, Reply.bytes record)
    rw [← perform_encrypt found] at performed
    rw [LogsStep, step_of_ok performed]
    refine .inr (.inr ⟨data, _, rfl, rfl, ?_, ?_⟩)
    · rw [size, Nat.add_comm]
    · rw [Nat.add_comm data.length]
      rfl

theorem logsStep_encryptRecord (sound : w.Sound) (source : Source) (slot : String)
    (plaintext : Plaintext) : w.LogsStep source (.encryptRecord slot plaintext) := by
  rcases (encryptsWith_encryptRecord w source slot plaintext).step_cases sound with
    nothing | failed | ⟨s, data, found, soundSession, rfl, nonceSize, short⟩
  · exact .inl nothing
  · exact .inr (.inl failed)
  · have regular := Session.regular_sealed soundSession nonceSize data
    have performed : w.perform (.encryptRecord slot (.bytes data)) source = ⟨.ok
        (w.addRecord (Record.currentVersion :: (s.sealed (source.nonce 0) data).body),
          .record (s.sealed (source.nonce 0) data)), [.drew .nonce, .computed .cipher]⟩ := by
      rw [perform_encryptRecord found, Action.bind_eq_of_ok
        (Session.encryptRecord_eq_sealed soundSession nonceSize short), regular.encode_eq]
      rfl
    rw [LogsStep, step_of_ok performed]
    exact .inr (.inr ⟨_, rfl, rfl⟩)

theorem logsStep_inspect (w : Workspace) (source : Source) (slot : String) :
    w.LogsStep source (.inspect slot) := by
  cases found : w.session? slot <;> simp only [LogsStep, step, perform, found] <;> rfl

theorem logsStep_tamper (w : Workspace) (source : Source) (record : Nat)
    (tampering : Tampering) : w.LogsStep source (.tamper record tampering) := by
  cases found : w.records[record]? with
  | none =>
    simp only [LogsStep, step, perform, found]
    rfl
  | some data =>
    cases read : readTampered data tampering <;>
      simp only [LogsStep, step, perform, found, read] <;> rfl

theorem Sound.logsStep (sound : w.Sound) (source : Source) (command : Command) :
    w.LogsStep source command := by
  cases command with
  | openSession slot opening => exact logsStep_openSession w source slot opening
  | encrypt slot plaintext => exact logsStep_encrypt sound source slot plaintext
  | encryptRecord slot plaintext => exact logsStep_encryptRecord sound source slot plaintext
  | inspect slot => exact logsStep_inspect w source slot
  | tamper record tampering => exact logsStep_tamper w source record tampering

/-- A run answers each command and logs what the command asks. -/
theorem Sound.logged_run (sound : w.Sound) (commands : List Command) (source : Source) :
    List.Forall₂ (fun command entry => Logged entry.1 entry.2 command) commands
      (w.run commands source) := by
  induction commands generalizing w source with
  | nil => exact .nil
  | cons command rest ih =>
    exact .cons (sound.logsStep source command) (ih ((sound.steps source command).sound sound) _)

end Workspace
end KeyExport

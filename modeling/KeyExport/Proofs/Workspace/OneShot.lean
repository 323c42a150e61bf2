import KeyExport.Proofs.Session.Layout
import KeyExport.Proofs.Workspace.Sessions

set_option autoImplicit false

/-!
# One session for many plaintexts, or one for each

Opening a session for a single plaintext computes everything afresh. A session that has stood in a
workspace for a while gives the same bytes: what it was opened for and with determines it, and
nothing that a workspace does afterwards reaches its sealing key.
-/

namespace KeyExport

/-- A regular record reaches the wire in one form only, whichever way it is handed out. -/
theorem Reply.wire?_of_record? {reply : Reply} {r : Record} (regular : r.Regular)
    (handed : reply.record? = some r) :
    reply.wire? = some (Record.currentVersion :: r.body) := by
  cases reply with
  | bytes data =>
    have decoded : Record.decode data = .ok r := by
      rw [Reply.record?] at handed
      cases read : Record.decode data with
      | error failure => simp [read, Except.toOption] at handed
      | ok other => simpa [read, Except.toOption] using handed
    have rewritten := (Record.readFrom_of_decode_eq_ok decoded).encode
    rw [regular.encode_eq] at rewritten
    cases rewritten
    rfl
  | record other =>
    cases handed
    simp [Reply.wire?, regular.encode_eq, Except.toOption]
  | _ => cases handed

/-- The input stands for the serialized key, byte for byte or in hexadecimal. -/
def PublicKeyInput.Renders : PublicKeyInput → Bytes → Prop
  | .bytes data, publicKey => data = publicKey
  | .hex text, publicKey => Hex.Renders text publicKey

theorem PublicKeyInput.Renders.toBytes_eq {input : PublicKeyInput} {publicKey : Bytes}
    (renders : input.Renders publicKey) : input.toBytes = .ok publicKey := by
  cases input with
  | bytes data => exact congrArg Except.ok renders
  | hex text => exact Hex.decode_of_renders renders

/-- A fresh session for a single plaintext seals as any session does that has agreed with the same
recipient by means of the same scalar. -/
theorem exists_encryptOnce_eq_sealed {input : PublicKeyInput} {publicKey data : Bytes}
    {recipient : RecipientKey} {s : Session} {fresh : Source} (renders : input.Renders publicKey)
    (decoded : RecipientKey.decode publicKey = .ok recipient)
    (agreed : s.Agreed recipient (fresh.ephemeral 0))
    (nonceSize : (fresh.nonce 0).length = Sizes.nonce)
    (short : data.length ≤ Sealing.maxPlaintext) : ∃ log,
      encryptOnce input (.bytes data) fresh =
        ⟨.ok (Record.currentVersion :: (s.sealed (fresh.nonce 0) data).body), log⟩ ∧
      log.count (.drew .ephemeral) = 1 ∧ log.count (.drew .nonce) = 1 := by
  obtain ⟨t, opening, opened, freshAgreed⟩ := Session.exists_start_eq_ok decoded none fresh
  obtain rfl : s = t := agreed.unique freshAgreed
  rw [Option.map_none] at opened
  have sound := Session.sound_of_start_eq_ok opened
  have noNonce : opening.count (.drew .nonce) = 0 := by
    simpa [opened] using Session.count_nonce_start publicKey none fresh
  have oneScalar : opening.count (.drew .ephemeral) = 1 := by
    simpa [opened, decoded, Except.isOk, Except.toBool] using
      Session.count_ephemeral_start_none publicKey fresh
  -- The nonce is still the first one of the source once the session is open.
  have unused : (fresh.after opening).nonce 0 = fresh.nonce 0 := by
    rw [Source.nonce_after, noNonce]
  have unusedSize : ((fresh.after opening).nonce 0).length = Sizes.nonce := by
    rw [unused, nonceSize]
  have produced := Session.encrypt_eq_sealed sound unusedSize short
  rw [unused] at produced
  have once := Action.bind_eq_of_ok opened fun session => session.encrypt (.bytes data)
  rw [produced] at once
  rw [encryptOnce, renders.toBytes_eq, Action.ofExcept_ok_bind]
  exact ⟨_, once, by simp [oneScalar], by simp [noNonce]⟩

namespace Workspace

variable {w next : Workspace} {source : Source} {command : Command} {reply : Reply}
  {events : List Event} {s : Session} {data : Bytes}

theorem exists_of_sealing?_eq_some (asked : w.sealing? command = some (s, data)) :
    ∃ slot, (command = .encrypt slot (.bytes data) ∨ command = .encryptRecord slot (.bytes data)) ∧
      w.session? slot = some s := by
  unfold sealing? at asked
  split at asked
  · obtain ⟨t, found, same⟩ := Option.map_eq_some_iff.mp asked
    cases same
    exact ⟨_, .inl rfl, found⟩
  · obtain ⟨t, found, same⟩ := Option.map_eq_some_iff.mp asked
    cases same
    exact ⟨_, .inr rfl, found⟩
  · cases asked

/-- What goes out on the wire was sealed by an open session, under the nonce of this command. -/
theorem Effect.exists_of_wire?_eq_some (effect : w.Effect source command next reply events)
    (sound : w.Sound) {record : Bytes} (handed : reply.wire? = some record) :
    ∃ slot s data,
      (command = .encrypt slot (.bytes data) ∨ command = .encryptRecord slot (.bytes data)) ∧
      w.session? slot = some s ∧ (source.nonce 0).length = Sizes.nonce ∧
      data.length ≤ Sealing.maxPlaintext ∧ (s.sealed (source.nonce 0) data).OnWire record := by
  rcases effect.sealed_or_none with ⟨s, data, asked, nonceSize, short, answer⟩ | ⟨-, nothing⟩
  · obtain ⟨slot, encrypts, found⟩ := exists_of_sealing?_eq_some asked
    have regular := Session.regular_sealed (sound slot s found) nonceSize data
    rw [Reply.wire?_of_record? regular answer] at handed
    cases handed
    exact ⟨slot, s, data, encrypts, found, nonceSize, short, regular.onWire⟩
  · rw [nothing] at handed
    cases handed

/-- In any run, whatever was opened, encrypted or refused before, each record that a session
produces is the one that a single call would give that opens a session for the same key, with the
ephemeral scalar with which this session was opened, and seals the same plaintext under the same
nonce. -/
theorem records_eq_encryptOnce (commands : List Command) (source : Source) :
    run empty commands source =
        (history empty commands source).map (fun m => (m.reply, m.events)) ∧
      ∀ earlier m later, history empty commands source = earlier ++ m :: later →
        ∀ record, m.reply.wire? = some record → ∃ slot plaintext o s publicKey e,
          (m.command = .encrypt slot plaintext ∨ m.command = .encryptRecord slot plaintext) ∧
          Moment.opener? slot earlier = some o ∧ o.Opened slot s publicKey e ∧
          (record.drop 69).take 12 = m.source.nonce 0 ∧
          ∀ (input : PublicKeyInput) (fresh : Source), input.Renders publicKey →
            fresh.ephemeral 0 = e → fresh.nonce 0 = m.source.nonce 0 → ∃ log,
              encryptOnce input plaintext fresh = ⟨.ok record, log⟩ ∧
              log.count (.drew .ephemeral) = 1 ∧ log.count (.drew .nonce) = 1 := by
  refine ⟨run_eq_map_history _ _ _, ?_⟩
  intro earlier m later split record handed
  have sound : m.before.Sound := sound_of_mem_history sound_empty (by rw [split]; simp)
  obtain ⟨slot, s, data, asked, found, nonceSize, short, wire⟩ :=
    (Moment.effect sound).exists_of_wire?_eq_some sound handed
  obtain ⟨o, publicKey, recipient, e, last, opened, decoded, agreed⟩ := exists_opener split found
  refine ⟨slot, .bytes data, o, s, publicKey, e, asked, last, opened, wire.nonce, ?_⟩
  intro input fresh renders sameScalar sameNonce
  rw [← sameNonce] at nonceSize wire
  rw [← sameScalar] at agreed
  obtain ⟨log, once, draws⟩ := exists_encryptOnce_eq_sealed renders decoded agreed nonceSize short
  have same : record = Record.currentVersion :: (s.sealed (fresh.nonce 0) data).body := wire.whole
  rw [← same] at once
  exact ⟨log, once, draws⟩

end Workspace
end KeyExport

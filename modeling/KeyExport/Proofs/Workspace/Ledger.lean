import KeyExport.Proofs.Workspace.Effect
import Mathlib.Data.List.Nodup

set_option autoImplicit false

/-!
# The ledger of a run

A run is read off its moments, and each moment draws from what the moments before it left of the
source. The nth byte string that is encrypted takes the nth nonce and the nth session that needs
an ephemeral key takes the nth one, whatever happens in between.
-/

namespace KeyExport

/-- One command of a run, with the workspace that it finds and the source that it draws from. -/
structure Moment where
  before : Workspace
  source : Source
  command : Command

namespace Moment

def after (m : Moment) : Workspace :=
  (m.before.step m.command m.source).1

def reply (m : Moment) : Reply :=
  (m.before.step m.command m.source).2.1

def events (m : Moment) : List Event :=
  (m.before.step m.command m.source).2.2

/-- An open session is asked to encrypt a byte string. -/
def encrypts (m : Moment) : Bool :=
  (m.before.sealing? m.command).isSome

def opensFresh (m : Moment) : Bool :=
  m.command.opensFresh

/-- The record that is handed out, with the key that it was sealed under. -/
def sealed? (m : Moment) : Option (Bytes × Record) :=
  match m.before.sealing? m.command, m.reply.record? with
  | some (s, _), some r => some (s.sealingKey, r)
  | _, _ => none

theorem effect {m : Moment} (sound : m.before.Sound) :
    m.before.Effect m.source m.command m.after m.reply m.events :=
  sound.steps m.source m.command

theorem count_nonce {m : Moment} (sound : m.before.Sound) :
    m.events.count (.drew .nonce) = if m.encrypts then 1 else 0 :=
  (effect sound).count_nonce

theorem count_ephemeral {m : Moment} (sound : m.before.Sound) :
    m.events.count (.drew .ephemeral) = if m.opensFresh then 1 else 0 :=
  (effect sound).count_ephemeral

theorem sealed?_eq_none {m : Moment} (idle : m.encrypts = false) : m.sealed? = none := by
  have unasked : m.before.sealing? m.command = none := by
    rw [encrypts, Option.isSome_eq_false_iff, Option.isNone_iff_eq_none] at idle
    exact idle
  rw [sealed?, unasked]

theorem nonce_of_sealed?_eq_some {m : Moment} (sound : m.before.Sound) {entry : Bytes × Record}
    (handed : m.sealed? = some entry) : entry.2.nonce = m.source.nonce 0 := by
  unfold sealed? at handed
  split at handed
  · rename_i answer
    cases handed
    exact ((effect sound).nonce_of_record? answer).2.2
  · cases handed

/-- The nonces that a moment leaves are those of the source, less the one that it took, if any. -/
theorem nonce_after_events {m : Moment} (sound : m.before.Sound) (source : Source) :
    (source.after m.events).nonce =
      if m.encrypts then source.nonce ∘ Nat.succ else source.nonce := by
  funext i
  rw [Source.nonce_after, count_nonce sound]
  cases m.encrypts <;> rfl

theorem count_flatMap_events {draw : Draw} {draws : Moment → Bool} {moments : List Moment}
    (each : ∀ m ∈ moments, m.events.count (.drew draw) = if draws m then 1 else 0) :
    (moments.flatMap events).count (.drew draw) = moments.countP draws := by
  induction moments with
  | nil => rfl
  | cons m rest ih =>
    have later := ih fun other mem => each other (List.mem_cons_of_mem m mem)
    rw [List.flatMap_cons, List.count_append, each m List.mem_cons_self, later, List.countP_cons,
      Nat.add_comm]

end Moment

theorem Workspace.sound_empty : Workspace.empty.Sound := by
  intro slot s found
  cases found

namespace Workspace

/-- The moments of a run. -/
def history (w : Workspace) : List Command → Source → List Moment
  | [], _ => []
  | command :: rest, source =>
    let m : Moment := ⟨w, source, command⟩
    m :: history m.after rest (source.after m.events)

variable {w : Workspace} {commands : List Command} {source : Source} {m : Moment}
  {earlier later : List Moment}

theorem run_eq_map_history (w : Workspace) (commands : List Command) (source : Source) :
    w.run commands source = (w.history commands source).map fun m => (m.reply, m.events) := by
  induction commands generalizing w source with
  | nil => rfl
  | cons command rest ih =>
    rw [history, List.map_cons, ← ih]
    rfl

theorem exists_of_history_eq_cons (split : w.history commands source = m :: later) :
    ∃ rest, m.before = w ∧ m.source = source ∧
      m.after.history rest (source.after m.events) = later := by
  cases commands with
  | nil => cases split
  | cons command rest =>
    rw [history] at split
    injection split with first tail
    subst first
    exact ⟨rest, rfl, rfl, tail⟩

theorem source_of_history_eq (split : w.history commands source = earlier ++ m :: later) :
    m.source = source.after (earlier.flatMap Moment.events) := by
  induction earlier generalizing w commands source with
  | nil =>
    obtain ⟨-, -, same, -⟩ := exists_of_history_eq_cons split
    rw [same]
    rfl
  | cons first others ih =>
    obtain ⟨rest, -, -, tail⟩ := exists_of_history_eq_cons split
    rw [ih tail, List.flatMap_cons, Source.after_append]

theorem sound_of_mem_history (sound : w.Sound) (mem : m ∈ w.history commands source) :
    m.before.Sound := by
  induction commands generalizing w source with
  | nil => cases mem
  | cons command rest ih =>
    rw [history] at mem
    rcases List.mem_cons.mp mem with rfl | mem
    · exact sound
    · exact ih ((Moment.effect (m := ⟨w, source, command⟩) sound).sound sound) mem

end Workspace

/-- What the ledger says of a moment that comes after others in a run. -/
structure Moment.Accounted (source : Source) (earlier : List Moment) (m : Moment) : Prop where
  nonces : m.events.count (.drew .nonce) = if m.encrypts then 1 else 0
  ephemerals : m.events.count (.drew .ephemeral) = if m.opensFresh then 1 else 0
  nonce : m.source.nonce 0 = source.nonce (earlier.countP encrypts)
  ephemeral : m.source.ephemeral 0 = source.ephemeral (earlier.countP opensFresh)
  /-- A nonce of another size makes its command fail, and changes nothing. -/
  refused : m.encrypts → (source.nonce (earlier.countP encrypts)).length ≠ 12 →
    m.after = m.before ∧ ∃ failure, m.reply = .failed failure ∧ failure.category = .encryption
  readable : ∀ data, m.reply = .bytes data → ∃ r, Record.decode data = .ok r
  record : ∀ r, m.reply.record? = some r →
    m.encrypts ∧ r.nonce.length = 12 ∧ r.nonce = source.nonce (earlier.countP encrypts)
  session : m.opensFresh → ∀ s, m.reply = .session s → s.ephemeral =
    (PrivateKey.ofScalar (source.ephemeral (earlier.countP opensFresh))).publicCoordinates

namespace Workspace

variable {w : Workspace} {commands : List Command} {source : Source} {m : Moment}
  {earlier later : List Moment}

theorem accounted_of_history_eq (sound : w.Sound)
    (split : w.history commands source = earlier ++ m :: later) : m.Accounted source earlier := by
  have soundAt : ∀ other ∈ earlier ++ m :: later, other.before.Sound := by
    intro other mem
    rw [← split] at mem
    exact sound_of_mem_history sound mem
  have before : ∀ other ∈ earlier, other.before.Sound := fun other mem =>
    soundAt other (List.mem_append_left _ mem)
  have effect := Moment.effect (soundAt m (by simp))
  have nonces := Moment.count_flatMap_events fun other mem => Moment.count_nonce (before other mem)
  have ephemerals := Moment.count_flatMap_events fun other mem =>
    Moment.count_ephemeral (before other mem)
  have nonce : m.source.nonce 0 = source.nonce (earlier.countP Moment.encrypts) := by
    rw [source_of_history_eq split, Source.nonce_after, nonces, Nat.zero_add]
  have ephemeral : m.source.ephemeral 0 =
      source.ephemeral (earlier.countP Moment.opensFresh) := by
    rw [source_of_history_eq split, Source.ephemeral_after, ephemerals, Nat.zero_add]
  constructor
  · exact effect.count_nonce
  · exact effect.count_ephemeral
  · exact nonce
  · exact ephemeral
  · intro encrypts wrong
    rw [← nonce] at wrong
    obtain ⟨unchanged, failed⟩ := effect.failed_of_wrong_nonce encrypts wrong
    exact ⟨unchanged, _, failed, rfl⟩
  · intro data written
    exact effect.exists_record?_of_bytes written
  · intro r handed
    obtain ⟨encrypts, size, same⟩ := effect.nonce_of_record? handed
    exact ⟨encrypts, same ▸ size, same.trans nonce⟩
  · intro fresh s opened
    rw [← ephemeral]
    exact effect.ephemeral_of_session fresh opened

/-- The records of a run carry, in order, some of the nonces that were drawn. -/
theorem nonces_sublist (sound : w.Sound) (commands : List Command) (source : Source) :
    (((w.history commands source).filterMap Moment.sealed?).map fun entry =>
      entry.2.nonce).Sublist
        ((List.range ((w.history commands source).countP Moment.encrypts)).map source.nonce) := by
  induction commands generalizing w source with
  | nil => exact .slnil
  | cons command rest ih =>
    rw [history]
    generalize first : (⟨w, source, command⟩ : Moment) = m
    have sourceEq : m.source = source := by rw [← first]
    have soundAt : m.before.Sound := by
      rw [← first]
      exact sound
    have others := ih ((Moment.effect soundAt).sound soundAt) (source.after m.events)
    rw [Moment.nonce_after_events soundAt] at others
    cases encrypts : m.encrypts with
    | false =>
      rw [encrypts] at others
      rw [List.filterMap_cons_none (Moment.sealed?_eq_none encrypts),
        List.countP_cons_of_neg (by simp [encrypts])]
      exact others
    | true =>
      rw [encrypts] at others
      rw [List.countP_cons_of_pos encrypts, List.range_succ_eq_map, List.map_cons, List.map_map]
      cases sealed : m.sealed? with
      | none =>
        rw [List.filterMap_cons_none sealed]
        exact others.cons _
      | some entry =>
        rw [List.filterMap_cons_some sealed, List.map_cons,
          Moment.nonce_of_sealed?_eq_some soundAt sealed, sourceEq]
        exact others.cons_cons _

theorem nodup_nonces (sound : w.Sound) (commands : List Command) (source : Source)
    (distinct : ∀ i < (w.history commands source).countP Moment.encrypts,
      ∀ j < (w.history commands source).countP Moment.encrypts,
        source.nonce i = source.nonce j → i = j) :
    (((w.history commands source).filterMap Moment.sealed?).map fun entry =>
      entry.2.nonce).Nodup := by
  apply (nonces_sublist sound commands source).nodup
  apply List.Nodup.map_on
  · intro i hi j hj same
    exact distinct i (List.mem_range.mp hi) j (List.mem_range.mp hj) same
  · exact List.nodup_range

/-- In any run every moment is accounted for. When no nonce is delivered twice, no two records of
the run share a nonce, let alone a key and a nonce. -/
theorem ledger (commands : List Command) (source : Source) :
    run empty commands source =
        (history empty commands source).map (fun m => (m.reply, m.events)) ∧
      (∀ earlier m later, history empty commands source = earlier ++ m :: later →
        m.Accounted source earlier) ∧
      ((∀ i < (history empty commands source).countP Moment.encrypts,
          ∀ j < (history empty commands source).countP Moment.encrypts,
            source.nonce i = source.nonce j → i = j) →
        (((history empty commands source).filterMap Moment.sealed?).map fun entry =>
            entry.2.nonce).Nodup ∧
          (((history empty commands source).filterMap Moment.sealed?).map fun entry =>
            (entry.1, entry.2.nonce)).Nodup) := by
  refine ⟨run_eq_map_history _ _ _, ?_, ?_⟩
  · intro earlier m later split
    exact accounted_of_history_eq sound_empty split
  · intro distinct
    have nonces := nodup_nonces sound_empty commands source distinct
    refine ⟨nonces, ?_⟩
    apply List.Nodup.of_map Prod.snd
    rw [List.map_map]
    exact nonces

end Workspace
end KeyExport

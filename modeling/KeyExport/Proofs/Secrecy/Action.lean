import KeyExport.Proofs.Action

set_option autoImplicit false

/-!
# Two runs of one action

Two actions are alike when, started from sources whose nonces have the same sizes, they leave the
same events behind and either fail in the same way or succeed with related values. There is one
rule for each way to build an action. No rule asks for equal values, so that whatever is drawn or
computed may differ as long as no failure and no event depends on it.
-/

namespace KeyExport

def SameLength (a b : Bytes) : Prop :=
  a.length = b.length

section Result

variable {ε α β : Type} {R : α → α → Prop} {S : β → β → Prop}

/-- The same failure, or related values. -/
inductive ResultRel (R : α → α → Prop) : Except ε α → Except ε α → Prop where
  | error (failure : ε) : ResultRel R (.error failure) (.error failure)
  | ok {a b : α} (related : R a b) : ResultRel R (.ok a) (.ok b)

theorem ResultRel.of_self {result : Except ε α} (each : ∀ a, result = .ok a → R a a) :
    ResultRel R result result := by
  cases result with
  | error failure => exact .error failure
  | ok a => exact .ok (each a rfl)

theorem ResultRel.bind {x y : Except ε α} {f g : α → Except ε β} (first : ResultRel R x y)
    (rest : ∀ a b, R a b → ResultRel S (f a) (g b)) : ResultRel S (x >>= f) (y >>= g) := by
  cases first with
  | error failure => exact .error failure
  | ok related => exact rest _ _ related

theorem optionRel_cases {x y : Option α} (h : Option.Rel R x y) :
    x = none ∧ y = none ∨ ∃ a b, x = some a ∧ y = some b ∧ R a b := by
  cases h with
  | none => exact .inl ⟨rfl, rfl⟩
  | some related => exact .inr ⟨_, _, rfl, rfl, related⟩

end Result

/-- The sources deliver nonces of the same sizes. -/
def Source.Alike (source other : Source) : Prop :=
  ∀ i, SameLength (source.nonce i) (other.nonce i)

/-- What the same events leave of two sources is still alike. -/
theorem Source.Alike.after {source other : Source} (alike : source.Alike other)
    (events : List Event) : (source.after events).Alike (other.after events) :=
  fun i => alike (i + events.count (.drew .nonce))

structure Outcome.Alike {α : Type} (R : α → α → Prop) (outcome other : Outcome α) : Prop where
  result : ResultRel R outcome.result other.result
  events : outcome.events = other.events

namespace Action

variable {α β : Type} {R : α → α → Prop} {S : β → β → Prop} {a b : α}

def Alike (R : α → α → Prop) (action other : Action α) : Prop :=
  ∀ source otherSource, source.Alike otherSource →
    (action source).Alike R (other otherSource)

theorem alike_pure (related : R a b) : Alike R (pure a) (pure b) :=
  fun _ _ _ => ⟨.ok related, rfl⟩

theorem alike_fail (failure : Failure) : Alike R (fail failure) (fail failure) :=
  fun _ _ _ => ⟨.error failure, rfl⟩

theorem alike_ofExcept {result other : Except Failure α} (related : ResultRel R result other) :
    Alike R (ofExcept result) (ofExcept other) :=
  fun _ _ _ => ⟨related, rfl⟩

theorem alike_log {entry other : LogEntry} (same : entry = other) :
    Alike Eq (log entry) (log other) := by
  subst same
  exact fun _ _ _ => ⟨.ok rfl, rfl⟩

theorem alike_drawNonce : Alike SameLength drawNonce drawNonce :=
  fun _ _ alike => ⟨.ok (alike 0), rfl⟩

theorem alike_drawEphemeral {R : PrivateKey → PrivateKey → Prop}
    (related : ∀ d e, R (.ofScalar d) (.ofScalar e)) : Alike R drawEphemeral drawEphemeral :=
  fun _ _ _ => ⟨.ok (related _ _), rfl⟩

/-- After the same events of a first step, the second steps start from alike sources again. -/
theorem Alike.bind {x y : Action α} {f g : α → Action β} (first : Alike R x y)
    (rest : ∀ a b, R a b → Alike S (f a) (g b)) : Alike S (x >>= f) (y >>= g) := by
  intro source other alike
  obtain ⟨result, events⟩ := first source other alike
  rcases left : x source with ⟨leftResult, before⟩
  rcases right : y other with ⟨rightResult, rightBefore⟩
  rw [left, right] at result events
  simp only at result events
  subst events
  cases result with
  | error failure =>
    rw [bind_eq_of_error left, bind_eq_of_error right]
    exact ⟨.error failure, rfl⟩
  | ok related =>
    have later := rest _ _ related _ _ (alike.after before)
    rw [bind_eq_of_ok left, bind_eq_of_ok right]
    exact ⟨later.result, congrArg (before ++ ·) later.events⟩

end Action
end KeyExport

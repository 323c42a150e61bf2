import KeyExport.Curve.Scalar
import KeyExport.Log

set_option autoImplicit false

/-!
# Actions

An action takes its random values from a source, may fail, and leaves behind the events that
happened up to its end or its failure, in order. Events say what was drawn, computed and logged,
and never a drawn or computed value. They also say how much of the source an action has used up,
which is where the next action starts.
-/

namespace KeyExport

inductive Draw where
  | nonce
  | ephemeral
  deriving DecidableEq

/-- Cryptographic primitives whose use is recorded. -/
inductive Primitive where
  | multiplication
  | exchange
  | hmac
  | cipher
  deriving DecidableEq

inductive Event where
  | drew (draw : Draw)
  | computed (primitive : Primitive)
  | logged (entry : LogEntry)
  deriving DecidableEq

/-- Random values in the order in which they are drawn. A nonce may have any length. -/
structure Source where
  nonce : Nat → Bytes
  ephemeral : Nat → Curve.p256.Scalar

/-- What is left of a source once these events have happened. -/
def Source.after (source : Source) (events : List Event) : Source :=
  let nonces := events.count (.drew .nonce)
  let ephemerals := events.count (.drew .ephemeral)
  ⟨fun i => source.nonce (i + nonces), fun i => source.ephemeral (i + ephemerals)⟩

@[simp] theorem Source.after_nil (source : Source) : source.after [] = source := rfl

theorem Source.after_append (source : Source) (a b : List Event) :
    source.after (a ++ b) = (source.after a).after b := by
  simp only [after, List.count_append, Source.mk.injEq]
  constructor <;> funext i <;> congr 1 <;> omega

structure Outcome (α : Type) where
  result : Except Failure α
  events : List Event

def Action (α : Type) : Type :=
  Source → Outcome α

namespace Action

variable {α β : Type}

protected def pure (value : α) : Action α :=
  fun _ => ⟨.ok value, []⟩

protected def bind (action : Action α) (next : α → Action β) : Action β := fun source =>
  match action source with
  | ⟨.error failure, events⟩ => ⟨.error failure, events⟩
  | ⟨.ok value, events⟩ =>
    let rest := next value (source.after events)
    ⟨rest.result, events ++ rest.events⟩

instance : Monad Action where
  pure := Action.pure
  bind := Action.bind

instance : LawfulMonad Action := LawfulMonad.mk' Action
  (by
    intro α x
    funext source
    change Action.bind x Action.pure source = x source
    unfold Action.bind
    split <;> simp_all [Action.pure])
  (by intro α β x f; rfl)
  (by
    intro α β γ x f g
    funext source
    change Action.bind (Action.bind x f) g source =
      Action.bind x (fun a => Action.bind (f a) g) source
    unfold Action.bind
    cases x source with
    | mk result events =>
      cases result with
      | error failure => rfl
      | ok value =>
        simp only
        cases f value (source.after events) with
        | mk result more =>
          cases result with
          | error failure => rfl
          | ok value => simp [Source.after_append])

theorem pure_eq (value : α) (source : Source) :
    (pure value : Action α) source = ⟨.ok value, []⟩ := rfl

theorem bind_eq_of_ok {action : Action α} {source : Source} {value : α} {events : List Event}
    (h : action source = ⟨.ok value, events⟩) (next : α → Action β) :
    (action >>= next) source = ⟨(next value (source.after events)).result,
      events ++ (next value (source.after events)).events⟩ := by
  change Action.bind action next source = _
  simp [Action.bind, h]

theorem bind_eq_of_error {action : Action α} {source : Source} {failure : Failure}
    {events : List Event} (h : action source = ⟨.error failure, events⟩)
    (next : α → Action β) : (action >>= next) source = ⟨.error failure, events⟩ := by
  change Action.bind action next source = _
  simp [Action.bind, h]

def fail (failure : Failure) : Action α :=
  fun _ => ⟨.error failure, []⟩

/-- A step that draws, computes and logs nothing. -/
def ofExcept (result : Except Failure α) : Action α :=
  fun _ => ⟨result, []⟩

def record (event : Event) : Action Unit :=
  fun _ => ⟨.ok (), [event]⟩

def log (entry : LogEntry) : Action Unit :=
  record (.logged entry)

/-- Records one use of a primitive and gives its value. -/
def compute (primitive : Primitive) (value : α) : Action α :=
  fun _ => ⟨.ok value, [.computed primitive]⟩

def drawNonce : Action Bytes :=
  fun source => ⟨.ok (source.nonce 0), [.drew .nonce]⟩

def drawEphemeral : Action PrivateKey :=
  fun source => ⟨.ok (.ofScalar (source.ephemeral 0)), [.drew .ephemeral]⟩

end Action
end KeyExport

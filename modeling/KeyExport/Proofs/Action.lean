import KeyExport.Action

set_option autoImplicit false

/-!
# Running actions

One equation for each kind of first step, and the actions that neither look at the source nor use
it up. Those are closed: wherever they run, they give one and the same outcome.
-/

namespace KeyExport

/-- A source that delivers the same values over and over. -/
def Source.constant (nonce : Bytes) (ephemeral : Curve.p256.Scalar) : Source :=
  ⟨fun _ => nonce, fun _ => ephemeral⟩

theorem Source.nonce_after (source : Source) (events : List Event) (i : Nat) :
    (source.after events).nonce i = source.nonce (i + events.count (.drew .nonce)) := rfl

theorem Source.ephemeral_after (source : Source) (events : List Event) (i : Nat) :
    (source.after events).ephemeral i = source.ephemeral (i + events.count (.drew .ephemeral)) :=
  rfl

namespace Action

variable {α β : Type}

@[simp] theorem ofExcept_ok_bind (value : α) (next : α → Action β) :
    ofExcept (.ok value) >>= next = next value := rfl

@[simp] theorem ofExcept_error_bind (failure : Failure) (next : α → Action β) :
    ofExcept (.error failure) >>= next = fail failure := rfl

@[simp] theorem fail_apply (failure : Failure) (source : Source) :
    (fail failure : Action α) source = ⟨.error failure, []⟩ := rfl

theorem compute_bind_apply (primitive : Primitive) (value : α) (next : α → Action β)
    (source : Source) :
    (compute primitive value >>= next) source =
      ⟨(next value source).result, .computed primitive :: (next value source).events⟩ := rfl

theorem drawEphemeral_bind_apply (next : PrivateKey → Action β) (source : Source) :
    (drawEphemeral >>= next) source =
      ⟨(next (.ofScalar (source.ephemeral 0)) (source.after [.drew .ephemeral])).result,
        .drew .ephemeral ::
          (next (.ofScalar (source.ephemeral 0)) (source.after [.drew .ephemeral])).events⟩ := rfl

theorem bind_pure_eq_of_ok {action : Action α} {source : Source} {value : α} {events : List Event}
    (h : action source = ⟨.ok value, events⟩) (f : α → β) :
    (action >>= fun v => pure (f v)) source = ⟨.ok (f value), events⟩ := by
  rw [bind_eq_of_ok h, pure_eq, List.append_nil]

/-- What a value that came out of two steps came from. -/
theorem exists_of_bind_ok {action : Action α} {next : α → Action β} {source : Source} {value : β}
    {events : List Event} (h : (action >>= next) source = ⟨.ok value, events⟩) :
    ∃ middle first rest, action source = ⟨.ok middle, first⟩ ∧
      next middle (source.after first) = ⟨.ok value, rest⟩ ∧ events = first ++ rest := by
  rcases outcome : action source with ⟨result, first⟩
  cases result with
  | error failure =>
    rw [bind_eq_of_error outcome] at h
    cases h
  | ok middle =>
    rw [bind_eq_of_ok outcome] at h
    rcases second : next middle (source.after first) with ⟨result, rest⟩
    rw [second] at h
    cases h
    exact ⟨middle, first, rest, rfl, second, rfl⟩

/-- A failure of two steps is one of the first step, or one of the second after the first. -/
theorem cases_of_bind_error {action : Action α} {next : α → Action β} {source : Source}
    {failure : Failure} {events : List Event}
    (h : (action >>= next) source = ⟨.error failure, events⟩) :
    action source = ⟨.error failure, events⟩ ∨
      ∃ middle first rest, action source = ⟨.ok middle, first⟩ ∧
        next middle (source.after first) = ⟨.error failure, rest⟩ ∧ events = first ++ rest := by
  rcases outcome : action source with ⟨result, first⟩
  cases result with
  | error other =>
    rw [bind_eq_of_error outcome] at h
    cases h
    exact .inl rfl
  | ok middle =>
    rw [bind_eq_of_ok outcome] at h
    rcases second : next middle (source.after first) with ⟨result, rest⟩
    rw [second] at h
    cases h
    exact .inr ⟨middle, first, rest, rfl, second, rfl⟩

theorem ofExcept_bind_eq_ok {result : Except Failure α} {next : α → Action β} {source : Source}
    {value : β} {events : List Event}
    (h : (ofExcept result >>= next) source = ⟨.ok value, events⟩) :
    ∃ middle, result = .ok middle ∧ next middle source = ⟨.ok value, events⟩ := by
  cases result with
  | error failure => cases h
  | ok middle => exact ⟨middle, rfl, h⟩

/-- Every failure of the action is one of these. -/
def FailsWithin (allowed : Failure → Prop) (action : Action α) : Prop :=
  ∀ source failure events, action source = ⟨.error failure, events⟩ → allowed failure

section FailsWithin

variable {allowed : Failure → Prop}

theorem FailsWithin.mono {wider : Failure → Prop} {action : Action α}
    (within : FailsWithin allowed action) (among : ∀ failure, allowed failure → wider failure) :
    FailsWithin wider action :=
  fun source failure events failed => among failure (within source failure events failed)

theorem failsWithin_ofExcept {result : Except Failure α}
    (each : ∀ failure, result = .error failure → allowed failure) :
    FailsWithin allowed (ofExcept result) := by
  intro source failure events failed
  cases failed
  exact each failure rfl

theorem failsWithin_fail {failure : Failure} (among : allowed failure) :
    FailsWithin allowed (fail failure : Action α) := by
  intro source other events failed
  cases failed
  exact among

theorem failsWithin_pure (value : α) : FailsWithin allowed (pure value : Action α) := by
  intro source failure events failed
  cases failed

theorem failsWithin_log (entry : LogEntry) : FailsWithin allowed (log entry) := by
  intro source failure events failed
  cases failed

theorem failsWithin_compute (primitive : Primitive) (value : α) :
    FailsWithin allowed (compute primitive value) := by
  intro source failure events failed
  cases failed

theorem failsWithin_drawNonce : FailsWithin allowed drawNonce := by
  intro source failure events failed
  cases failed

theorem failsWithin_drawEphemeral : FailsWithin allowed drawEphemeral := by
  intro source failure events failed
  cases failed

/-- What follows a step may rely on the values that the step can give. -/
theorem FailsWithin.bind_of {action : Action α} {next : α → Action β}
    (first : FailsWithin allowed action)
    (rest : ∀ source value events, action source = ⟨.ok value, events⟩ →
      FailsWithin allowed (next value)) : FailsWithin allowed (action >>= next) := by
  intro source failure events failed
  rcases cases_of_bind_error failed with failed | ⟨middle, before, after, given, failed, -⟩
  · exact first source failure events failed
  · exact rest source middle before given _ failure after failed

theorem FailsWithin.bind {action : Action α} {next : α → Action β}
    (first : FailsWithin allowed action) (rest : ∀ value, FailsWithin allowed (next value)) :
    FailsWithin allowed (action >>= next) :=
  first.bind_of fun _ value _ _ => rest value

end FailsWithin

/-- An action on which the source has no influence and which leaves the source as it was. -/
structure Closed (action : Action α) : Prop where
  steady : ∀ source other, action source = action other
  drawless : ∀ source draw, .drew draw ∉ (action source).events

theorem closed_pure (value : α) : Closed (pure value : Action α) where
  steady _ _ := rfl
  drawless _ _ := List.not_mem_nil

theorem closed_fail (failure : Failure) : Closed (fail failure : Action α) where
  steady _ _ := rfl
  drawless _ _ := List.not_mem_nil

theorem closed_ofExcept (result : Except Failure α) : Closed (ofExcept result) where
  steady _ _ := rfl
  drawless _ _ := List.not_mem_nil

theorem closed_log (entry : LogEntry) : Closed (log entry) where
  steady _ _ := rfl
  drawless _ _ := by simp [log, record]

theorem closed_compute (primitive : Primitive) (value : α) :
    Closed (compute primitive value) where
  steady _ _ := rfl
  drawless _ _ := by simp [compute]

theorem Closed.bind {action : Action α} {next : α → Action β} (first : Closed action)
    (rest : ∀ value, Closed (next value)) : Closed (action >>= next) where
  steady source other := by
    have same := first.steady source other
    cases outcome : action other with
    | mk result events =>
      rw [outcome] at same
      cases result with
      | error failure => rw [bind_eq_of_error same, bind_eq_of_error outcome]
      | ok value =>
        rw [bind_eq_of_ok same, bind_eq_of_ok outcome, (rest value).steady _ (other.after events)]
  drawless source draw := by
    have before := first.drawless source draw
    cases outcome : action source with
    | mk result events =>
      rw [outcome] at before
      cases result with
      | error failure => rwa [bind_eq_of_error outcome]
      | ok value =>
        rw [bind_eq_of_ok outcome]
        exact List.not_mem_append before ((rest value).drawless _ draw)

theorem Closed.count_draw {action : Action α} (closed : Closed action) (source : Source)
    (draw : Draw) : (action source).events.count (.drew draw) = 0 :=
  List.count_eq_zero.mpr (closed.drawless source draw)

end Action
end KeyExport

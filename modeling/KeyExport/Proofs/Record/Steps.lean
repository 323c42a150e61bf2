import KeyExport.Proofs.Record.Editing

set_option autoImplicit false

/-!
# Steps on a record

Only an assignment changes what is written of a record. Between two of them the record at most turns
into the one that its own bytes are read as, and every answer tells of those bytes.
-/

namespace KeyExport.Record

variable {r q : Record} {data : Bytes} {failure : Failure}

/-- The second record comes from the first without an assignment: it is the same, or the one that
was read back. -/
def Unedited (r q : Record) : Prop :=
  q = r ∨ r.reread = .ok q

theorem exists_encode_of_reread_eq_ok (h : r.reread = .ok q) :
    ∃ data, r.encode = .ok data ∧ decode data = .ok q := by
  cases encoded : r.encode with
  | error failure =>
    rw [reread, encoded] at h
    cases h
  | ok data => exact ⟨data, rfl, (reread_eq_of_encode_eq encoded).symm.trans h⟩

theorem decode_of_ofBytes_eq_error (h : RecordSummary.ofBytes data = .error failure) :
    decode data = .error failure := by
  unfold RecordSummary.ofBytes at h
  cases read : decode data with
  | error other =>
    rw [read] at h
    cases h
    rfl
  | ok q =>
    rw [read] at h
    cases h

theorem reread_of_encode_eq_error (h : r.encode = .error failure) : r.reread = .error failure := by
  rw [reread, h]
  rfl

/-- To tell of a record takes reading it back, and nothing else of it can fail. -/
theorem reread_of_summary_eq_error (h : r.summary = .error failure) :
    r.reread = .error failure := by
  cases encoded : r.encode with
  | error other =>
    rw [summary, encoded] at h
    cases h
    exact reread_of_encode_eq_error encoded
  | ok data =>
    rw [summary, encoded] at h
    rw [reread_eq_of_encode_eq encoded]
    exact decode_of_ofBytes_eq_error h

namespace Unedited

theorem encode (unedited : Unedited r q) : q.encode = r.encode := by
  rcases unedited with rfl | read
  · rfl
  · obtain ⟨data, encoded, decoded⟩ := exists_encode_of_reread_eq_ok read
    rw [encoded, (readFrom_of_decode_eq_ok decoded).encode]

theorem reread (unedited : Unedited r q) : q.reread = r.reread := by
  rw [Record.reread, unedited.encode, Record.reread]

theorem summary (unedited : Unedited r q) : q.summary = r.summary := by
  rw [Record.summary, unedited.encode, Record.summary]

theorem eq_of_aligned (unedited : Unedited r q) (aligned : r.Aligned) : q = r := by
  rcases unedited with same | read
  · exact same
  · obtain ⟨data, encoded, decoded⟩ := exists_encode_of_reread_eq_ok read
    exact (eq_iff_aligned encoded decoded).mpr aligned

end Unedited

/-- What an answer tells of a record. Every failure is that of reading the record back. -/
def Answer.Of (r : Record) : Answer → Prop
  | .record q => Unedited r q
  | .bytes data => r.encode = .ok data
  | .summary s => r.summary = .ok s
  | .reread q same => r.reread = .ok q ∧ (r.Aligned → same = true)
  | .failed failure => r.reread = .error failure

def Step.Assigns : Step → Prop
  | .assign _ => True
  | _ => False

/-- A failure leaves the record as it was. -/
theorem step_of_failed {s : Step} (failed : (r.step s).2 = .failed failure) :
    (r.step s).1 = r := by
  cases s with
  | assign assignment => cases failed
  | inspect => rfl
  | encode => cases encoded : r.encode <;> simp [step, encoded]
  | summarize => cases told : r.summary <;> simp [step, told]
  | reread =>
    cases read : r.reread with
    | error other => simp [step, read]
    | ok q => simp [step, read] at failed

/-- A step that assigns nothing leaves what is written of the record, and answers it. -/
theorem Unedited.step (unedited : Unedited r q) {s : Step} (quiet : ¬s.Assigns) :
    Unedited r (q.step s).1 ∧ (q.step s).2.Of r := by
  cases s with
  | assign assignment => exact absurd trivial quiet
  | inspect => exact ⟨unedited, unedited⟩
  | encode =>
    cases encoded : q.encode with
    | ok data =>
      simp only [Record.step, encoded]
      exact ⟨unedited, unedited.encode.symm.trans encoded⟩
    | error failure =>
      simp only [Record.step, encoded]
      exact ⟨unedited, unedited.reread.symm.trans (reread_of_encode_eq_error encoded)⟩
  | summarize =>
    cases told : q.summary with
    | ok s =>
      simp only [Record.step, told]
      exact ⟨unedited, unedited.summary.symm.trans told⟩
    | error failure =>
      simp only [Record.step, told]
      exact ⟨unedited, unedited.reread.symm.trans (reread_of_summary_eq_error told)⟩
  | reread =>
    cases read : q.reread with
    | ok t =>
      have original : r.reread = .ok t := unedited.reread.symm.trans read
      simp only [Record.step, read]
      refine ⟨.inr original, original, fun aligned => ?_⟩
      have same : t = q :=
        (eq_of_aligned (.inr original) aligned).trans (unedited.eq_of_aligned aligned).symm
      exact decide_eq_true same
    | error failure =>
      simp only [Record.step, read]
      exact ⟨unedited, unedited.reread.symm.trans read⟩

/-- The record that is left when all steps are taken. -/
def after (r : Record) (steps : List Step) : Record :=
  steps.foldl (fun q s => (q.step s).1) r

@[simp] theorem after_cons (r : Record) (s : Step) (rest : List Step) :
    r.after (s :: rest) = (r.step s).1.after rest := rfl

@[simp] theorem after_append (r : Record) (before rest : List Step) :
    r.after (before ++ rest) = (r.after before).after rest :=
  List.foldl_append

theorem after_map_assign (r : Record) (assignments : List Assignment) :
    r.after (assignments.map .assign) = assignments.foldl assign r :=
  List.foldl_map

@[simp] theorem run_cons (r : Record) (s : Step) (rest : List Step) :
    r.run (s :: rest) = (r.step s).2 :: (r.step s).1.run rest := rfl

theorem run_append (r : Record) (before rest : List Step) :
    r.run (before ++ rest) = r.run before ++ (r.after before).run rest := by
  induction before generalizing r with
  | nil => rfl
  | cons s steps ih => simp [ih]

theorem length_run (r : Record) (steps : List Step) : (r.run steps).length = steps.length := by
  induction steps generalizing r with
  | nil => rfl
  | cons s rest ih => simp [ih]

theorem Unedited.run {steps : List Step} (unedited : Unedited r q)
    (quiet : ∀ s ∈ steps, ¬s.Assigns) :
    Unedited r (q.after steps) ∧ ∀ answer ∈ q.run steps, answer.Of r := by
  induction steps generalizing q with
  | nil => exact ⟨unedited, fun answer none => absurd none List.not_mem_nil⟩
  | cons s rest ih =>
    obtain ⟨next, answer⟩ := unedited.step (quiet s List.mem_cons_self)
    obtain ⟨last, answers⟩ := ih next fun t later => quiet t (List.mem_cons_of_mem s later)
    rw [after_cons, run_cons]
    exact ⟨last, List.forall_mem_cons.mpr ⟨answer, answers⟩⟩

/-- From one assignment up to the next, all answers tell of the record as the first of them has left
it, whatever came before. So all bytes that are answered are the same, and so are all records read
back, and where there is a failure it is always the same one. -/
theorem run_after_assignment (r : Record) (before : List Step) (assignment : Assignment)
    {steps : List Step} (quiet : ∀ s ∈ steps, ¬s.Assigns) :
    let edited := (r.after before).assign assignment
    Unedited edited (r.after (before ++ .assign assignment :: steps)) ∧
      ∃ answers : List Answer,
        r.run (before ++ .assign assignment :: steps) =
          r.run before ++ .record edited :: answers ∧
        answers.length = steps.length ∧ ∀ answer ∈ answers, answer.Of edited := by
  intro edited
  obtain ⟨last, answers⟩ := Unedited.run (.inl rfl : Unedited edited edited) quiet
  refine ⟨?_, edited.run steps, ?_, length_run edited steps, answers⟩
  · rw [after_append]
    exact last
  · rw [run_append]
    rfl

end KeyExport.Record

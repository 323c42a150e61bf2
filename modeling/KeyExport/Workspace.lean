import KeyExport.Record.Editing
import KeyExport.Session

set_option autoImplicit false

/-!
# Workspaces

A workspace holds sessions under names and every record that they produced, in order. A run
carries out commands one after the other against one source of random values.
-/

namespace KeyExport

/-- The ways to open a session. An ephemeral key may be given along with two of them. -/
inductive Opening where
  | bytes (publicKey : Bytes) (ephemeral : Option KeyMaterial)
  | hex (text : String)
  | recipient (key : RecipientKey) (ephemeral : Option KeyMaterial)

def decodeEphemeral : Option KeyMaterial → Except Failure (Option PrivateKey)
  | none => .ok none
  | some material => material.decode.map some

/-- A given ephemeral key is decoded before anything else. -/
def Opening.start : Opening → Action Session
  | .bytes publicKey ephemeral => do
    let given ← .ofExcept (decodeEphemeral ephemeral)
    Session.start publicKey given
  | .hex text => Session.startHex text
  | .recipient key ephemeral => do
    let given ← .ofExcept (decodeEphemeral ephemeral)
    Session.startFor key given

inductive Command where
  | openSession (slot : String) (opening : Opening)
  | encrypt (slot : String) (plaintext : Plaintext)
  | encryptRecord (slot : String) (plaintext : Plaintext)
  | inspect (slot : String)
  /-- Reads a produced record after tampering with a copy of its bytes. -/
  | tamper (record : Nat) (tampering : Tampering)

inductive Reply where
  | session (s : Session)
  | bytes (data : Bytes)
  | record (r : Record)
  | state (s : Session)
  | reading (r : Record) (summary : RecordSummary)
  | failed (failure : Failure)
  | noSession
  | noRecord

structure Workspace where
  /-- The newest session of a name stands first. -/
  sessions : List (String × Session)
  records : List Bytes

namespace Workspace

def empty : Workspace := ⟨[], []⟩

def session? (w : Workspace) (slot : String) : Option Session :=
  w.sessions.lookup slot

def putSession (w : Workspace) (slot : String) (s : Session) : Workspace :=
  { w with sessions := (slot, s) :: w.sessions }

def addRecord (w : Workspace) (data : Bytes) : Workspace :=
  { w with records := w.records ++ [data] }

@[simp] theorem session?_empty (slot : String) : empty.session? slot = none := rfl

@[simp] theorem session?_putSession (w : Workspace) (slot : String) (s : Session) :
    (w.putSession slot s).session? slot = some s := by
  simp [session?, putSession]

theorem session?_putSession_of_ne (w : Workspace) {slot other : String} (s : Session)
    (h : other ≠ slot) : (w.putSession slot s).session? other = w.session? other := by
  simp [session?, putSession, List.lookup_cons, beq_false_of_ne h]

@[simp] theorem session?_addRecord (w : Workspace) (data : Bytes) (slot : String) :
    (w.addRecord data).session? slot = w.session? slot := rfl

def readTampered (data : Bytes) (tampering : Tampering) :
    Except Failure (Record × RecordSummary) := do
  let changed := tampering.apply data
  let r ← Record.decode changed
  let summary ← RecordSummary.ofBytes changed
  return (r, summary)

/-- The work of a command, which gives the next workspace and the reply. -/
def perform (w : Workspace) : Command → Action (Workspace × Reply)
  | .openSession slot opening => do
    let s ← opening.start
    return (w.putSession slot s, .session s)
  | .encrypt slot plaintext =>
    match w.session? slot with
    | none => pure (w, .noSession)
    | some s => do
      let data ← s.encrypt plaintext
      return (w.addRecord data, .bytes data)
  | .encryptRecord slot plaintext =>
    match w.session? slot with
    | none => pure (w, .noSession)
    | some s => do
      let r ← s.encryptRecord plaintext
      let data ← .ofExcept r.encode
      return (w.addRecord data, .record r)
  | .inspect slot =>
    match w.session? slot with
    | none => pure (w, .noSession)
    | some s => pure (w, .state s)
  | .tamper record tampering =>
    match w.records[record]? with
    | none => pure (w, .noRecord)
    | some data => do
      let (r, summary) ← .ofExcept (readTampered data tampering)
      return (w, .reading r summary)

/-- A failed command leaves the workspace as it was. -/
def step (w : Workspace) (command : Command) (source : Source) :
    Workspace × Reply × List Event :=
  match w.perform command source with
  | ⟨.ok (next, reply), events⟩ => (next, reply, events)
  | ⟨.error failure, events⟩ => (w, .failed failure, events)

/-- The reply to each command, with the events that it caused. -/
def run (w : Workspace) : List Command → Source → List (Reply × List Event)
  | [], _ => []
  | command :: rest, source =>
    let (next, reply, events) := w.step command source
    (reply, events) :: run next rest (source.after events)

end Workspace
end KeyExport

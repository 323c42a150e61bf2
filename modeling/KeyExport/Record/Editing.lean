import KeyExport.Record.Basic

set_option autoImplicit false

/-!
# Editing records

Fields of a record are assigned without any check; the wire format decides later whether the
result can be written, and whether what is written can be read again.
-/

namespace KeyExport

namespace Record

inductive Assignment where
  | version (value : Int)
  | keyId (value : Bytes)
  | ephemeralPoint (value : Bytes)
  | nonce (value : Bytes)
  | ciphertext (value : Bytes)

def assign (r : Record) : Assignment → Record
  | .version value => { r with version := value }
  | .keyId value => { r with keyId := value }
  | .ephemeralPoint value => { r with ephemeralPoint := value }
  | .nonce value => { r with nonce := value }
  | .ciphertext value => { r with ciphertext := value }

def reread (r : Record) : Except Failure Record := do
  decode (← r.encode)

def summary (r : Record) : Except Failure RecordSummary := do
  RecordSummary.ofBytes (← r.encode)

inductive Step where
  | assign (assignment : Assignment)
  | inspect
  | encode
  | summarize
  | reread

inductive Answer where
  | record (r : Record)
  | bytes (data : Bytes)
  | summary (s : RecordSummary)
  /-- The record read back, and whether it is the one that was written. -/
  | reread (r : Record) (same : Bool)
  | failed (failure : Failure)

/-- The record after a step, and the answer. A failure leaves the record as it was. -/
def step (r : Record) : Step → Record × Answer
  | .assign assignment =>
    let changed := r.assign assignment
    (changed, .record changed)
  | .inspect => (r, .record r)
  | .encode =>
    match r.encode with
    | .ok data => (r, .bytes data)
    | .error failure => (r, .failed failure)
  | .summarize =>
    match r.summary with
    | .ok s => (r, .summary s)
    | .error failure => (r, .failed failure)
  | .reread =>
    match r.reread with
    | .ok read => (read, .reread read (read = r))
    | .error failure => (r, .failed failure)

def run (r : Record) : List Step → List Answer
  | [] => []
  | s :: rest =>
    let (next, answer) := r.step s
    answer :: run next rest

end Record

/-- A change to the bytes of a record: a cut, then single bytes altered, then bytes appended. -/
structure Tampering where
  keep : Option Nat
  altered : List (Nat × UInt8)
  appended : Bytes

def Tampering.apply (t : Tampering) (data : Bytes) : Bytes :=
  let kept := (t.keep.map data.take).getD data
  t.altered.foldl (fun bytes (i, mask) => bytes.modify i (· ^^^ mask)) kept ++ t.appended

end KeyExport

import KeyExport.Hex

set_option autoImplicit false

/-!
# Log entries

What the library tells an operator while it works. An entry holds public facts only: lengths, a
key id, or the text with which a primitive refused.
-/

namespace KeyExport

inductive LogLevel where
  | debug
  | warning
  deriving DecidableEq

/-- The part of the library that speaks. -/
inductive LogChannel where
  | keyAgreement
  | session
  deriving DecidableEq

inductive LogEntry where
  | agreementRefused (text : String)
  | sessionReady (keyId : Bytes)
  | encrypted (plaintext : Int) (record : Nat)
  deriving DecidableEq

namespace LogEntry

def level : LogEntry → LogLevel
  | agreementRefused _ => .warning
  | sessionReady _ | encrypted _ _ => .debug

def channel : LogEntry → LogChannel
  | agreementRefused _ => .keyAgreement
  | sessionReady _ | encrypted _ _ => .session

def message : LogEntry → String
  | agreementRefused text => s!"Key agreement rejected by backend: {text}"
  | sessionReady keyId => s!"Hybrid encryption session ready for key id {Hex.encode keyId}"
  | encrypted plaintext record => s!"Encrypted {plaintext} bytes into {record} byte record"

end LogEntry
end KeyExport

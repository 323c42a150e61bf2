set_option autoImplicit false

/-!
# Sizes on the wire

All sizes are counts of bytes. A record is a version byte, a key id, an ephemeral point and a
nonce, followed by the sealed payload and its tag.
-/

namespace KeyExport.Sizes

def coordinate : Nat := 32
def point : Nat := 2 * coordinate
def scalar : Nat := coordinate
def secret : Nat := coordinate
def keyId : Nat := 4
def publicKey : Nat := keyId + point

def version : Nat := 1
def nonce : Nat := 12
def tag : Nat := 16
def header : Nat := version + keyId + point + nonce
def overhead : Nat := header + tag

def hash : Nat := 32
def sealingKey : Nat := 16

/-- The greatest number of hash blocks that one key derivation may produce. -/
def maxRounds : Nat := 255

def maxDerived : Nat := maxRounds * hash

/-- The length of the longest byte string, 2⁶³ - 34: no count of bytes reaches 2⁶³, and a byte string
takes 33 beside its own. -/
def maxBytes : Nat := 0x7fffffffffffffde

end KeyExport.Sizes

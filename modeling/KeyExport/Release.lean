set_option autoImplicit false

/-!
# Release

The number under which this state of the library is given out. It is told to callers, and nothing
that the library computes depends on it.
-/

namespace KeyExport

def release : String := "1.0.0"

end KeyExport

/-!
# Byte strings

Bitstreams and parameter records are read and written front to back, a few hundred
bytes at a time, and are lists of bytes.
-/

namespace AvcDriver

/-- A finite byte string. -/
abbrev Bytes := List UInt8

end AvcDriver

/-!
# Kinds of recordings

A filter over running recordings is a set of bits; two filters meet when they share one.
-/

namespace Bouquet

/-- A set of recording kinds. -/
structure RecordType where
  bits : UInt32
  deriving DecidableEq, Inhabited

namespace RecordType

/-- Written to disk. -/
def real : RecordType := ⟨0x01⟩

/-- Streamed to a client. -/
def streaming : RecordType := ⟨0x02⟩

/-- Held open without writing. -/
def pseudo : RecordType := ⟨0x04⟩

/-- Of unknown origin. -/
def unknown : RecordType := ⟨0x08⟩

/-- Started by a timer. -/
def fromTimer : RecordType := ⟨0x1000⟩

/-- Started at once by hand. -/
def fromInstant : RecordType := ⟨0x2000⟩

/-- Started to refresh the program guide. -/
def fromGuideRefresh : RecordType := ⟨0x4000⟩

/-- Started by a fast channel jump. -/
def fromFastJump : RecordType := ⟨0x8000⟩

/-- Every way of recording. -/
def any : RecordType := ⟨0xFF⟩

/-- The bits of both. -/
def union (a b : RecordType) : RecordType := ⟨a.bits ||| b.bits⟩

/-- Whether the two share a bit. -/
def intersects (a b : RecordType) : Bool := a.bits &&& b.bits != 0

end RecordType

end Bouquet

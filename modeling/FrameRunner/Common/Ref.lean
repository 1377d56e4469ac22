import Mathlib.Data.Nat.Notation

/-!
# Borrowed pointers

The C modules hold borrowed pointers to each other's objects. The model names
an object by a number, and a pointer field that may be `NULL` is an `Option`.
-/

namespace FrameRunner

/-- `Interface *`. -/
abbrev IfaceRef := ℕ

/-- `Link *`. -/
abbrev LinkRef := ℕ

/-- `ArpCache *`. -/
abbrev CacheRef := ℕ

/-- `IpStack *`. -/
abbrev StackRef := ℕ

/-- `Router *`. -/
abbrev RouterRef := ℕ

/-- `Switch *`. -/
abbrev SwitchRef := ℕ

/-- `UdpContext *`. -/
abbrev UdpRef := ℕ

/-- `RipState *`. -/
abbrev RipRef := ℕ

/-- A function or context pointer that belongs to the application. -/
abbrev AppRef := ℕ

end FrameRunner

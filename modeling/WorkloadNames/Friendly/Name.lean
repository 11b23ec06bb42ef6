import WorkloadNames.Dns.Rule

/-!
Friendly names: an identifier, a hyphen and a fragment of a hash, in no more bytes than a DNS
subdomain may have. Where the whole is longer, the identifier is cut from the right and the fragment
is kept. The cut is made at a byte offset, so joining has no answer when the fragment leaves no room
or when the offset falls inside a character of the identifier.
-/

set_option autoImplicit false
set_option relaxedAutoImplicit false

namespace WorkloadNames.Friendly

/-- The greatest number of bytes of a friendly name. -/
def maxLength : Nat := Dns.Rule.subdomain.limit

/-- What was cut off an identifier: its length in bytes before and after. -/
structure Cut where
  fullLength : Nat
  keptLength : Nat
  deriving DecidableEq, Repr

/-- A friendly name in its two parts, with the cut that made room for the second. -/
structure Name where
  identifier : Text
  suffix : Text
  cut? : Option Cut
  deriving DecidableEq, Repr

/-- The name as it is written. -/
def Name.text (name : Name) : Text := name.identifier ++ '-' :: name.suffix

/-- The bytes that a suffix and its hyphen leave to the identifier. -/
def roomBeside? (suffix : Text) : Option Nat :=
  if Text.byteLength suffix + 1 ≤ maxLength then some (maxLength - 1 - Text.byteLength suffix)
  else none

theorem roomBeside?_eq_some_iff {suffix : Text} {room : Nat} :
    roomBeside? suffix = some room ↔ room + 1 + Text.byteLength suffix = maxLength := by
  rw [roomBeside?]
  constructor
  · intro h
    split at h
    · simp only [Option.some.injEq] at h
      omega
    · simp at h
  · intro h
    rw [if_pos (by omega), Option.some.injEq]
    omega

/-- The friendly name of an identifier and a suffix. -/
def Name.join? (identifier suffix : Text) : Option Name := do
  let room ← roomBeside? suffix
  if room < Text.byteLength identifier then
    let kept ← Text.before? identifier room
    return ⟨kept, suffix, some ⟨Text.byteLength identifier, room⟩⟩
  else
    return ⟨identifier, suffix, none⟩

end WorkloadNames.Friendly

/-!
# Identities and privileges

Players and scores are known by 64-bit numbers. Privileges are a set of bits, of which the
coordination service reads one: whether the account may be seen in public.
-/

namespace Coordination

abbrev UserId := Int64
abbrev ScoreId := Int64

/-- What an account may do, one bit each. -/
structure Privileges where
  bits : UInt32
deriving DecidableEq, Repr

namespace Privileges

/-- The bit of every account that is allowed on public leaderboards. -/
def unrestrictedBit : UInt32 := 1

def isUnrestricted (p : Privileges) : Bool := p.bits &&& unrestrictedBit != 0

/-- Takes the public bit away and keeps the others. -/
def restrict (p : Privileges) : Privileges := ⟨p.bits &&& ~~~unrestrictedBit⟩

@[simp] theorem isUnrestricted_restrict (p : Privileges) : p.restrict.isUnrestricted = false := by
  have : p.bits &&& ~~~unrestrictedBit &&& unrestrictedBit = 0 := by
    rw [UInt32.and_assoc, show ~~~unrestrictedBit &&& unrestrictedBit = 0 from by decide,
      UInt32.and_zero]
  simp [isUnrestricted, restrict, this]

@[simp] theorem restrict_restrict (p : Privileges) : p.restrict.restrict = p.restrict := by
  simp [restrict, UInt32.and_assoc]

end Privileges

end Coordination

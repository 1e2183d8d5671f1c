/-!
# Messages

What travels between processes: bytes on a named channel. The bytes' form is a matter of the
channel alone.
-/

namespace Coordination

structure Message where
  channel : String
  payload : ByteArray

/-- Messages are compared by their channels and bytes. -/
instance : DecidableEq Message := fun a b =>
  decidable_of_iff (a.channel = b.channel ∧ a.payload.data = b.payload.data) <| by
    cases a
    cases b
    simp [ByteArray.ext_iff]

end Coordination

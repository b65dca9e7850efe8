/-!
# Endpoints

Where a member can be reached: an internet address of either version with a
port.  A version 6 address is eight groups of sixteen bits and may be bound to a
scope; scope zero is no scope.
-/

namespace Leadership

/-- An address of version 4, from its first octet to its last. -/
structure Address4 where
  first : UInt8
  second : UInt8
  third : UInt8
  fourth : UInt8
deriving DecidableEq

/-- An address of version 6. -/
structure Address6 where
  groups : List UInt16
  eight : groups.length = 8
deriving DecidableEq

namespace Address6

def ofGroups? (groups : List UInt16) : Option Address6 :=
  if eight : groups.length = 8 then some ⟨groups, eight⟩ else none

@[simp]
theorem ofGroups?_groups (address : Address6) :
    ofGroups? address.groups = some address := by
  simp [ofGroups?, address.eight]

end Address6

/-- An address with a port. -/
inductive Endpoint where
  | v4 (address : Address4) (port : UInt16)
  | v6 (address : Address6) (scope : UInt32) (port : UInt16)
deriving DecidableEq

end Leadership

/-!
# Node identifiers

A node is named by a 64-bit word in the membership of its consensus engine.
The zero word is an ordinary identifier here; only an engine's published lead
reads it as "nobody".
-/

namespace Leadership

/--
The identifier of a cluster member.  Uniqueness is a matter of the membership
and is not enforced here.
-/
structure NodeId where
  value : UInt64
deriving DecidableEq

namespace NodeId

/-- The identifier with a given number, taken modulo `2 ^ 64`. -/
def ofNat (number : Nat) : NodeId :=
  ⟨UInt64.ofNat number⟩

def toNat (node : NodeId) : Nat :=
  node.value.toNat

theorem toNat_lt (node : NodeId) : node.toNat < UInt64.size :=
  node.value.toNat_lt_size

theorem toNat_ofNat {number : Nat} (small : number < UInt64.size) :
    (ofNat number).toNat = number := by
  simp only [toNat, ofNat, UInt64.toNat_ofNat']
  exact Nat.mod_eq_of_lt small

@[simp]
theorem ofNat_toNat (node : NodeId) : ofNat node.toNat = node := by
  simp [ofNat, toNat]

theorem toNat_inj {left right : NodeId} :
    left.toNat = right.toNat ↔ left = right := by
  constructor
  · intro same
    rw [← ofNat_toNat left, ← ofNat_toNat right, same]
  · rintro rfl
    rfl

/-- Identifiers are written as bare decimal numbers, whatever width is asked for. -/
def text (node : NodeId) : String :=
  node.toNat.repr

/-- The form that names the type as well. -/
def labelled (node : NodeId) : String :=
  "NodeId(" ++ node.text ++ ")"

instance : LE NodeId where
  le left right := left.value ≤ right.value

instance (left right : NodeId) : Decidable (left ≤ right) :=
  inferInstanceAs (Decidable (left.value ≤ right.value))

/-- Identifiers from the least to the greatest, repetitions kept. -/
def sorted (nodes : List NodeId) : List NodeId :=
  nodes.mergeSort (fun left right => decide (left ≤ right))

/-- The greatest of some identifiers, if there is one. -/
def greatest? (nodes : List NodeId) : Option NodeId :=
  (sorted nodes).getLast?

end NodeId

end Leadership

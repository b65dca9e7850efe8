import Leadership.Fault
import Leadership.Proofs.Text.Digits

/-!
# The wording of faults

A fault is known again by its wording, but for the causes of a foreign failure,
which are not shown.  Four characters at the front tell its kind, and what stands
behind the opening of that kind tells the rest.  A detail that quotes the wording
of another fault stands behind an opening itself, and so it misleads nobody.
-/

namespace Leadership

open Text

/-- The identifier whose digits a text starts with. -/
def NodeId.leading? (text : List Char) : Option NodeId :=
  match spanDigits 10 text with
  | ([], _) => none
  | (digits, _) => some (.ofNat (ofDigits 10 digits))

theorem NodeId.leading?_text_append (node : NodeId) {suffix : String}
    (stops : Stops (isDigitOf 10) suffix.toList) :
    leading? (node.text ++ suffix).toList = some node := by
  rcases exists_digitsOf_cons isBase_ten node.toNat with ⟨first, others, shape, -⟩
  rw [leading?, String.toList_append, text, spanDigits_repr_append node.toNat stops, shape]
  simp only [← shape, ofDigits_digitsOf isBase_ten, NodeId.ofNat_toNat]

namespace Fault

/-- The kinds of faults. -/
inductive Kind where
  | noLeader
  | engineUnavailable
  | notLeader
  | unknownMember
  | timeout
  | configuration
  | serialization
  | backend
deriving DecidableEq

def kind : Fault → Kind
  | .noLeader => .noLeader
  | .engineUnavailable _ => .engineUnavailable
  | .notLeader _ => .notLeader
  | .unknownMember _ => .unknownMember
  | .timeout _ => .timeout
  | .configuration _ => .configuration
  | .serialization _ => .serialization
  | .backend _ _ => .backend

/-- A fault as far as its wording shows it, without the inner causes of a foreign failure. -/
def shown : Fault → Fault
  | .backend outermost _ => .backend outermost []
  | fault => fault

/-- What a wording says behind the opening of its kind. -/
def remainder : Fault → String
  | .noLeader => ""
  | .engineUnavailable detail => detail
  | .notLeader (some leader) => leader.text ++ ")"
  | .notLeader none => "unknown)"
  | .unknownMember leader => leader.text ++ " is not a configured cluster member"
  | .timeout detail => detail
  | .configuration detail => detail
  | .serialization detail => detail
  | .backend outermost _ => outermost

namespace Kind

/-- What all wordings of a kind start with. -/
def opening : Kind → String
  | .noLeader => "No leader is currently known"
  | .engineUnavailable => "Consensus engine unavailable: "
  | .notLeader => "Not the leader (current leader: "
  | .unknownMember => "Leader "
  | .timeout => "Timeout error: "
  | .configuration => "Configuration error: "
  | .serialization => "Serialization error: "
  | .backend => "Backend error: "

/-- The kind of a wording by its first four characters. -/
def ofStart? : List Char → Option Kind
  | 'N' :: 'o' :: ' ' :: 'l' :: _ => some .noLeader
  | 'C' :: 'o' :: 'n' :: 's' :: _ => some .engineUnavailable
  | 'N' :: 'o' :: 't' :: ' ' :: _ => some .notLeader
  | 'L' :: 'e' :: 'a' :: 'd' :: _ => some .unknownMember
  | 'T' :: 'i' :: 'm' :: 'e' :: _ => some .timeout
  | 'C' :: 'o' :: 'n' :: 'f' :: _ => some .configuration
  | 'S' :: 'e' :: 'r' :: 'i' :: _ => some .serialization
  | 'B' :: 'a' :: 'c' :: 'k' :: _ => some .backend
  | _ => none

/-- The fault of a kind with a remainder, as far as the remainder tells it. -/
def restore? (kind : Kind) (remainder : String) : Option Fault :=
  match kind with
  | .noLeader => some .noLeader
  | .engineUnavailable => some (.engineUnavailable remainder)
  | .notLeader => some (.notLeader (NodeId.leading? remainder.toList))
  | .unknownMember => (NodeId.leading? remainder.toList).map .unknownMember
  | .timeout => some (.timeout remainder)
  | .configuration => some (.configuration remainder)
  | .serialization => some (.serialization remainder)
  | .backend => some (.backend remainder [])

theorem ofStart?_opening_append (kind : Kind) (rest : List Char) :
    ofStart? (kind.opening.toList ++ rest) = some kind := by
  cases kind <;> rfl

end Kind

theorem message_eq (fault : Fault) : fault.message = fault.kind.opening ++ fault.remainder := by
  cases fault with
  | notLeader leader =>
      cases leader with
      | none => rfl
      | some leader => exact String.append_assoc
  | unknownMember leader => exact String.append_assoc
  | _ => rfl

/-- Remainders of one kind tell all that is shown. -/
theorem restore?_remainder (fault : Fault) :
    fault.kind.restore? fault.remainder = some fault.shown := by
  cases fault with
  | notLeader leader =>
      cases leader with
      | none => rfl
      | some leader =>
          have stops : Stops (isDigitOf 10) ")".toList := stops_cons.mpr rfl
          exact congrArg (fun node => some (notLeader node)) (leader.leading?_text_append stops)
  | unknownMember leader =>
      have stops : Stops (isDigitOf 10) " is not a configured cluster member".toList :=
        stops_cons.mpr rfl
      exact congrArg (Option.map unknownMember) (leader.leading?_text_append stops)
  | _ => rfl

theorem kind_eq_of_message_eq {left right : Fault} (same : left.message = right.message) :
    left.kind = right.kind := by
  have read := left.kind.ofStart?_opening_append left.remainder.toList
  rw [← String.toList_append, ← message_eq, same, message_eq, String.toList_append,
    Kind.ofStart?_opening_append] at read
  exact (Option.some.inj read).symm

@[simp]
theorem message_shown (fault : Fault) : fault.shown.message = fault.message := by
  cases fault <;> rfl

@[simp]
theorem retryable_shown (fault : Fault) : fault.shown.retryable = fault.retryable := by
  cases fault <;> rfl

/-- Faults have the same wording exactly if they differ in nothing that is shown. -/
theorem message_eq_iff {left right : Fault} :
    left.message = right.message ↔ left.shown = right.shown := by
  constructor
  · intro same
    have sameKind := kind_eq_of_message_eq same
    rw [message_eq, message_eq right, sameKind] at same
    have restored := left.restore?_remainder
    rw [sameKind, (String.append_right_inj _).mp same, right.restore?_remainder] at restored
    exact (Option.some.inj restored).symm
  · intro same
    rw [← message_shown, same, message_shown]

/-- Of a foreign failure in its contexts the last one is shown, or its root without any. -/
theorem shown_backendWithin (root : String) (contexts : List String) :
    (backendWithin root contexts).shown = .backend (contexts.getLast?.getD root) [] := by
  rw [← List.head?_reverse, backendWithin]
  cases contexts.reverse <;> rfl

end Fault

end Leadership

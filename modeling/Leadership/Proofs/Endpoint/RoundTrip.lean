import Leadership.Endpoint.Text
import Leadership.Proofs.Text.Digits

/-!
# Endpoints that are written and read

Every endpoint is read back from its canonical text.  A version 6 address has
three written forms: all eight groups, groups around two colons, and an inner
version 4 address with dots.  The reader tries a version 4 address in front of
every group, so a group in hexadecimal digits must never be taken for an octet:
no dot follows it.
-/

namespace Leadership.Endpoint

open Leadership.Text

/-! ## Numbers and marks -/

theorem readNumber_digitsOf {base bound : Nat} (isBase : IsBase base)
    {number : Nat} (small : number < bound) {rest : List Char}
    (stops : Stops (isDigitOf base) rest) :
    readNumber base bound (digitsOf base number ++ rest) = some (number, rest) := by
  have nonempty : (digitsOf base number).isEmpty = false :=
    List.isEmpty_eq_false_iff.mpr (digitsOf_ne_nil base number)
  simp only [readNumber, spanDigits_digitsOf isBase number stops, nonempty,
    ofDigits_digitsOf isBase, small, if_true, if_false, Bool.false_eq_true]

theorem readNumber_of_stops {base bound : Nat} {text : List Char}
    (stops : Stops (isDigitOf base) text) :
    readNumber base bound text = none := by
  simp only [readNumber, stops.spanDigits_eq, List.isEmpty_nil, if_true]

@[simp]
theorem readMark_cons (mark : Char) (rest : List Char) :
    readMark mark (mark :: rest) = some rest := by
  simp only [readMark, if_true]

theorem readMark_of_head?_ne {mark : Char} {text : List Char} (other : text.head? ≠ some mark) :
    readMark mark text = none := by
  cases text with
  | nil => rfl
  | cons character rest =>
      have differs : character ≠ mark := fun same => other (by rw [same, List.head?_cons])
      simp only [readMark, differs, if_false]

theorem readPort_write (port : UInt16) :
    readPort (':' :: digitsOf 10 port.toNat) = some (port, []) := by
  have number := readNumber_digitsOf isBase_ten port.toNat_lt stops_nil
  rw [List.append_nil] at number
  simp [readPort, number]

theorem readScope_write (scope : UInt32) (rest : List Char) :
    readScope (writeScope scope ++ ']' :: rest) = (scope, ']' :: rest) := by
  by_cases unscoped : scope = 0
  · rw [unscoped]
    rfl
  · have stops : Stops (isDigitOf 10) (']' :: rest) := stops_cons.mpr (by decide)
    have number := readNumber_digitsOf isBase_ten scope.toNat_lt stops
    simp [readScope, writeScope, unscoped, number]

/-! ## Addresses of version 4 -/

theorem readOctet_digitsOf (octet : UInt8) {rest : List Char} (stops : Stops (isDigitOf 10) rest) :
    readOctet (digitsOf 10 octet.toNat ++ rest) = some (octet, rest) := by
  have short : (digitsOf 10 octet.toNat).length ≤ 3 :=
    length_digitsOf_le isBase_ten (by decide) (Nat.lt_trans octet.toNat_lt (by decide))
  have number := readNumber_digitsOf isBase_ten octet.toNat_lt stops
  rw [readOctet, spanDigits_digitsOf isBase_ten octet.toNat stops]
  split
  · next digit digits behind shape =>
      have front : digitsOf 10 octet.toNat = '0' :: digit :: digits := congrArg Prod.fst shape
      have several : 1 < (digitsOf 10 octet.toNat).length := by
        rw [front]
        exact Nat.succ_lt_succ (Nat.succ_pos _)
      have noZero := head?_digitsOf_ne_zero_of_several isBase_ten several
      rw [front] at noZero
      exact absurd rfl noZero
  · next digits behind _ shape =>
      have front : digitsOf 10 octet.toNat = digits := congrArg Prod.fst shape
      rw [← front, if_pos short, number]
      simp

theorem readAddress4_write (address : Address4) {rest : List Char}
    (stops : Stops (isDigitOf 10) rest) :
    readAddress4 (writeAddress4 address ++ rest) = some (address, rest) := by
  have dot (text : List Char) : Stops (isDigitOf 10) ('.' :: text) := stops_cons.mpr (by decide)
  simp [readAddress4, writeAddress4, readOctet_digitsOf _ (dot _), readOctet_digitsOf _ stops]

theorem readOctet_rest {text rest : List Char} {octet : UInt8}
    (reads : readOctet text = some (octet, rest)) :
    rest = (spanDigits 10 text).2 := by
  rw [readOctet] at reads
  split at reads
  · exact absurd reads (by simp)
  · split at reads
    · simp only [readNumber, Option.map_eq_some_iff, Prod.mk.injEq] at reads
      rcases reads with ⟨⟨number, behind⟩, numberRead, -, rfl⟩
      split at numberRead
      · exact absurd numberRead (by simp)
      · split at numberRead
        · exact (congrArg Prod.snd (Option.some.inj numberRead)).symm
        · exact absurd numberRead (by simp)
    · exact absurd reads (by simp)

/-- Without a dot behind the first digits there is no version 4 address. -/
theorem readAddress4_of_noDot {text : List Char}
    (noDot : (spanDigits 10 text).2.head? ≠ some '.') :
    readAddress4 text = none := by
  cases octetRead : readOctet text with
  | none => simp [readAddress4, octetRead]
  | some read =>
      have rest := readOctet_rest octetRead
      rw [← rest] at noDot
      simp [readAddress4, octetRead, readMark_of_head?_ne noDot]

theorem head?_spanDigits_ne_dot {digits rest : List Char}
    (all : ∀ digit ∈ digits, isDigitOf 16 digit = true) (noDot : rest.head? ≠ some '.')
    (stops : Stops (isDigitOf 16) rest) :
    (spanDigits 10 (digits ++ rest)).2.head? ≠ some '.' := by
  induction digits with
  | nil =>
      have stopsTen : Stops (isDigitOf 10) rest := stops.narrow (by decide)
      rw [List.nil_append, stopsTen.spanDigits_eq]
      exact noDot
  | cons digit digits induction =>
      have behind := induction (fun other member => all other (List.mem_cons_of_mem _ member))
      by_cases decimal : isDigitOf 10 digit = true
      · simp only [spanDigits, List.cons_append, List.dropWhile_cons_of_pos decimal] at behind ⊢
        exact behind
      · simp only [spanDigits, List.cons_append, List.dropWhile_cons_of_neg decimal,
          List.head?_cons]
        intro isDot
        have hexadecimal := all digit List.mem_cons_self
        rw [Option.some.inj isDot] at hexadecimal
        exact absurd hexadecimal (by decide)

/-! ## Groups -/

theorem readGroup_write (group : UInt16) {rest : List Char} (stops : Stops (isDigitOf 16) rest) :
    readGroup (writeGroup group ++ rest) = some (group, rest) := by
  have short : (digitsOf 16 group.toNat).length ≤ 4 :=
    length_digitsOf_le isBase_sixteen (by decide) group.toNat_lt
  have number := readNumber_digitsOf isBase_sixteen group.toNat_lt stops
  rw [readGroup, writeGroup, spanDigits_digitsOf isBase_sixteen group.toNat stops,
    if_pos short, number]
  simp

theorem readGroup_of_stops {text : List Char} (stops : Stops (isDigitOf 16) text) :
    readGroup text = none := by
  simp [readGroup, stops.spanDigits_eq, readNumber_of_stops stops]

/-- A text behind a group that neither goes on with it nor makes it an octet. -/
structure Severs (text : List Char) : Prop where
  stops : Stops (isDigitOf 16) text
  noDot : text.head? ≠ some '.'

theorem Severs.cons {mark : Char} (noDigit : isDigitOf 16 mark = false) (noDot : mark ≠ '.')
    (rest : List Char) :
    Severs (mark :: rest) where
  stops := stops_cons.mpr noDigit
  noDot := by simpa only [List.head?_cons, ne_eq, Option.some.injEq] using noDot

theorem severs_colon (rest : List Char) : Severs (':' :: rest) :=
  .cons (by decide) (by decide) rest

theorem readAddress4_of_severs {text : List Char} (severs : Severs text) :
    readAddress4 text = none := by
  apply readAddress4_of_noDot
  exact head?_spanDigits_ne_dot (List.forall_mem_nil _) severs.noDot severs.stops

theorem readAddress4_writeGroup (group : UInt16) {rest : List Char} (severs : Severs rest) :
    readAddress4 (writeGroup group ++ rest) = none := by
  apply readAddress4_of_noDot
  exact head?_spanDigits_ne_dot (fun _ => isDigitOf_of_mem_digitsOf isBase_sixteen)
    severs.noDot severs.stops

/-- A text behind which no further group is read. -/
structure Closes (text : List Char) : Prop extends Severs text where
  noGroup : ∀ room, readGroups room false text = (([], false), text)

theorem readGroups_of_severs {text : List Char} (severs : Severs text) (room : Nat) :
    readGroups room true text = (([], false), text) := by
  cases room with
  | zero => rfl
  | succ room =>
      simp [readGroups, readAddress4_of_severs severs, readGroup_of_stops severs.stops]

theorem Closes.cons {mark : Char} (noDigit : isDigitOf 16 mark = false) (noDot : mark ≠ '.')
    (noColon : mark ≠ ':') (rest : List Char) :
    Closes (mark :: rest) where
  toSevers := .cons noDigit noDot rest
  noGroup room := by
    cases room with
    | zero => rfl
    | succ room => simp [readGroups, readMark, noColon]

theorem closes_colons (rest : List Char) : Closes (':' :: ':' :: rest) where
  toSevers := severs_colon _
  noGroup room := by
    cases room with
    | zero => rfl
    | succ room =>
        have severs := severs_colon rest
        simp [readGroups, readAddress4_of_severs severs, readGroup_of_stops severs.stops]

/-- Groups with a colon in front of each. -/
def writeFollowing (groups : List UInt16) : List Char :=
  groups.flatMap (fun group => ':' :: writeGroup group)

theorem writeGroups_cons (group : UInt16) (groups : List UInt16) :
    writeGroups (group :: groups) = writeGroup group ++ writeFollowing groups := by
  induction groups generalizing group with
  | nil => simp [writeGroups, writeFollowing]
  | cons next groups induction =>
      rw [writeGroups, induction next, writeFollowing, writeFollowing, List.flatMap_cons]
      · rfl
      · exact List.cons_ne_nil next groups

theorem severs_writeFollowing (groups : List UInt16) {rest : List Char} (severs : Severs rest) :
    Severs (writeFollowing groups ++ rest) := by
  cases groups with
  | nil => exact severs
  | cons group groups => exact severs_colon _

theorem readGroups_writeFollowing {groups : List UInt16} {room : Nat} {rest : List Char}
    (fits : groups.length ≤ room) (closes : Closes rest) :
    readGroups room false (writeFollowing groups ++ rest) = ((groups, false), rest) := by
  induction groups generalizing room with
  | nil => exact closes.noGroup room
  | cons group groups induction =>
      cases room with
      | zero => exact absurd fits (Nat.not_succ_le_zero _)
      | succ room =>
          have severs := severs_writeFollowing groups closes.toSevers
          have others := induction (Nat.le_of_succ_le_succ fits)
          have text : writeFollowing (group :: groups) ++ rest =
              ':' :: (writeGroup group ++ (writeFollowing groups ++ rest)) := by
            simp [writeFollowing]
          simp [readGroups, text, readAddress4_writeGroup group severs,
            readGroup_write group severs.stops, others]

theorem readGroups_write {groups : List UInt16} {room : Nat} {rest : List Char}
    (fits : groups.length ≤ room) (closes : Closes rest) :
    readGroups room true (writeGroups groups ++ rest) = ((groups, false), rest) := by
  cases groups with
  | nil => exact readGroups_of_severs closes.toSevers room
  | cons group groups =>
      cases room with
      | zero => exact absurd fits (Nat.not_succ_le_zero _)
      | succ room =>
          have severs := severs_writeFollowing groups closes.toSevers
          have others := readGroups_writeFollowing (Nat.le_of_succ_le_succ fits) closes
          simp [readGroups, writeGroups_cons, readAddress4_writeGroup group severs,
            readGroup_write group severs.stops, others]

/-! ## Runs of zero groups -/

/-- Whether so many groups from a place on are there and are zero. -/
def ZerosAt (groups : List UInt16) (run : Nat × Nat) : Prop :=
  run.1 + run.2 ≤ groups.length ∧
    (groups.drop run.1).take run.2 = List.replicate run.2 0

theorem zerosAt_zerosFrom {groups : List UInt16} {place : Nat} (inside : place ≤ groups.length) :
    ZerosAt groups (place, zerosFrom groups place) := by
  have isPrefix := List.takeWhile_prefix (fun group => group == 0) (l := groups.drop place)
  have taken := List.prefix_iff_eq_take.mp isPrefix
  constructor
  · have atMost := isPrefix.length_le
    rw [List.length_drop] at atMost
    simp only [zerosFrom]
    omega
  · simp only [zerosFrom]
    rw [← taken]
    apply List.eq_replicate_of_mem
    intro group member
    exact eq_of_beq (List.all_eq_true.mp List.all_takeWhile group member)

theorem zerosAt_longestZeros (groups : List UInt16) :
    ZerosAt groups (longestZeros groups) := by
  -- The best run so far is one; each place offers another.
  suffices further : ∀ (places : List Nat) (best : Nat × Nat),
      (∀ place ∈ places, place ≤ groups.length) → ZerosAt groups best →
      ZerosAt groups (places.foldl
        (fun best place =>
          if best.2 < zerosFrom groups place then (place, zerosFrom groups place) else best)
        best) by
    apply further
    · intro place member
      exact Nat.le_of_lt (List.mem_range.mp member)
    · exact ⟨Nat.zero_le _, rfl⟩
  intro places
  induction places with
  | nil =>
      intro best _ zeros
      exact zeros
  | cons place places induction =>
      intro best inside zeros
      apply induction _ (fun other member => inside other (List.mem_cons_of_mem _ member))
      by_cases longer : best.2 < zerosFrom groups place
      · simp only [longer, if_true]
        exact zerosAt_zerosFrom (inside place List.mem_cons_self)
      · simp only [longer, if_false]
        exact zeros

theorem ZerosAt.eq_append {groups : List UInt16} {place length : Nat}
    (zeros : ZerosAt groups (place, length)) :
    groups.take place ++ List.replicate length 0 ++ groups.drop (place + length) = groups := by
  rw [← zeros.2, List.append_assoc, ← List.drop_drop, List.take_append_drop,
    List.take_append_drop]

/-! ## Addresses of version 6 -/

theorem groupOf_octets (group : UInt16) :
    groupOf (group >>> 8).toUInt8 group.toUInt8 = group := by
  have small := group.toNat_lt
  apply UInt16.toNat_inj.mp
  simp [groupOf, Nat.shiftRight_eq_div_pow]
  omega

theorem writeGroup_mapped : writeGroup 0xffff = ['f', 'f', 'f', 'f'] := by
  decide

theorem eq_of_mapped? {groups : List UInt16} {inner : Address4}
    (mapped : mapped? groups = some inner) :
    groups =
      [0, 0, 0, 0, 0, 0xffff, groupOf inner.first inner.second,
        groupOf inner.third inner.fourth] := by
  unfold mapped? at mapped
  split at mapped
  · rw [← Option.some.inj mapped, groupOf_octets, groupOf_octets]
  · exact absurd mapped (by simp)

theorem readAddress6_mapped {address : Address6} {inner : Address4}
    (mapped : mapped? address.groups = some inner) {rest : List Char}
    (stops : Stops (isDigitOf 10) rest) :
    readAddress6 ("::ffff:".toList ++ writeAddress4 inner ++ rest) = some (address, rest) := by
  have text : "::ffff:".toList ++ writeAddress4 inner ++ rest =
      ':' :: ':' :: (writeGroup 0xffff ++ ':' :: (writeAddress4 inner ++ rest)) := by
    rw [writeGroup_mapped]
    rfl
  have head := readGroups_of_severs
    (severs_colon (':' :: (writeGroup 0xffff ++ ':' :: (writeAddress4 inner ++ rest)))) 8
  have severs := severs_colon (writeAddress4 inner ++ rest)
  have groups := eq_of_mapped? mapped
  have tail : readGroups 7 true (writeGroup 0xffff ++ ':' :: (writeAddress4 inner ++ rest)) =
      (([0xffff, groupOf inner.first inner.second, groupOf inner.third inner.fourth], true),
        rest) := by
    simp [readGroups, readAddress4_writeGroup 0xffff severs, readGroup_write 0xffff severs.stops,
      readAddress4_write inner stops]
  rw [text]
  simp [readAddress6, head, tail, ← groups]

theorem readAddress6_compressed {address : Address6} {place length : Nat}
    (zeros : ZerosAt address.groups (place, length)) (several : 2 ≤ length) {rest : List Char}
    (closes : Closes rest) :
    readAddress6
        (writeGroups (address.groups.take place) ++ ':' :: ':' ::
          writeGroups (address.groups.drop (place + length)) ++ rest) =
      some (address, rest) := by
  have eight := address.eight
  have inside := zeros.1
  simp only [eight] at inside
  have headLength : (address.groups.take place).length = place := by
    rw [List.length_take]
    omega
  have tailLength : (address.groups.drop (place + length)).length = 8 - (place + length) := by
    rw [List.length_drop, eight]
  have head : readGroups 8 true (writeGroups (address.groups.take place) ++
      ':' :: ':' :: (writeGroups (address.groups.drop (place + length)) ++ rest)) = _ :=
    readGroups_write (by omega) (closes_colons _)
  have tail : readGroups (7 - place) true
      (writeGroups (address.groups.drop (place + length)) ++ rest) = _ :=
    readGroups_write (by omega) closes
  have between : 8 - place - (8 - (place + length)) = length := by
    omega
  have incomplete : place ≠ 8 := by
    omega
  rw [List.append_assoc, List.cons_append, List.cons_append, readAddress6, head]
  simp only [headLength, incomplete, if_false, Bool.false_eq_true, tail, tailLength, between,
    zeros.eq_append, Address6.ofGroups?_groups, Option.map_some]

theorem readAddress6_full {address : Address6} {rest : List Char} (closes : Closes rest) :
    readAddress6 (writeGroups address.groups ++ rest) = some (address, rest) := by
  have all := readGroups_write (Nat.le_of_eq address.eight) closes
  simp [readAddress6, all, address.eight]

/-- Whichever form an address is written in, it is read back. -/
theorem readAddress6_write (address : Address6) {rest : List Char}
    (closes : Closes rest) :
    readAddress6 (writeAddress6 address ++ rest) = some (address, rest) := by
  rw [writeAddress6]
  cases mapped : mapped? address.groups with
  | some inner => exact readAddress6_mapped mapped (closes.stops.narrow (by decide))
  | none =>
      have zeros := zerosAt_longestZeros address.groups
      cases run : longestZeros address.groups with
      | mk place length =>
          rw [run] at zeros
          by_cases several : 2 ≤ length
          · simp only [several, if_true]
            exact readAddress6_compressed zeros several closes
          · simp only [several, if_false]
            exact readAddress6_full closes

/-! ## Endpoints -/

theorem closes_writeScope (scope : UInt32) (rest : List Char) :
    Closes (writeScope scope ++ ']' :: rest) := by
  rw [writeScope]
  split
  · exact .cons (by decide) (by decide) (by decide) rest
  · exact .cons (by decide) (by decide) (by decide) _

/-- Every endpoint is read back from its text. -/
@[simp]
theorem ofText?_text (endpoint : Endpoint) : ofText? endpoint.text = some endpoint := by
  cases endpoint with
  | v4 address port =>
      have stops : Stops (isDigitOf 10) (':' :: digitsOf 10 port.toNat) :=
        stops_cons.mpr (by decide)
      simp [ofText?, text, write, read4, readAddress4_write address stops, readPort_write]
  | v6 address scope port =>
      have noAddress4 (rest : List Char) : readAddress4 ('[' :: rest) = none :=
        readAddress4_of_severs (.cons (by decide) (by decide) rest)
      have closes := closes_writeScope scope (':' :: digitsOf 10 port.toNat)
      simp [ofText?, text, write, read4, read6, noAddress4, readAddress6_write address closes,
        readScope_write, readPort_write]

end Leadership.Endpoint

import WifiRoster.Protocol

/-!
# Sets of protocols

A set of protocols is a byte with one bit for each of the seven protocols. The last bit stands for
none, and every operation keeps it clear: that is what makes two sets equal as soon as they have the
same members (`ProtocolSet.ext`). Every operation is described by its effect on membership.
-/

namespace WifiRoster

namespace Protocol

/-- The bit of a protocol in a byte. -/
def bit (p : Protocol) : BitVec 8 := 1#8 <<< p.index

/-- The bit is a power of two. -/
theorem bit_eq_twoPow (p : Protocol) : p.bit = BitVec.twoPow 8 p.index :=
  (BitVec.twoPow_eq 8 p.index).symm

/-- Every protocol has a bit. -/
theorem bit_ne_zero (p : Protocol) : p.bit ≠ 0#8 := by cases p <;> decide

/-- A byte has room for every place. -/
theorem index_lt_byte (p : Protocol) : p.index < 8 := Nat.lt_succ_of_lt p.index_lt

/-- The bit stands at the place of the protocol and nowhere else. -/
theorem getLsbD_bit (p : Protocol) (i : Nat) : p.bit.getLsbD i = decide (p.index = i) := by
  rw [bit_eq_twoPow, BitVec.getLsbD_twoPow, decide_eq_true p.index_lt_byte, Bool.true_and]

/-- No protocol has the last bit. -/
theorem getLsbD_bit_last (p : Protocol) : p.bit.getLsbD 7 = false := by
  rw [getLsbD_bit]
  exact decide_eq_false (Nat.ne_of_lt p.index_lt)

end Protocol

/-- A set of security protocols: bit `p.index` tells whether `p` is a member. -/
structure ProtocolSet where
  bits : BitVec 8
  /-- The bit that stands for no protocol is never set. -/
  last_clear : bits.getLsbD 7 = false
deriving DecidableEq

namespace ProtocolSet

/-- Whether a protocol is a member: the byte and the bit of the protocol have something in
common. -/
def contains (s : ProtocolSet) (p : Protocol) : Bool := s.bits &&& p.bit != 0#8

instance : Membership Protocol ProtocolSet := ⟨fun s p => s.contains p = true⟩

instance (p : Protocol) (s : ProtocolSet) : Decidable (p ∈ s) :=
  inferInstanceAs (Decidable (s.contains p = true))

/-- The set without members. -/
def empty : ProtocolSet := ⟨0#8, rfl⟩

instance : EmptyCollection ProtocolSet := ⟨empty⟩

/-- The set whose only member is the given protocol. -/
def single (p : Protocol) : ProtocolSet := ⟨p.bit, p.getLsbD_bit_last⟩

/-- The members of either set. -/
def union (s t : ProtocolSet) : ProtocolSet :=
  ⟨s.bits ||| t.bits, by rw [BitVec.getLsbD_or, s.last_clear, t.last_clear, Bool.or_false]⟩

/-- The members of the first set that are not in the second. The complement sets the last bit, and
the first set clears it again. -/
def difference (s t : ProtocolSet) : ProtocolSet :=
  ⟨s.bits &&& ~~~t.bits, by rw [BitVec.getLsbD_and, s.last_clear, Bool.false_and]⟩

/-- The set with one more member. -/
def insert (s : ProtocolSet) (p : Protocol) : ProtocolSet := s.union (single p)

/-- The set without the given protocol. -/
def erase (s : ProtocolSet) (p : Protocol) : ProtocolSet := s.difference (single p)

/-- The members of a list. -/
def ofList (ps : List Protocol) : ProtocolSet := ps.foldl insert empty

/-- Whether there are no members. -/
def isEmpty (s : ProtocolSet) : Bool := s.bits == 0#8

/-- The number of members: the count of set bits. -/
def size (s : ProtocolSet) : Nat := s.bits.cpop.toNat

/-- A position in the enumeration of a set: the place of the protocol that is looked at next. -/
structure Cursor where
  set : ProtocolSet
  place : Nat

/-- The position before every protocol. -/
def start (s : ProtocolSet) : Cursor := ⟨s, 0⟩

/-- The next member, if there is one, and the position behind it. Protocols that are no members are
passed over. -/
def Cursor.next (cursor : Cursor) : Option Protocol × Cursor :=
  if inside : cursor.place < Protocol.all.length then
    let p := Protocol.all[cursor.place]
    let behind : Cursor := ⟨cursor.set, cursor.place + 1⟩
    if cursor.set.contains p then (some p, behind) else behind.next
  else (none, cursor)
termination_by Protocol.all.length - cursor.place
decreasing_by exact Nat.sub_succ_lt_self _ _ inside

/-- What the next `n` steps of the enumeration give. -/
def Cursor.take (cursor : Cursor) : Nat → List (Option Protocol)
  | 0 => []
  | n + 1 => cursor.next.1 :: cursor.next.2.take n

/-- The members in order. -/
def toList (s : ProtocolSet) : List Protocol := Protocol.all.filter s.contains

/-- The diagnostic form of a set: the names of its members between braces. -/
def braced (s : ProtocolSet) : String :=
  "\x7b" ++ ", ".intercalate (s.toList.map Protocol.label) ++ "\x7d"

/-- Membership is what the test tells. -/
theorem mem_iff {s : ProtocolSet} {p : Protocol} : p ∈ s ↔ s.contains p = true := Iff.rfl

/-- Membership is the bit at the place of the protocol. -/
theorem contains_eq (s : ProtocolSet) (p : Protocol) :
    s.contains p = s.bits.getLsbD p.index := by
  rw [contains, p.bit_eq_twoPow, BitVec.and_twoPow, ← p.bit_eq_twoPow]
  cases s.bits.getLsbD p.index with
  | false => rfl
  | true => exact bne_iff_ne.2 p.bit_ne_zero

/-- Sets with the same byte are equal. -/
theorem eq_of_bits {s t : ProtocolSet} (same : s.bits = t.bits) : s = t := by
  obtain ⟨a, _⟩ := s
  obtain ⟨b, _⟩ := t
  obtain rfl : a = b := same
  rfl

/-- The bits that are set are those of the members. -/
theorem getLsbD_bits_iff {s : ProtocolSet} {i : Nat} :
    s.bits.getLsbD i = true ↔ ∃ p ∈ s, p.index = i := by
  constructor
  · intro set
    have inside : i < Protocol.all.length := by
      apply Nat.lt_of_le_of_ne (Nat.le_of_lt_succ (BitVec.lt_of_getLsbD set))
      rintro rfl
      exact absurd set (Bool.eq_false_iff.1 s.last_clear)
    refine ⟨Protocol.all[i], ?_, Protocol.index_getElem_all inside⟩
    rwa [mem_iff, contains_eq, Protocol.index_getElem_all inside]
  · rintro ⟨p, member, rfl⟩
    rwa [mem_iff, contains_eq] at member

/-- Sets with the same members are equal. -/
theorem ext {s t : ProtocolSet} (h : ∀ p, p ∈ s ↔ p ∈ t) : s = t := by
  apply eq_of_bits
  apply BitVec.eq_of_getLsbD_eq
  intro i _
  rw [Bool.eq_iff_iff, getLsbD_bits_iff, getLsbD_bits_iff]
  simp only [h]

/-- The empty set has no members. -/
@[simp] theorem not_mem_empty (p : Protocol) : p ∉ (∅ : ProtocolSet) := by
  cases p <;> decide

/-- A set counts as empty exactly when nothing is a member. -/
theorem isEmpty_iff {s : ProtocolSet} : s.isEmpty = true ↔ ∀ p, p ∉ s := by
  constructor
  · intro h p
    obtain rfl : s = ∅ := eq_of_bits (beq_iff_eq.1 h)
    exact not_mem_empty p
  · intro none
    obtain rfl : s = ∅ := ext fun p => iff_of_false (none p) (not_mem_empty p)
    rfl

/-- The only member of a set made of one protocol is that protocol. -/
@[simp] theorem mem_single {p q : Protocol} : q ∈ single p ↔ q = p := by
  cases p <;> cases q <;> decide

/-- Membership in a union. -/
@[simp] theorem mem_union {s t : ProtocolSet} {p : Protocol} : p ∈ s.union t ↔ p ∈ s ∨ p ∈ t := by
  simp [mem_iff, contains_eq, union]

/-- Membership in a difference. -/
@[simp] theorem mem_difference {s t : ProtocolSet} {p : Protocol} :
    p ∈ s.difference t ↔ p ∈ s ∧ p ∉ t := by
  simp [mem_iff, contains_eq, difference, p.index_lt_byte]

/-- Membership after an insertion. -/
@[simp] theorem mem_insert {s : ProtocolSet} {p q : Protocol} :
    q ∈ s.insert p ↔ q ∈ s ∨ q = p := by
  simp [insert]

/-- Membership after a removal. -/
@[simp] theorem mem_erase {s : ProtocolSet} {p q : Protocol} :
    q ∈ s.erase p ↔ q ∈ s ∧ q ≠ p := by
  simp [erase]

/-- A list and the set of its members have the same members. -/
@[simp] theorem mem_ofList {ps : List Protocol} {p : Protocol} : p ∈ ofList ps ↔ p ∈ ps := by
  have general (s : ProtocolSet) : p ∈ ps.foldl insert s ↔ p ∈ s ∨ p ∈ ps := by
    induction ps generalizing s with
    | nil => simp
    | cons q rest ih => simp [ih, or_assoc]
  exact (general empty).trans (or_iff_right (not_mem_empty p))

/-- The enumeration lists exactly the members. -/
@[simp] theorem mem_toList {s : ProtocolSet} {p : Protocol} : p ∈ s.toList ↔ p ∈ s := by
  simp [toList, Protocol.mem_all, mem_iff]

/-- The enumeration lists each member once. -/
theorem nodup_toList (s : ProtocolSet) : s.toList.Nodup :=
  List.Nodup.sublist List.filter_sublist (by decide : Protocol.all.Nodup)

end ProtocolSet

end WifiRoster

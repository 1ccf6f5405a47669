import Mathlib.Data.Finset.Card
import Mathlib.Data.Finset.SDiff
import WifiRoster.Protocol.Set

/-!
# Protocol sets as finite sets

A byte can be seen as the finite set of its members (`ProtocolSet.members`), and every operation on
bytes is the operation of that name on finite sets. Sets are made from each other in steps, each of
which keeps its result under a number; the same steps make sense for finite sets. What is kept after
one step has the members that are meant (`ProtocolSet.members_step`), and so it has after any steps
(`ProtocolSet.members_run`).

What can be asked of a byte is told by its members alone (`ProtocolSet.Represents`). An enumeration
gives them one by one: the members that are still to come (`Cursor.rest`) are what it depends on,
and a step takes the first of them away. `ProtocolSet.run_represents_meaning` is the main statement.
-/

namespace WifiRoster.ProtocolSet

section Enumeration

variable {cursor : Cursor}

/-- The members that the enumeration has not come to yet. -/
def Cursor.rest (cursor : Cursor) : List Protocol :=
  (Protocol.all.drop cursor.place).filter cursor.set.contains

/-- A member at the position is the first of those that are still to come. -/
lemma Cursor.rest_of_member (inside : cursor.place < Protocol.all.length)
    (member : cursor.set.contains Protocol.all[cursor.place] = true) :
    cursor.rest = Protocol.all[cursor.place] :: rest ⟨cursor.set, cursor.place + 1⟩ := by
  rw [rest, List.drop_eq_getElem_cons inside, List.filter_cons_of_pos member]
  rfl

/-- A protocol that is no member is not among those that are still to come. -/
lemma Cursor.rest_of_other (inside : cursor.place < Protocol.all.length)
    (other : ¬ cursor.set.contains Protocol.all[cursor.place] = true) :
    cursor.rest = rest ⟨cursor.set, cursor.place + 1⟩ := by
  rw [rest, List.drop_eq_getElem_cons inside, List.filter_cons_of_neg other]
  rfl

/-- Nothing is still to come behind the last protocol. -/
lemma Cursor.rest_of_end (atEnd : ¬ cursor.place < Protocol.all.length) : cursor.rest = [] := by
  rw [rest, List.drop_of_length_le (Nat.le_of_not_lt atEnd)]
  rfl

/-- A step gives the first of the members that are still to come, and leaves the others. -/
lemma Cursor.next_spec (cursor : Cursor) :
    cursor.next.1 = cursor.rest.head? ∧ cursor.next.2.rest = cursor.rest.tail := by
  fun_induction Cursor.next cursor with
  | case1 cursor inside p behind member =>
    rw [rest_of_member inside member]
    exact ⟨rfl, rfl⟩
  | case2 cursor inside p behind other ih =>
    rw [rest_of_other inside other]
    exact ih
  | case3 cursor atEnd =>
    rw [rest_of_end atEnd]
    exact ⟨rfl, rfl⟩

/-- Any number of steps gives the members that are still to come, and nothing once they are
exhausted. -/
lemma Cursor.take_eq (cursor : Cursor) (n : Nat) :
    cursor.take n = (List.range n).map (cursor.rest[·]?) := by
  induction n generalizing cursor with
  | zero => rfl
  | succ n ih =>
    obtain ⟨first, others⟩ := cursor.next_spec
    rw [take, ih, first, others, List.range_succ_eq_map, List.map_cons, List.map_map,
      List.head?_eq_getElem?]
    simp only [List.getElem?_tail]
    rfl

end Enumeration

/-- The set bits of a word are counted one by one. -/
lemma cpopNatRec_eq_card {w : Nat} (word : BitVec w) (n : Nat) :
    word.cpopNatRec n 0 = ((Finset.range n).filter (word.getLsbD · = true)).card := by
  induction n with
  | zero => rfl
  | succ n ih =>
    rw [BitVec.cpopNatRec_succ, BitVec.cpopNatRec_add, ih, Finset.range_add_one,
      Finset.filter_insert]
    cases set : word.getLsbD n with
    | false => rfl
    | true =>
      rw [if_pos rfl, Finset.card_insert_of_notMem]
      · rfl
      · exact fun counted => Finset.notMem_range_self (Finset.mem_of_mem_filter n counted)

section Members

/-- The finite set of the members. -/
def members (s : ProtocolSet) : Finset Protocol := s.toList.toFinset

variable {s t : ProtocolSet}

/-- The members as a finite set are the members of the byte. -/
lemma mem_members {p : Protocol} : p ∈ s.members ↔ p ∈ s := List.mem_toFinset.trans mem_toList

/-- A byte is determined by its members. -/
lemma members_injective : Function.Injective members := by
  intro s t same
  apply ext
  intro p
  rw [← mem_members, same, mem_members]

/-- The places of the members are those of the set bits. The last bit is not among them. -/
lemma image_index_members (s : ProtocolSet) :
    s.members.image Protocol.index = (Finset.range 8).filter (s.bits.getLsbD · = true) := by
  ext i
  rw [Finset.mem_image, Finset.mem_filter, Finset.mem_range, getLsbD_bits_iff]
  simp only [mem_members]
  refine (and_iff_right_of_imp ?_).symm
  rintro ⟨p, -, rfl⟩
  exact p.index_lt_byte

/-- There are as many members as bits that are set. -/
lemma card_members : s.members.card = s.size := by
  have places : Function.Injective Protocol.index := fun _ _ => Protocol.index_inj.1
  rw [size, BitVec.toNat_cpop, cpopNatRec_eq_card, ← image_index_members,
    Finset.card_image_of_injective _ places]

/-- The empty byte has no members. -/
lemma members_empty : members ∅ = ∅ := rfl

/-- Collecting a list gives the finite set of what is in it. -/
lemma members_ofList (ps : List Protocol) : (ofList ps).members = ps.toFinset := by
  ext p
  rw [mem_members, mem_ofList, List.mem_toFinset]

/-- An insertion adds the protocol to the members. -/
lemma members_insert (p : Protocol) : (s.insert p).members = Insert.insert p s.members := by
  ext q
  rw [mem_members, mem_insert, Finset.mem_insert, mem_members, or_comm]

/-- A removal takes the protocol from the members. -/
lemma members_erase (p : Protocol) : (s.erase p).members = s.members.erase p := by
  ext q
  rw [mem_members, mem_erase, Finset.mem_erase, mem_members, and_comm]

/-- The members of a union are the union of the members. -/
lemma members_union : (s.union t).members = s.members ∪ t.members := by
  ext p
  rw [mem_members, mem_union, Finset.mem_union, mem_members, mem_members]

/-- The members of a difference are the difference of the members. -/
lemma members_difference : (s.difference t).members = s.members \ t.members := by
  ext p
  rw [mem_members, mem_difference, Finset.mem_sdiff, mem_members, mem_members]

end Members

/-- How a set is made from protocols and from sets that are kept under numbers. -/
inductive Operation where
  | collect (ps : List Protocol)
  | insert (source : Nat) (p : Protocol)
  | erase (source : Nat) (p : Protocol)
  | union (first second : Nat)
  | difference (first second : Nat)
  | clear

namespace Operation

/-- The set that is made. -/
def result (sets : Nat → ProtocolSet) : Operation → ProtocolSet
  | collect ps => .ofList ps
  | insert source p => (sets source).insert p
  | erase source p => (sets source).erase p
  | union first second => (sets first).union (sets second)
  | difference first second => (sets first).difference (sets second)
  | clear => ∅

/-- The finite set that is meant. -/
def meaning (sets : Nat → Finset Protocol) : Operation → Finset Protocol
  | collect ps => ps.toFinset
  | insert source p => Insert.insert p (sets source)
  | erase source p => (sets source).erase p
  | union first second => sets first ∪ sets second
  | difference first second => sets first \ sets second
  | clear => ∅

end Operation

/-- An operation whose result is kept under a number, in place of what was there. -/
structure Step where
  target : Nat
  operation : Operation

namespace Step

/-- The sets that are kept after a step. -/
def result (sets : Nat → ProtocolSet) (step : Step) : Nat → ProtocolSet :=
  Function.update sets step.target (step.operation.result sets)

/-- The finite sets that are meant after a step. -/
def meaning (sets : Nat → Finset Protocol) (step : Step) : Nat → Finset Protocol :=
  Function.update sets step.target (step.operation.meaning sets)

end Step

/-- The sets that are kept after some steps. At first they are all empty. -/
def run (steps : List Step) : Nat → ProtocolSet := steps.foldl Step.result fun _ => ∅

/-- The finite sets that are meant after some steps. -/
def meaning (steps : List Step) : Nat → Finset Protocol := steps.foldl Step.meaning fun _ => ∅

section Simulation

variable (sets : Nat → ProtocolSet)

/-- What an operation makes has the members that are meant. -/
lemma members_operation (operation : Operation) :
    (operation.result sets).members = operation.meaning (members ∘ sets) := by
  cases operation with
  | collect ps => exact members_ofList ps
  | insert source p => exact members_insert p
  | erase source p => exact members_erase p
  | union first second => exact members_union
  | difference first second => exact members_difference
  | clear => exact members_empty

/-- What is kept after a step has the members that are meant. -/
lemma members_step (step : Step) : members ∘ step.result sets = step.meaning (members ∘ sets) := by
  rw [Step.result, Function.comp_update, members_operation]
  rfl

/-- What is kept after any steps has the members that are meant, whatever was there at first. -/
lemma members_steps (steps : List Step) :
    members ∘ steps.foldl Step.result sets = steps.foldl Step.meaning (members ∘ sets) := by
  induction steps generalizing sets with
  | nil => rfl
  | cons step rest ih => rw [List.foldl_cons, List.foldl_cons, ih, members_step]

end Simulation

/-- What is kept after any steps has the members that are meant. -/
lemma members_run (steps : List Step) (i : Nat) : (run steps i).members = meaning steps i := by
  have empty : (members ∘ fun _ : Nat => (∅ : ProtocolSet)) = fun _ => ∅ :=
    funext fun _ => members_empty
  have whole := members_steps (fun _ => ∅) steps
  rw [empty] at whole
  exact congrFun whole i

/-- A byte stands for a finite set of protocols: whatever can be asked of it is answered by that
set. -/
structure Represents (s : ProtocolSet) (m : Finset Protocol) : Prop where
  contains_iff (p : Protocol) : s.contains p = true ↔ p ∈ m
  /-- Other bits than those of the members are not set, the last bit of the byte included. -/
  bit_iff (i : Nat) : s.bits.getLsbD i = true ↔ ∃ p ∈ m, p.index = i
  isEmpty_iff : s.isEmpty = true ↔ m = ∅
  size_eq : s.size = m.card
  /-- The enumeration gives each member once and in order of declaration. All steps behind the last
  member give nothing. -/
  enumerated : ∃ listing : List Protocol, listing.Sublist Protocol.all ∧ listing.Nodup ∧
    (∀ p, p ∈ listing ↔ p ∈ m) ∧ ∀ n, s.start.take n = (List.range n).map (listing[·]?)

/-- A byte stands for the finite set of its members. -/
lemma represents_members (s : ProtocolSet) : s.Represents s.members where
  contains_iff p := mem_members.symm
  bit_iff i := by
    rw [getLsbD_bits_iff]
    simp only [mem_members]
  isEmpty_iff := by
    rw [isEmpty_iff, Finset.eq_empty_iff_forall_notMem]
    simp only [mem_members]
  size_eq := card_members.symm
  enumerated := ⟨s.toList, List.filter_sublist, s.nodup_toList,
    fun p => mem_toList.trans mem_members.symm, s.start.take_eq⟩

/-- After any steps, what is kept stands for what is meant, and it equals what is kept after any
other steps exactly when the same is meant. -/
theorem run_represents_meaning (steps others : List Step) (i j : Nat) :
    (run steps i).Represents (meaning steps i) ∧
      ((run steps i == run others j) = true ↔ meaning steps i = meaning others j) := by
  constructor
  · rw [← members_run]
    exact represents_members _
  · rw [beq_iff_eq, ← members_run, ← members_run, members_injective.eq_iff]

end WifiRoster.ProtocolSet

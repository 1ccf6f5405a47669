import Mathlib.Data.List.Forall2
import Mathlib.Data.List.Nodup
import WifiRoster.Json.Records
import WifiRoster.Proofs.Json.Skipping
import WifiRoster.Proofs.Json.Values
import WifiRoster.Proofs.Json.Writing

/-!
# Reading records

While a record is read, its draft is known from the names of the members that have been met
(`RecordForm.Reads`). Each member adds its name, whatever the order, and a member that the record
has not changes nothing. Where all members that are missing may be left out, the draft is finished
into the record. So a record is read from every object that is made up of its members by their rules
(`RecordForm.Reads.takes`), and a written record is one of these objects (`objectForm_object`).
-/

namespace WifiRoster.Json

section Members

/-- There is another member where a name begins, behind a comma unless it is the first one. -/
lemma EntryForm.anotherMember_eq {first : Bool} {lead before : List Char}
    (entry : EntryForm first lead) (spacing : Spacing before) (rest : List Char) :
    Reader.anotherMember first (lead ++ (before ++ '"' :: rest)) = .ok (true, rest) := by
  have looked := Reader.look_eq spacing (c := '"') rfl rest
  cases entry with
  | first =>
    rw [List.nil_append, Reader.anotherMember, Reader.bind_eq looked]
    rfl
  | next behind =>
    rw [List.append_assoc, List.singleton_append, Reader.anotherMember,
      Reader.bind_eq (Reader.look_eq behind rfl _)]
    show (Reader.advance >>= fun _ => _) _ = _
    rw [Reader.advance_bind, Reader.bind_eq looked]
    rfl

/-- There is no other member where the object is closed. -/
lemma anotherMember_end {after : List Char} (spacing : Spacing after) (first : Bool)
    (rest : List Char) :
    Reader.anotherMember first (after ++ '\x7d' :: rest) = .ok (false, '\x7d' :: rest) := by
  rw [Reader.anotherMember, Reader.bind_eq (Reader.look_eq spacing rfl rest)]
  rfl

end Members

section Records

/-- What is in the first of two related lists has its counterpart in the second. -/
lemma exists_right_of_forall₂ {α β : Type} {R : α → β → Prop} {as : List α} {bs : List β}
    (related : List.Forall₂ R as bs) {a : α} (mem : a ∈ as) : ∃ b ∈ bs, R a b := by
  induction related with
  | nil => cases mem
  | cons head _ ih =>
    obtain _ | ⟨_, mem⟩ := mem
    · exact ⟨_, .head _, head⟩
    · obtain ⟨b, hb, hab⟩ := ih mem
      exact ⟨b, .tail _ hb, hab⟩

variable {δ α : Type}

/-- A member reads its value in a record into the drafts of the record. After some members have
been met, the draft is given by their names. -/
structure Member.Reads (m : Member δ) (rule : MemberRule α) (a : α) (draft : List String → δ) :
    Prop where
  name : m.name = rule.name
  unmet : ∀ seen, m.name ∉ seen → m.isSet (draft seen) = false
  takes : ∀ seen text, rule.form a text →
    (m.read (draft seen)).Takes text (draft (m.name :: seen))

/-- A form reads a record that is written by the given rules. -/
structure RecordForm.Reads (form : RecordForm δ α) (rules : List (MemberRule α)) (a : α)
    (draft : List String → δ) : Prop where
  blank : form.blank = draft []
  members : List.Forall₂ (fun m rule => m.Reads rule a draft) form.members rules
  unknown : ∀ name, (∀ rule ∈ rules, rule.name ≠ name) → ∀ seen, draft (name :: seen) = draft seen
  finish : ∀ seen, (∀ rule ∈ rules, rule.name ∉ seen → rule.omittable a) →
    form.finish (draft seen) = .ok a

variable {form : RecordForm δ α} {rules : List (MemberRule α)} {a : α} {draft : List String → δ}

/-- One member is read into the draft, or passed over where the record has no such member. -/
lemma RecordForm.Reads.member_eq (reads : form.Reads rules a draft) {name : String}
    {before after value rest : List Char} {seen : List String} (spacing : Spacing before)
    (gap : Spacing after) (fresh : name ∈ seen → ∀ rule ∈ rules, rule.name ≠ name)
    (known : ∀ rule ∈ rules, rule.name = name → rule.form a value)
    (unknown : (∀ rule ∈ rules, rule.name ≠ name) → ValueForm .value value)
    (behind : Follows rest) :
    Reader.member form name (draft seen) (before ++ ':' :: (after ++ (value ++ rest))) =
      .ok (draft (name :: seen), rest) := by
  have colon := Reader.colon_eq spacing (after ++ (value ++ rest))
  rw [Reader.member]
  cases found : form.members.find? (·.name == name) with
  | some m =>
    obtain rfl := beq_iff_eq.1 (List.find?_some found :)
    have mem := List.mem_of_find?_eq_some found
    obtain ⟨rule, hrule, paired⟩ := exists_right_of_forall₂ reads.members mem
    have same := paired.name.symm
    have new : m.name ∉ seen := fun met => fresh met rule hrule same
    simp only [paired.unmet seen new, Bool.false_eq_true, if_false]
    rw [Reader.bind_eq colon]
    exact paired.takes seen value (known rule hrule same) after rest gap behind
  | none =>
    have absent : ∀ rule ∈ rules, rule.name ≠ name := by
      intro rule hrule same
      obtain ⟨m, mem, paired⟩ := exists_right_of_forall₂ (List.Forall₂.flip reads.members) hrule
      have differs := List.find?_eq_none.1 found m mem
      rw [paired.name, same, beq_self_eq_true] at differs
      exact differs rfl
    simp only
    rw [Reader.bind_eq colon, Reader.bind_eq ((unknown absent).takes after rest gap behind),
      reads.unknown name absent]
    rfl

/-- No members are read where the object is closed, and the draft is left as it is. -/
lemma members_end {after : List Char} (spacing : Spacing after) (limit : Nat) (first : Bool)
    (draft : δ) (rest : List Char) :
    Reader.members form (limit + 1) first draft (after ++ '\x7d' :: rest) =
      .ok (draft, '\x7d' :: rest) := by
  rw [Reader.members, Reader.bind_eq (anotherMember_end spacing first rest)]
  rfl

/-- One more member is read, and then those behind it. -/
lemma EntryForm.members_eq {first : Bool} {lead before text behind rest : List Char} {key : String}
    {met next last : δ} (entry : EntryForm first lead) (spacing : Spacing before)
    (written : StringForm key text) {limit : Nat} {tail : List Char}
    (member : Reader.member form key met tail = .ok (next, behind))
    (others : Reader.members form limit false next behind = .ok (last, rest)) :
    Reader.members form (limit + 1) first met (lead ++ (before ++ (text ++ tail))) =
      .ok (last, rest) := by
  obtain ⟨chars, rfl⟩ := written.exists_cons
  rw [Reader.members, List.cons_append, Reader.bind_eq (entry.anotherMember_eq spacing _)]
  show (Reader.stringBody >>= fun key => _) _ = _
  rw [Reader.bind_eq written.stringBody_eq, Reader.bind_eq member]
  exact others

/-- The members of a record are read, each into the draft that those in front of it leave. -/
lemma RecordForm.Reads.members_eq (reads : form.Reads rules a draft)
    {members : List (String × List Char)} {text : List Char}
    (items : ItemsForm MemberForm members text)
    (once : members.Pairwise fun m other => m.1 = other.1 → ∀ rule ∈ rules, rule.name ≠ m.1)
    (known : ∀ m ∈ members, ∀ rule ∈ rules, rule.name = m.1 → rule.form a m.2)
    (unknown : ∀ m ∈ members, (∀ rule ∈ rules, rule.name ≠ m.1) → ValueForm .value m.2)
    {seen : List String}
    (fresh : ∀ m ∈ members, m.1 ∈ seen → ∀ rule ∈ rules, rule.name ≠ m.1) {limit : Nat}
    (enough : text.length < limit) {first : Bool} {lead : List Char} (entry : EntryForm first lead)
    (rest : List Char) :
    Reader.members form limit first (draft seen) (lead ++ (text ++ '\x7d' :: rest)) =
      .ok (draft ((members.map Prod.fst).reverse ++ seen), '\x7d' :: rest) := by
  -- The names that have been met grow along the members.
  induction items generalizing limit first lead seen with
  | @last m before text after spacing written behind =>
    cases written with
    | @member name key inner gap value written innerSpacing gapSpacing =>
      obtain ⟨limit, rfl⟩ : ∃ less, limit = less + 2 := ⟨limit - 2, by simp at enough; omega⟩
      have follows : Follows (after ++ '\x7d' :: rest) :=
        behind.follows (follows_cons (by decide) rest)
      have member := reads.member_eq innerSpacing gapSpacing (fresh _ (.head _))
        (known _ (.head _)) (unknown _ (.head _)) follows
      simp only [List.append_assoc, List.cons_append]
      exact entry.members_eq spacing written member (members_end behind limit false _ rest)
  | @more m members before text after others spacing written behind _ ih =>
    obtain ⟨apart, stillOnce⟩ := List.pairwise_cons.1 once
    cases written with
    | @member name key inner gap value written innerSpacing gapSpacing =>
      obtain ⟨limit, rfl⟩ : ∃ less, limit = less + 1 := ⟨limit - 1, by omega⟩
      have follows : Follows (after ++ ',' :: (others ++ '\x7d' :: rest)) :=
        behind.follows (follows_cons (by decide) _)
      have member := reads.member_eq innerSpacing gapSpacing (fresh _ (.head _))
        (known _ (.head _)) (unknown _ (.head _)) follows
      have stillFresh : ∀ m ∈ members, m.1 ∈ name :: seen → ∀ rule ∈ rules, rule.name ≠ m.1 := by
        intro m hm met
        obtain same | met := List.mem_cons.1 met
        · rw [same]
          exact apart m hm same.symm
        · exact fresh m (.tail _ hm) met
      have stillEnough : others.length < limit := by
        simp at enough
        omega
      have left := ih stillOnce (fun m hm => known m (.tail _ hm))
        (fun m hm => unknown m (.tail _ hm)) stillFresh stillEnough (.next behind)
      simp only [List.append_assoc, List.cons_append, List.nil_append] at left ⊢
      rw [List.map_cons, List.reverse_cons, List.append_assoc]
      exact entry.members_eq spacing written member left

/-- An object begins with a bracket. -/
lemma ObjectForm.exists_cons {text : List Char} (object : ObjectForm rules a text) :
    ∃ tail, text = '\x7b' :: tail := by
  cases object with
  | object series _ =>
    cases series with
    | empty _ | items _ => exact ⟨_, rfl⟩

/-- A record is read from every object that it has for a text. -/
lemma RecordForm.Reads.takes (reads : form.Reads rules a draft) {text : List Char}
    (object : ObjectForm rules a text) : (Reader.record form).Takes text a := by
  intro lead rest spacing _
  have bracket {members : List String} {inner : List Char}
      (complete : ∀ rule ∈ rules, rule.name ∉ members → rule.omittable a)
      (read : Reader.members form ((inner ++ '\x7d' :: rest).length + 1) true (draft [])
        (inner ++ '\x7d' :: rest) = .ok (draft members, '\x7d' :: rest)) :
      Reader.record form (lead ++
        (Bracket.object.opening :: (inner ++ [Bracket.object.closing]) ++ rest)) =
          .ok (a, rest) := by
    rw [List.cons_append, List.append_assoc, List.singleton_append, Reader.record,
      Reader.bind_eq (Reader.look_eq spacing rfl _)]
    show (Reader.advance >>= fun _ => _) _ = _
    rw [Reader.advance_bind, reads.blank]
    show (Reader.members form ((inner ++ '\x7d' :: rest).length + 1) true (draft [])
      (inner ++ '\x7d' :: rest) >>= fun result => _) = _
    rw [read]
    show (do
      let a ← Reader.ofExcept (form.finish (draft members))
      Reader.advance
      return a : Reader α) ('\x7d' :: rest) = _
    rw [reads.finish members complete]
    rfl
  cases object with
  | @object members text series written =>
    have complete : ∀ rule ∈ rules, rule.name ∉ (members.map Prod.fst).reverse ++ [] →
        rule.omittable a := by
      intro rule hrule absent
      refine written.missing rule hrule fun m hm same => ?_
      simp at absent
      exact absent m.2 (same ▸ hm)
    cases series with
    | empty inside => exact bracket complete (members_end inside _ true _ rest)
    | items items =>
      exact bracket complete (reads.members_eq items written.once written.known written.unknown
        (fun _ _ met => absurd met List.not_mem_nil) (by simp only [List.length_append]; omega)
        .first rest)

/-- A list of records is read from every list of their objects. -/
lemma RecordForm.Reads.list_takes {draft : α → List String → δ}
    (reads : ∀ a, form.Reads rules a (draft a)) {as : List α} {text : List Char}
    (series : SeriesForm (ObjectForm rules) .list as text) :
    (Reader.list (Reader.record form)).Takes text as := by
  refine series.list_takes (fun a text object => (reads a).takes object) fun a text object => ?_
  obtain ⟨tail, rfl⟩ := object.exists_cons
  exact ⟨_, tail, rfl, by decide⟩

end Records

section Drafts

variable {δ α γ : Type} {name : String} {seen : List String}

/-- The value of a member in a draft: it is there once the member has been met. -/
def collected (seen : List String) (name : String) (value : γ) : Option γ :=
  if name ∈ seen then some value else none

/-- A member that has not been met is not in the draft. -/
lemma isSome_collected (unmet : name ∉ seen) (value : γ) :
    (collected seen name value).isSome = false := by
  simp [collected, unmet]

/-- A required member that has been met is there. -/
lemma required_collected (met : name ∈ seen) (value : γ) :
    required name (collected seen name value) = .ok value := by
  simp [collected, required, met]

/-- A member that may be left out is there or has its default. -/
lemma getD_collected {value default : γ} (unmet : name ∉ seen → value = default) :
    (collected seen name value).getD default = value := by
  by_cases met : name ∈ seen
  · simp [collected, met]
  · simp [collected, met, unmet met]

/-- A member that is put into its own place of the draft. -/
lemma Member.Reads.stored {rule : MemberRule α} {a : α} {draft : List String → δ} {optional : Bool}
    {place : δ → Option γ} {put : δ → γ → δ} {reader : Reader γ} {value : γ}
    (named : name = rule.name) (takes : ∀ text, rule.form a text → reader.Takes text value)
    (placed : ∀ seen, place (draft seen) = collected seen name value)
    (next : ∀ seen, put (draft seen) value = draft (name :: seen)) :
    Member.Reads ⟨name, optional, fun draft => (place draft).isSome,
      fun draft => return put draft (← reader)⟩ rule a draft where
  name := named
  unmet seen unmet := by
    show (place (draft seen)).isSome = false
    rw [placed, isSome_collected unmet]
  takes seen text written := (takes text written).map (next seen)

end Drafts

section Writing

variable {α : Type} {rules : List (MemberRule α)} {a : α}

/-- A record is written as an object with all its members in their order. -/
lemma objectForm_object {members : List (String × List Char)}
    (distinct : (rules.map MemberRule.name).Nodup)
    (written : List.Forall₂ (fun m rule => m.1 = rule.name ∧ rule.form a m.2) members rules) :
    ObjectForm rules a (Writer.object members) := by
  have right {m : String × List Char} (hm : m ∈ members) := exists_right_of_forall₂ written hm
  have names : members.map Prod.fst = rules.map MemberRule.name := by
    rw [← List.forall₂_eq_eq_eq, List.forall₂_map_left_iff, List.forall₂_map_right_iff]
    exact written.imp fun _ _ paired => paired.1
  refine .object (seriesForm_object members) ⟨?_, ?_, ?_, ?_⟩
  · rw [← names] at distinct
    refine (List.pairwise_map.1 distinct).imp fun differ same => absurd same differ
  · intro m hm rule hrule same
    obtain ⟨other, hother, paired, form⟩ := right hm
    rwa [List.inj_on_of_nodup_map distinct hrule hother (same.trans paired)]
  · intro m hm absent
    obtain ⟨rule, hrule, paired, -⟩ := right hm
    exact absurd paired.symm (absent rule hrule)
  · intro rule hrule absent
    obtain ⟨m, hm, paired, -⟩ := exists_right_of_forall₂ (List.Forall₂.flip written) hrule
    exact absurd paired (absent m hm)

end Writing

end WifiRoster.Json

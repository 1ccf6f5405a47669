import WifiRoster.Proofs.Descriptors

/-!
# Descriptors made of bracketed groups

A descriptor such as `[WPA2-PSK-CCMP][ESS]` puts one group behind another, each in brackets. The
search for tokens knows nothing of groups, but no token has a bracket in it, so none reaches over
the border of a group (`infix_append_cons_iff`): a token stands in the descriptor exactly when it
stands in one of the groups (`has_ofGroups`). The order of the groups and their number do not
matter then (`classify_ofGroups`).
-/

namespace WifiRoster

section Borders

variable {α : Type} {border : α} {token before after : List α}

/-- A part without the border does not start at it. -/
lemma infix_cons_iff_of_not_mem (absent : border ∉ token) :
    token <:+: border :: after ↔ token <:+: after := by
  rw [List.infix_cons_iff]
  refine or_iff_right_of_imp fun start => ?_
  cases token with
  | nil => exact List.nil_infix
  | cons first rest =>
    obtain ⟨rfl, -⟩ := List.cons_prefix_cons.1 start
    exact absurd (.head _) absent

/-- A part without the border stands on one side of it. -/
lemma infix_append_cons_iff (absent : border ∉ token) :
    token <:+: before ++ border :: after ↔ token <:+: before ∨ token <:+: after := by
  rw [List.infix_append_iff_ne_nil, infix_cons_iff_of_not_mem absent]
  constructor
  · rintro (left | right | ⟨first, last, -, nonempty, rfl, -, start⟩)
    · exact .inl left
    · exact .inr right
    · -- what stands on the right of the border starts with it
      cases last with
      | nil => exact absurd rfl nonempty
      | cons letter rest =>
        obtain ⟨rfl, -⟩ := List.cons_prefix_cons.1 start
        exact absurd (List.mem_append_right first (.head _)) absent
  · rintro (left | right)
    · exact .inl left
    · exact .inr (.inl right)

end Borders

/-- The descriptor that puts each group in brackets. -/
def Text.ofGroups (groups : List String) : String :=
  String.join (groups.map fun group => "[" ++ group ++ "]")

open ClassificationRule

/-- One more group at the front stands in brackets before the others. -/
lemma Text.toList_ofGroups_cons (group : String) (groups : List String) :
    (ofGroups (group :: groups)).toList =
      '[' :: (group.toList ++ ']' :: (ofGroups groups).toList) := by
  simp [ofGroups, String.join_cons]

/-- A token without brackets stands in one of the groups. -/
lemma Text.has_ofGroups {token : String} (nonempty : token ≠ "") (left : '[' ∉ token.toList)
    (right : ']' ∉ token.toList) (groups : List String) :
    Has (ofGroups groups) token ↔ ∃ group ∈ groups, Has group token := by
  induction groups with
  | nil =>
    refine iff_of_false (fun has => nonempty ?_) (by simp)
    exact String.toList_eq_nil_iff.1 (List.infix_nil.1 has)
  | cons group rest ih =>
    rw [Has, toList_ofGroups_cons, infix_cons_iff_of_not_mem left, infix_append_cons_iff right]
    simp only [List.mem_cons, or_and_right, exists_or, exists_eq_left, ← ih]
    rfl

/-- The tokens of the table are not empty and have no brackets in them. -/
lemma ClassificationRule.token_plain : ∀ rule ∈ table, ∀ token ∈ rule.tokens,
    token ≠ "" ∧ '[' ∉ token.toList ∧ ']' ∉ token.toList := by
  decide

/-- The order and the repetition of bracketed groups do not matter. Descriptors made of the same
groups are classified alike, in particular when groups change places or stand there once more; for
a token stands in the descriptor exactly when it stands in one of its groups. -/
theorem classify_ofGroups :
    (∀ groups others : List String, (∀ group, group ∈ groups ↔ group ∈ others) →
      classify (some (Text.ofGroups groups)) = classify (some (Text.ofGroups others))) ∧
    ∀ groups, ∀ rule ∈ table, ∀ token ∈ rule.tokens,
      (Text.Has (Text.ofGroups groups) token ↔ ∃ group ∈ groups, Text.Has group token) := by
  have found (groups : List String) : ∀ rule ∈ table, ∀ token ∈ rule.tokens,
      (Text.Has (Text.ofGroups groups) token ↔ ∃ group ∈ groups, Text.Has group token) := by
    intro rule hrule token htoken
    obtain ⟨nonempty, left, right⟩ := token_plain rule hrule token htoken
    exact Text.has_ofGroups nonempty left right groups
  refine ⟨fun groups others same => ?_, found⟩
  apply classify_congr
  intro rule hrule token htoken
  rw [found groups rule hrule token htoken, found others rule hrule token htoken]
  simp only [same]

/-- The groups change places and one is repeated; another one has brackets of its own. -/
theorem classify_ofGroups_repeated :
    let groups := ["WPA2-PSK-CCMP", "ESS", "R][SN-SAE"]
    let others := ["R][SN-SAE", "WPA2-PSK-CCMP", "ESS", "WPA2-PSK-CCMP"]
    (∀ group, group ∈ groups ↔ group ∈ others) ∧
      classify (some (Text.ofGroups groups)) = classify (some (Text.ofGroups others)) ∧
      Text.Has (Text.ofGroups groups) "SAE" := by
  intro groups others
  have same : ∀ group, group ∈ groups ↔ group ∈ others := by
    intro group
    simp only [groups, others, List.mem_cons, List.not_mem_nil, or_false]
    grind
  refine ⟨same, classify_ofGroups.1 groups others same, ?_⟩
  exact (classify_ofGroups.2 groups _ (.head _) "SAE" (by decide)).2
    ⟨"R][SN-SAE", by decide, by decide +kernel⟩

end WifiRoster

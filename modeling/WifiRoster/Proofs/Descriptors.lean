import Mathlib.Data.List.Find
import WifiRoster.Proofs.Family

/-!
# What a descriptor is classified as

The classification table is gone through from the top, and a token counts wherever it stands, also
inside another one. `ClassificationRule.First` says once which tokens are there and which are not
when a row is the first that applies. The closed form, `mem_classify_iff`, is read from it protocol
by protocol; the only thing that it takes for granted is that two tokens have a third one in them
(`Text.Has.owe`, `Text.Has.eap`).

A longer text has every token of its parts, so its first row is never a later one
(`classify_extended`). What a descriptor is classified as depends on its tokens only
(`classify_congr`).
-/

namespace WifiRoster

/-- The token stands somewhere in the text. -/
def Text.Has (text token : String) : Prop := token.toList <:+: text.toList

instance (text token : String) : Decidable (Text.Has text token) :=
  inferInstanceAs (Decidable (token.toList <:+: text.toList))

/-- When a protocol is offered, told by the tokens that are there. -/
def Protocol.ToldBy (has : String → Prop) : Protocol → Prop
  | .psk => has "PSK" ∧ (has "SAE" ∨ ¬ has "OWE" ∧ ¬ has "WEP")
  | .sae => has "SAE" ∧ (has "PSK" ∨ ¬ has "OWE" ∧ ¬ has "WEP")
  | .owe => has "OWE" ∧ ¬ (has "PSK" ∧ has "SAE")
  | .unsecured =>
    has "OWE_TRANSITION" ∧ ¬ (has "PSK" ∧ has "SAE") ∨
      ¬ has "OWE" ∧ ¬ has "WEP" ∧ ¬ has "SAE" ∧ ¬ has "PSK" ∧ ¬ has "EAP"
  | .wep => has "WEP" ∧ ¬ has "OWE" ∧ ¬ (has "PSK" ∧ has "SAE")
  | .suiteB =>
    has "EAP_SUITE_B_192" ∧ ¬ has "OWE" ∧ ¬ has "WEP" ∧ ¬ has "SAE" ∧ ¬ has "PSK"
  | .eap =>
    has "EAP" ∧ ¬ has "EAP_SUITE_B_192" ∧
      ¬ has "OWE" ∧ ¬ has "WEP" ∧ ¬ has "SAE" ∧ ¬ has "PSK"

section Tokens

variable {text : String}

/-- A text with the token of open beacons beside OWE has the token of OWE. -/
lemma Text.Has.owe (has : Text.Has text "OWE_TRANSITION") : Text.Has text "OWE" :=
  List.IsInfix.trans (by decide) has

/-- A text with the token of 192-bit security has the token of EAP. -/
lemma Text.Has.eap (has : Text.Has text "EAP_SUITE_B_192") : Text.Has text "EAP" :=
  List.IsInfix.trans (by decide) has

/-- What a text has, it still has with more text around. -/
lemma Text.Has.extend {token : String} (has : Text.Has text token) (before after : String) :
    Text.Has (before ++ text ++ after) token := by
  rw [Text.Has, String.toList_append, String.toList_append]
  exact List.IsInfix.trans has (List.infix_append _ _ _)

end Tokens

namespace ClassificationRule

/-- What the first of some rules that applies says, or the fallback. -/
def answer (rules : List ClassificationRule) (descriptor : String) : ProtocolSet :=
  match rules.find? (·.applies descriptor) with
  | some rule => rule.protocols
  | none => fallback

/-- The place in the table of the first rule that applies; the fallback has the place behind the
last rule. -/
def firstPlace (descriptor : String) : Nat := table.findIdx (·.applies descriptor)

/-- Which tokens are there and which are not when a row of the table is the first that applies. -/
inductive First (has : String → Prop) : ProtocolSet → Prop where
  | pskSae : has "PSK" → has "SAE" → First has (.ofList [.psk, .sae])
  | oweTransition : ¬ (has "PSK" ∧ has "SAE") → has "OWE_TRANSITION" →
      First has (.ofList [.unsecured, .owe])
  | owe : ¬ (has "PSK" ∧ has "SAE") → ¬ has "OWE_TRANSITION" → has "OWE" →
      First has (.single .owe)
  | wep : ¬ (has "PSK" ∧ has "SAE") → ¬ has "OWE" → has "WEP" → First has (.single .wep)
  | sae : ¬ has "OWE" → ¬ has "WEP" → ¬ has "PSK" → has "SAE" → First has (.single .sae)
  | psk : ¬ has "OWE" → ¬ has "WEP" → ¬ has "SAE" → has "PSK" → First has (.single .psk)
  | suiteB : ¬ has "OWE" → ¬ has "WEP" → ¬ has "SAE" → ¬ has "PSK" → has "EAP_SUITE_B_192" →
      First has (.single .suiteB)
  | eap : ¬ has "OWE" → ¬ has "WEP" → ¬ has "SAE" → ¬ has "PSK" → ¬ has "EAP_SUITE_B_192" →
      has "EAP" → First has (.single .eap)
  | unsecured : ¬ has "OWE" → ¬ has "WEP" → ¬ has "SAE" → ¬ has "PSK" → ¬ has "EAP" →
      First has (.single .unsecured)

variable {descriptor : String}

/-- A rule applies exactly when the descriptor has all of its tokens. -/
lemma applies_iff_has {rule : ClassificationRule} :
    rule.applies descriptor = true ↔ ∀ token ∈ rule.tokens, Text.Has descriptor token :=
  applies_iff

/-- A classification is the answer of the table. -/
lemma classify_eq_answer (descriptor : String) :
    classify (some descriptor) = answer table descriptor := rfl

/-- A rule answers if its tokens are there, and leaves the descriptor to the rules below it if
not. -/
lemma answer_cons (rule : ClassificationRule) (rules : List ClassificationRule) :
    answer (rule :: rules) descriptor =
      if ∀ token ∈ rule.tokens, Text.Has descriptor token then rule.protocols
      else answer rules descriptor := by
  by_cases has : ∀ token ∈ rule.tokens, Text.Has descriptor token
  · have found : (rule :: rules).find? (·.applies descriptor) = some rule :=
      List.find?_cons_of_pos (applies_iff_has.2 has)
    rw [if_pos has, answer, found]
  · have passed : (rule :: rules).find? (·.applies descriptor) =
        rules.find? (·.applies descriptor) :=
      List.find?_cons_of_neg (mt applies_iff_has.1 has)
    rw [if_neg has, answer, passed, answer]

/-- The search through the table, as a decision on tokens. -/
lemma classify_eq (descriptor : String) :
    classify (some descriptor) =
      if Text.Has descriptor "PSK" ∧ Text.Has descriptor "SAE" then .ofList [.psk, .sae]
      else if Text.Has descriptor "OWE_TRANSITION" then .ofList [.unsecured, .owe]
      else if Text.Has descriptor "OWE" then .single .owe
      else if Text.Has descriptor "WEP" then .single .wep
      else if Text.Has descriptor "SAE" then .single .sae
      else if Text.Has descriptor "PSK" then .single .psk
      else if Text.Has descriptor "EAP_SUITE_B_192" then .single .suiteB
      else if Text.Has descriptor "EAP" then .single .eap
      else .single .unsecured := by
  rw [classify_eq_answer]
  simp only [table, answer_cons, List.forall_mem_cons, List.not_mem_nil, false_implies,
    implies_true, and_true]
  rfl

/-- The row that the search finds is the first one. -/
lemma first_classify (descriptor : String) :
    First (Text.Has descriptor) (classify (some descriptor)) := by
  rw [classify_eq]
  -- row by row, from the top
  by_cases personal : Text.Has descriptor "PSK" ∧ Text.Has descriptor "SAE"
  · rw [if_pos personal]
    exact .pskSae personal.1 personal.2
  rw [if_neg personal]
  by_cases transition : Text.Has descriptor "OWE_TRANSITION"
  · rw [if_pos transition]
    exact .oweTransition personal transition
  rw [if_neg transition]
  by_cases howe : Text.Has descriptor "OWE"
  · rw [if_pos howe]
    exact .owe personal transition howe
  rw [if_neg howe]
  by_cases hwep : Text.Has descriptor "WEP"
  · rw [if_pos hwep]
    exact .wep personal howe hwep
  rw [if_neg hwep]
  by_cases hsae : Text.Has descriptor "SAE"
  · rw [if_pos hsae]
    exact .sae howe hwep (fun hpsk => personal ⟨hpsk, hsae⟩) hsae
  rw [if_neg hsae]
  by_cases hpsk : Text.Has descriptor "PSK"
  · rw [if_pos hpsk]
    exact .psk howe hwep hsae hpsk
  rw [if_neg hpsk]
  by_cases hsuiteB : Text.Has descriptor "EAP_SUITE_B_192"
  · rw [if_pos hsuiteB]
    exact .suiteB howe hwep hsae hpsk hsuiteB
  rw [if_neg hsuiteB]
  by_cases heap : Text.Has descriptor "EAP"
  · rw [if_pos heap]
    exact .eap howe hwep hsae hpsk hsuiteB heap
  rw [if_neg heap]
  exact .unsecured howe hwep hsae hpsk heap

/-- The protocols of the first row are those that the tokens tell. -/
lemma First.mem_iff {has : String → Prop} {protocols : ProtocolSet} (first : First has protocols)
    (owe : has "OWE_TRANSITION" → has "OWE") (eap : has "EAP_SUITE_B_192" → has "EAP")
    (p : Protocol) : p ∈ protocols ↔ p.ToldBy has := by
  cases first with
  | pskSae hpsk hsae => cases p <;> simp [Protocol.ToldBy, hpsk, hsae]
  | oweTransition personal transition =>
    have howe := owe transition
    cases p <;> simp [Protocol.ToldBy, howe, transition] <;> grind
  | owe personal transition howe =>
    cases p <;> simp [Protocol.ToldBy, howe, transition] <;> grind
  | wep personal howe hwep =>
    have transition := mt owe howe
    cases p <;> simp [Protocol.ToldBy, howe, hwep, transition] <;> grind
  | sae howe hwep hpsk hsae =>
    have transition := mt owe howe
    cases p <;> simp [Protocol.ToldBy, howe, hwep, hpsk, hsae, transition]
  | psk howe hwep hsae hpsk =>
    have transition := mt owe howe
    cases p <;> simp [Protocol.ToldBy, howe, hwep, hpsk, hsae, transition]
  | suiteB howe hwep hsae hpsk hsuiteB =>
    have transition := mt owe howe
    have heap := eap hsuiteB
    cases p <;> simp [Protocol.ToldBy, howe, hwep, hpsk, hsae, hsuiteB, heap, transition]
  | eap howe hwep hsae hpsk hsuiteB heap =>
    have transition := mt owe howe
    cases p <;> simp [Protocol.ToldBy, howe, hwep, hpsk, hsae, hsuiteB, heap, transition]
  | unsecured howe hwep hsae hpsk heap =>
    have hsuiteB := mt eap heap
    cases p <;> simp [Protocol.ToldBy, howe, hwep, hpsk, hsae, hsuiteB, heap]

/-- A descriptor is classified as PSK beside SAE exactly when it has both tokens. -/
lemma classify_eq_pskSae_iff (descriptor : String) :
    classify (some descriptor) = .ofList [.psk, .sae] ↔
      Text.Has descriptor "PSK" ∧ Text.Has descriptor "SAE" := by
  have first := first_classify descriptor
  generalize classify (some descriptor) = protocols at first
  cases first with
  | pskSae hpsk hsae => exact iff_of_true rfl ⟨hpsk, hsae⟩
  | oweTransition personal => exact iff_of_false (by decide) personal
  | owe personal => exact iff_of_false (by decide) personal
  | wep personal => exact iff_of_false (by decide) personal
  | sae _ _ hpsk => exact iff_of_false (by decide) fun both => hpsk both.1
  | psk _ _ hsae => exact iff_of_false (by decide) fun both => hsae both.2
  | suiteB _ _ hsae => exact iff_of_false (by decide) fun both => hsae both.2
  | eap _ _ hsae => exact iff_of_false (by decide) fun both => hsae both.2
  | unsecured _ _ hsae => exact iff_of_false (by decide) fun both => hsae both.2

/-- A descriptor is classified by the rule at its first place. -/
lemma classify_eq_firstPlace (descriptor : String) :
    classify (some descriptor) =
      (table[firstPlace descriptor]?.map (·.protocols)).getD fallback := by
  rw [classify_eq_answer, answer, firstPlace, ← List.find?_eq_getElem?_findIdx]
  cases table.find? (·.applies descriptor) <;> rfl

/-- A rule that applies to a text applies to every longer text too. -/
lemma applies_extend {rule : ClassificationRule} (applies : rule.applies descriptor = true)
    (before after : String) : rule.applies (before ++ descriptor ++ after) = true :=
  applies_iff_has.2 fun token htoken =>
    (applies_iff_has.1 applies token htoken).extend before after

/-- With more text around, the first row that applies stands no further down. -/
lemma firstPlace_extend (before descriptor after : String) :
    firstPlace (before ++ descriptor ++ after) ≤ firstPlace descriptor :=
  List.findIdx_le_findIdx fun _ _ applies => applies_extend applies before after

end ClassificationRule

open ClassificationRule

/-- Descriptors that have the same tokens are classified alike. -/
lemma classify_congr {descriptor other : String}
    (same : ∀ rule ∈ table, ∀ token ∈ rule.tokens,
      Text.Has descriptor token ↔ Text.Has other token) :
    classify (some descriptor) = classify (some other) := by
  have alike : table.find? (·.applies descriptor) = table.find? (·.applies other) := by
    refine List.find?_congr fun rule hrule => Bool.eq_iff_iff.2 ?_
    rw [applies_iff_has, applies_iff_has]
    exact forall₂_congr (same rule hrule)
  rw [classify_eq_answer, classify_eq_answer, answer, answer, alike]

/-- The closed form of the classifier: a descriptor offers a protocol exactly when the tokens that
stand in it say so. -/
theorem mem_classify_iff (descriptor : String) (p : Protocol) :
    p ∈ classify (some descriptor) ↔ p.ToldBy (Text.Has descriptor) :=
  (first_classify descriptor).mem_iff Text.Has.owe Text.Has.eap p

/-- More text never lowers precedence. The first rule that applies to a longer text, which is the
one that it is classified by, is at or above the first rule that applies to a part of it. So a
descriptor that offers PSK beside SAE does so whatever is put around it, and every descriptor with
the two tokens in it does, wherever they stand. -/
theorem classify_extended (before descriptor after : String) :
    firstPlace (before ++ descriptor ++ after) ≤ firstPlace descriptor ∧
    (∀ text, classify (some text) = (table[firstPlace text]?.map (·.protocols)).getD fallback) ∧
    (classify (some descriptor) = .ofList [.psk, .sae] →
      classify (some (before ++ descriptor ++ after)) = .ofList [.psk, .sae]) ∧
    (Text.Has descriptor "PSK" → Text.Has descriptor "SAE" →
      classify (some descriptor) = .ofList [.psk, .sae]) := by
  refine ⟨firstPlace_extend before descriptor after, classify_eq_firstPlace, ?_, ?_⟩
  · intro both
    obtain ⟨hpsk, hsae⟩ := (classify_eq_pskSae_iff descriptor).1 both
    exact (classify_eq_pskSae_iff _).2
      ⟨hpsk.extend before after, hsae.extend before after⟩
  · intro hpsk hsae
    exact (classify_eq_pskSae_iff descriptor).2 ⟨hpsk, hsae⟩

/-- SAE stands before PSK here, and tokens of the rows below are put around the two. -/
theorem classify_extended_personal :
    let descriptor := "[RSN-SAE-CCMP][WPA2-PSK-CCMP]"
    let longer := "[RSN-OWE_TRANSITION" ++ descriptor ++ "][WEP]"
    classify (some descriptor) = .ofList [.psk, .sae] ∧
      firstPlace longer ≤ firstPlace descriptor ∧
      classify (some longer) = .ofList [.psk, .sae] := by
  intro descriptor longer
  obtain ⟨place, -, stays, both⟩ :=
    classify_extended "[RSN-OWE_TRANSITION" descriptor "][WEP]"
  have personal := both (by decide +kernel) (by decide +kernel)
  exact ⟨personal, place, stays personal⟩

end WifiRoster

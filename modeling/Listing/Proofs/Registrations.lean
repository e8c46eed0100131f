import Listing.Proofs.Text.CamelCase
import Listing.Registry

/-!
# Registrations

A registry is made by registering callbacks one after the other.  The last one for an operator and a
name counts, and a name counts as another one if the two have one camel case
(`Registry.find?_ofRegistrations`).  Two spellings therefore reach the same callbacks in every
registry exactly if they have one camel case.  The camel case of a name is not always such a
spelling, since it may have a camel case of its own.
-/

namespace Listing

/-- One registration of a callback. -/
inductive Registration where
  | custom (name : String) (run : Callback)
  | override (operator : Operator) (name : String) (run : Callback)

namespace Registration

/-- The operator whose parameters are answered. -/
def operator : Registration → Operator
  | custom _ _ => .custom
  | override operator _ _ => operator

/-- The name as it was given. -/
def name : Registration → String
  | custom name _ | override _ name _ => name

/-- The callback. -/
def run : Registration → Callback
  | custom _ run | override _ _ run => run

/-- Whether the callback is meant for the parameters of an operator on a field. -/
def answers (operator : Operator) (name : String) (registration : Registration) : Bool :=
  registration.operator == operator && Registry.token registration.name == Registry.token name

end Registration

namespace Registry

/-- Registers a callback. -/
def register (registry : Registry) : Registration → Registry
  | .custom name run => registry.custom name run
  | .override operator name run => registry.override operator name run

/-- The registry that registrations make, the first of them first. -/
def ofRegistrations (registrations : List Registration) : Registry :=
  registrations.foldl register empty

/-- The callback for the parameters of an operator on a field. -/
def find? (registry : Registry) (operator : Operator) (name : String) : Option Callback :=
  if operator = .custom then registry.custom? name else registry.override? operator name

/-! ## Last registrations -/

theorem find?_custom (registry : Registry) (other : String) (run : Callback) (operator : Operator)
    (name : String) :
    (registry.custom other run).find? operator name =
      if .custom = operator ∧ token other = token name then some run
      else registry.find? operator name := by
  by_cases operator_eq : operator = .custom
  · rw [find?, find?, if_pos operator_eq, if_pos operator_eq, custom?, custom,
      Bindings.last?_append_singleton]
    simp [operator_eq, custom?]
  · have notOther : ¬(.custom = operator ∧ token other = token name) := fun same =>
      operator_eq same.1.symm
    rw [find?, find?, if_neg operator_eq, if_neg operator_eq, if_neg notOther]
    rfl

theorem find?_override (registry : Registry) (replaced : Operator) (other : String) (run : Callback)
    (operator : Operator) (name : String) :
    (registry.override replaced other run).find? operator name =
      if replaced = operator ∧ token other = token name then some run
      else registry.find? operator name := by
  by_cases replaced_eq : replaced = .custom
  · rw [override, if_pos replaced_eq, find?_custom, replaced_eq]
  · rw [override, if_neg replaced_eq]
    by_cases operator_eq : operator = .custom
    · have notOther : ¬(replaced = operator ∧ token other = token name) := fun same =>
        replaced_eq (same.1.trans operator_eq)
      rw [find?, find?, if_pos operator_eq, if_pos operator_eq, if_neg notOther]
      rfl
    · rw [find?, find?, if_neg operator_eq, if_neg operator_eq, override?,
        Bindings.last?_append_singleton]
      simp only [Prod.mk.injEq]
      rfl

/-- A registration is found where it answers and changes nothing elsewhere. -/
theorem find?_register (registry : Registry) (registration : Registration) (operator : Operator)
    (name : String) :
    (registry.register registration).find? operator name =
      if registration.answers operator name then some registration.run
      else registry.find? operator name := by
  simp only [Registration.answers, Bool.and_eq_true, beq_iff_eq]
  cases registration with
  | custom other run => exact registry.find?_custom other run operator name
  | override replaced other run => exact registry.find?_override replaced other run operator name

/-- Of all registrations that answer the last one is found. -/
theorem find?_ofRegistrations (registrations : List Registration) (operator : Operator)
    (name : String) :
    (ofRegistrations registrations).find? operator name =
      (registrations.reverse.find? (·.answers operator name)).map Registration.run := by
  induction registrations using List.reverseRecOn with
  | nil => cases operator <;> rfl
  | append_singleton earlier registration ih =>
      rw [ofRegistrations, List.foldl_concat, find?_register, List.reverse_concat, List.find?_cons]
      cases registration.answers operator name with
      | true => rfl
      | false => exact ih

/-! ## Spellings -/

/-- Two spellings reach the same callbacks, whatever has been registered. -/
def ReachAlike (name other : String) : Prop :=
  ∀ registrations operator,
    (ofRegistrations registrations).find? operator other =
      (ofRegistrations registrations).find? operator name

/-- A single custom callback is found under the spellings of its name. -/
theorem find?_singleton (name other : String) (run : Callback) :
    (ofRegistrations [.custom name run]).find? .custom other =
      if token name = token other then some run else none := by
  have found_eq := empty.find?_custom name run .custom other
  simp only [true_and] at found_eq
  exact found_eq

theorem reachAlike_iff {name other : String} :
    ReachAlike name other ↔ token other = token name := by
  constructor
  · intro alike
    have found_eq := alike [.custom name fun _ _ => []] .custom
    rw [find?_singleton, find?_singleton, if_pos rfl, Option.ite_none_right_eq_some] at found_eq
    exact found_eq.1.symm
  · intro token_eq registrations operator
    simp only [find?_ofRegistrations, Registration.answers, token_eq]

theorem override?_custom_ofRegistrations (registrations : List Registration) (name : String) :
    (ofRegistrations registrations).override? .custom name = none := by
  induction registrations using List.reverseRecOn with
  | nil => rfl
  | append_singleton earlier registration ih =>
      rw [ofRegistrations, List.foldl_concat, ← ih]
      cases registration with
      | custom other run => rfl
      | override replaced other run =>
          rw [register, override]
          by_cases replaced_eq : replaced = .custom
          · rw [if_pos replaced_eq]
            rfl
          · have key_ne : (replaced, token other) ≠ (.custom, token name) := fun same =>
              replaced_eq (Prod.mk.inj same).1
            rw [if_neg replaced_eq, override?, Bindings.last?_append_singleton, if_neg key_ne]
            rfl

/-- For every field name, a lookup finds the callback of the last registration for the same operator
under a name with the same camel case, and the custom operator is never found to be replaced.  The
camel case of the name reaches the same callbacks in every registry exactly if it is its own camel
case.  For a name of simple characters this is so exactly if all seams between its words show. -/
theorem reachAlike_token_iff (name : String) :
    (∀ registrations operator,
      (ofRegistrations registrations).find? operator name =
        (registrations.reverse.find? (·.answers operator name)).map Registration.run) ∧
      (∀ registrations, (ofRegistrations registrations).override? .custom name = none) ∧
      (ReachAlike name (token name) ↔ token (token name) = token name) ∧
      ((∀ c ∈ name.toList, Text.CamelCase.IsSimple [c]) →
        (ReachAlike name (token name) ↔
          Text.CamelCase.seamsShow true (Text.CamelCase.words name.toList) = true)) := by
  refine ⟨fun registrations operator => find?_ofRegistrations registrations operator name,
    fun registrations => override?_custom_ofRegistrations registrations name, reachAlike_iff, ?_⟩
  intro allSimple
  exact reachAlike_iff.trans (Text.camelCase_camelCase_iff allSimple)

theorem reachAlike_by_author :
    (∀ c ∈ "by_author".toList, Text.CamelCase.IsSimple [c]) ∧
      token "by_author" = "byAuthor" ∧ ReachAlike "by_author" "byAuthor" := by
  have allSimple : ∀ c ∈ "by_author".toList, Text.CamelCase.IsSimple [c] := by
    have plain : "by_author".toList.all (fun c => c.toNat < 0x80 && c != '\r') = true := by
      decide +kernel
    intro c c_mem
    have plain := List.all_eq_true.mp plain c c_mem
    simp only [Bool.and_eq_true, decide_eq_true_eq, bne_iff_ne] at plain
    exact Text.CamelCase.isSimple_of_lt plain.1 plain.2
  have token_eq : token "by_author" = "byAuthor" := by decide +kernel
  have seams : Text.CamelCase.seamsShow true (Text.CamelCase.words "by_author".toList) = true := by
    decide +kernel
  have alike := ((reachAlike_token_iff "by_author").2.2.2 allSimple).mpr seams
  rw [token_eq] at alike
  exact ⟨allSimple, token_eq, alike⟩

/-- Three words of one letter each: their camel case is read as two words only, so that a callback
for this name is not found under its camel case. -/
theorem not_reachAlike_one_letter_words :
    token "a_b_c" = "aBC" ∧ token "aBC" = "aBc" ∧
      ∀ run, (ofRegistrations [.custom "a_b_c" run]).find? .custom "a_b_c" = some run ∧
        (ofRegistrations [.custom "a_b_c" run]).find? .custom "aBC" = none := by
  have name_eq : token "a_b_c" = "aBC" := by decide +kernel
  have again_eq : token "aBC" = "aBc" := by decide +kernel
  refine ⟨name_eq, again_eq, fun run => ?_⟩
  rw [find?_singleton, find?_singleton, name_eq, again_eq]
  exact ⟨if_pos rfl, if_neg (by decide +kernel)⟩

end Registry

end Listing

import Listing.Text.Split
import Mathlib.Data.List.Infix

/-!
# Cutting text at doubled marks

A run of three or more marks can be taken apart in several ways, and the pieces of a text are those
that come out from the left: a piece ends at the first doubled mark, which is the one that stands
nowhere earlier, not even across the end of the piece (`splitOnDouble_append`).  A text has one
piece if it has no doubled mark at all, and two under the conditions of `splitOnDouble_eq_pair_iff`.
-/

namespace Listing.Text

variable {mark : Char} {text piece rest first second : List Char}

theorem splitOnDouble_ne_nil (mark : Char) (text : List Char) : splitOnDouble mark text ≠ [] := by
  fun_induction splitOnDouble mark text with
  | case1 | case2 | case3 => exact List.cons_ne_nil _ _
  | case4 c d rest _ ih => cases splitOnDouble mark (d :: rest) <;> simp [consHead]

theorem splitOnDouble_of_plain (plain : ¬[mark, mark] <:+: text) :
    splitOnDouble mark text = [text] := by
  fun_induction splitOnDouble mark text with
  | case1 => rfl
  | case2 => rfl
  | case3 c d rest marks =>
      obtain ⟨rfl, rfl⟩ := marks
      exact absurd (List.prefix_append [_, _] rest).isInfix plain
  | case4 c d rest _ ih =>
      have notRest : ¬[mark, mark] <:+: d :: rest := fun isInfix =>
        plain (List.infix_cons isInfix)
      rw [ih notRest, consHead]

/-- A doubled mark cuts off the piece before it if it is the first one. -/
theorem splitOnDouble_append (notFirst : ¬[mark, mark] <:+: piece ++ [mark]) (rest : List Char) :
    splitOnDouble mark (piece ++ mark :: mark :: rest) = piece :: splitOnDouble mark rest := by
  induction piece with
  | nil => simp [splitOnDouble]
  | cons c piece ih =>
      have notPiece : ¬[mark, mark] <:+: piece ++ [mark] := fun isInfix =>
        notFirst (List.infix_cons isInfix)
      have notHead : ¬[mark, mark] <+: c :: (piece ++ [mark]) := fun starts =>
        notFirst starts.isInfix
      have rest_eq := ih notPiece
      -- whether the first mark comes next or another character, the two do not start the text
      cases piece with
      | nil =>
          have c_ne : ¬c = mark := by simpa [eq_comm] using notHead
          simp only [List.nil_append] at rest_eq
          simp [splitOnDouble, c_ne, consHead]
      | cons d piece =>
          have ne : ¬(c = mark ∧ d = mark) := by simpa [eq_comm] using notHead
          simp only [List.cons_append] at rest_eq ⊢
          rw [splitOnDouble, if_neg ne, rest_eq, consHead]

theorem exists_first_double (doubleIsInfix : [mark, mark] <:+: text) :
    ∃ piece rest, text = piece ++ mark :: mark :: rest ∧ ¬[mark, mark] <:+: piece ++ [mark] := by
  induction text with
  | nil => simp at doubleIsInfix
  | cons c text ih =>
      by_cases head : [mark, mark] <+: c :: text
      · obtain ⟨rest, rest_eq⟩ := head
        exact ⟨[], rest, rest_eq.symm, fun insideIsInfix => by simpa using insideIsInfix.length_le⟩
      · have tailIsInfix : [mark, mark] <:+: text :=
          (List.infix_cons_iff.mp doubleIsInfix).resolve_left head
        obtain ⟨piece, rest, rfl, notFirst⟩ := ih tailIsInfix
        refine ⟨c :: piece, rest, rfl, fun insideIsInfix => ?_⟩
        rcases List.infix_cons_iff.mp insideIsInfix with starts | innerIsInfix
        · exact head (starts.trans ⟨mark :: rest, by simp⟩)
        · exact notFirst innerIsInfix

theorem splitOnDouble_eq_singleton_iff :
    splitOnDouble mark text = [piece] ↔ text = piece ∧ ¬[mark, mark] <:+: text := by
  constructor
  · intro single_eq
    by_cases isInfix : [mark, mark] <:+: text
    · obtain ⟨before, rest, rfl, notFirst⟩ := exists_first_double isInfix
      rw [splitOnDouble_append notFirst] at single_eq
      exact absurd (List.cons.inj single_eq).2 (splitOnDouble_ne_nil mark rest)
    · rw [splitOnDouble_of_plain isInfix] at single_eq
      exact ⟨(List.cons.inj single_eq).1, isInfix⟩
  · rintro ⟨rfl, plain⟩
    exact splitOnDouble_of_plain plain

/-- A mark at the end adds a doubled mark to a text exactly if the text ends in a mark already. -/
theorem infix_concat_mark_iff :
    [mark, mark] <:+: text ++ [mark] ↔ [mark, mark] <:+: text ∨ [mark] <:+ text := by
  have ends_iff : [mark, mark] <:+ text ++ [mark] ↔ [mark] <:+ text := by
    constructor
    · rintro ⟨before, before_eq⟩
      have drop_eq : before ++ [mark] = text := List.append_cancel_right (by simpa using before_eq)
      exact ⟨before, drop_eq⟩
    · rintro ⟨before, rfl⟩
      exact ⟨before, by simp⟩
  rw [List.infix_concat_iff, ends_iff, or_comm]

/-- A text has two pieces exactly if one doubled mark stands between texts without any and the first
of them does not end in a mark. -/
theorem splitOnDouble_eq_pair_iff :
    splitOnDouble mark text = [first, second] ↔
      text = first ++ [mark, mark] ++ second ∧
        ¬[mark, mark] <:+: first ∧ ¬[mark] <:+ first ∧ ¬[mark, mark] <:+: second := by
  have separate : ¬[mark, mark] <:+: first ++ [mark] ↔
      ¬[mark, mark] <:+: first ∧ ¬[mark] <:+ first := by
    rw [infix_concat_mark_iff, not_or]
  rw [← and_assoc (a := ¬[mark, mark] <:+: first), ← separate]
  constructor
  · intro pair_eq
    by_cases isInfix : [mark, mark] <:+: text
    · obtain ⟨piece, rest, rfl, notFirst⟩ := exists_first_double isInfix
      rw [splitOnDouble_append notFirst, List.cons.injEq, splitOnDouble_eq_singleton_iff] at pair_eq
      obtain ⟨rfl, rfl, plain⟩ := pair_eq
      exact ⟨by simp, notFirst, plain⟩
    · rw [splitOnDouble_of_plain isInfix] at pair_eq
      simp at pair_eq
  · rintro ⟨rfl, notFirst, plain⟩
    have text_eq : first ++ [mark, mark] ++ second = first ++ mark :: mark :: second := by simp
    rw [text_eq, splitOnDouble_append notFirst, splitOnDouble_of_plain plain]

end Listing.Text

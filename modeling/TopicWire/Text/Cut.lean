/-!
# Cutting a text at a separator

`cut p` divides a text at the first character with `p`, which belongs to neither part.
`append_of_cut` puts the parts together again, `cut_append` finds them in a text put together so, and
`cut_eq_none_iff` says that only a text without such a character is left whole. For a cut at one given
character `cut_char_eq_some_iff` says all of this. `pieces p` divides a text at all of them.
-/

namespace TopicWire.Text

/-- The parts before and after the first character with `p`. -/
def cut (p : Char → Bool) : List Char → Option (List Char × List Char)
  | [] => none
  | c :: cs =>
    if p c then some ([], cs)
    else match cut p cs with
      | none => none
      | some (left, right) => some (c :: left, right)

/-- The parts between the characters with `p`, one more than there are such characters. -/
def pieces (p : Char → Bool) : List Char → List (List Char)
  | [] => [[]]
  | c :: cs =>
    if p c then [] :: pieces p cs
    else match pieces p cs with
      | [] => [[c]]
      | piece :: rest => (c :: piece) :: rest

theorem cut_eq_none_iff {p : Char → Bool} {cs : List Char} :
    cut p cs = none ↔ ∀ c ∈ cs, p c = false := by
  induction cs with
  | nil => simp [cut]
  | cons c cs ih =>
    cases h : p c <;> simp only [cut, h, List.mem_cons, forall_eq_or_imp]
    · cases hc : cut p cs with
      | none => simpa using ih.mp hc
      | some parts =>
        have : ¬ ∀ a ∈ cs, p a = false := fun all => by simp [ih.mpr all] at hc
        simp [this]
    · simp

theorem append_of_cut {p : Char → Bool} {cs left right : List Char}
    (h : cut p cs = some (left, right)) :
    ∃ c, p c = true ∧ cs = left ++ c :: right ∧ ∀ a ∈ left, p a = false := by
  induction cs generalizing left with
  | nil => simp [cut] at h
  | cons c cs ih =>
    cases hp : p c with
    | true =>
      simp only [cut, hp, if_true, Option.some.injEq, Prod.mk.injEq] at h
      obtain ⟨rfl, rfl⟩ := h
      exact ⟨c, hp, rfl, by simp⟩
    | false =>
      cases hc : cut p cs with
      | none => simp [cut, hp, hc] at h
      | some parts =>
        simp only [cut, hp, hc, Bool.false_eq_true, if_false, Option.some.injEq,
          Prod.mk.injEq] at h
        obtain ⟨rfl, rfl⟩ := h
        obtain ⟨s, hs, rfl, all⟩ := ih hc
        exact ⟨s, hs, rfl, by simp [hp]; exact all⟩

theorem cut_append {p : Char → Bool} {left right : List Char} {c : Char}
    (none : ∀ a ∈ left, p a = false) (here : p c = true) :
    cut p (left ++ c :: right) = some (left, right) := by
  induction left with
  | nil => simp [cut, here]
  | cons a left ih =>
    have rest := ih fun b there => none b (.tail _ there)
    simp only [List.cons_append, cut, none a (.head _), rest, Bool.false_eq_true, if_false]

section

variable {c : Char} {cs left right : List Char}

theorem cut_char_eq_none_iff : cut (· == c) cs = none ↔ c ∉ cs := by
  rw [cut_eq_none_iff]
  constructor
  · intro none there
    exact beq_eq_false_iff_ne.mp (none c there) rfl
  · intro absent a there
    apply beq_eq_false_iff_ne.mpr
    rintro rfl
    exact absent there

theorem cut_char_eq_some_iff :
    cut (· == c) cs = some (left, right) ↔ cs = left ++ c :: right ∧ c ∉ left := by
  constructor
  · intro divided
    obtain ⟨s, here, together, before⟩ := append_of_cut divided
    obtain rfl := eq_of_beq here
    refine ⟨together, ?_⟩
    intro there
    exact beq_eq_false_iff_ne.mp (before s there) rfl
  · rintro ⟨rfl, plain⟩
    refine cut_append ?_ (beq_self_eq_true c)
    intro a there
    apply beq_eq_false_iff_ne.mpr
    rintro rfl
    exact plain there

end

end TopicWire.Text

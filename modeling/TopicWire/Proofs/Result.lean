import Mathlib.Data.List.Forall2

/-!
# Results

A chain of steps succeeds if each step does: `bind_ok_iff` takes the first one off, for steps that
only return a result and for steps that also carry a state; `bind_error_iff` and `failure?_bind` say
where a chain fails. `Stateful.bind_of_ok` and `Stateful.bind_of_error` go on from the outcome of the first step.
For steps that fail or not whatever was done before them, `foldlM_map_ok_iff` and
`foldlM_map_error_iff` say what a list of them comes to.
-/

namespace TopicWire

namespace Result

variable {ε α β : Type}

theorem bind_ok_iff {x : Except ε α} {f : α → Except ε β} {b : β} :
    (x >>= f) = .ok b ↔ ∃ a, x = .ok a ∧ f a = .ok b := by
  cases x with
  | error e =>
    constructor
    · intro h
      cases h
    · rintro ⟨_, h, _⟩
      cases h
  | ok a =>
    constructor
    · intro h
      exact ⟨a, rfl, h⟩
    · rintro ⟨_, same, h⟩
      cases same
      exact h

theorem bind_error_iff {x : Except ε α} {f : α → Except ε β} {e : ε} :
    (x >>= f) = .error e ↔ x = .error e ∨ ∃ a, x = .ok a ∧ f a = .error e := by
  cases x with
  | error first =>
    constructor
    · intro h
      cases h
      exact .inl rfl
    · rintro (h | ⟨_, same, _⟩)
      · cases h
        rfl
      · cases same
  | ok a =>
    constructor
    · intro h
      exact .inr ⟨a, rfl, h⟩
    · rintro (h | ⟨_, same, h⟩)
      · cases h
      · cases same
        exact h

theorem pure_ok_iff {a b : α} : (pure a : Except ε α) = .ok b ↔ a = b := by
  show Except.ok a = .ok b ↔ _
  rw [Except.ok.injEq]

theorem map_ok_iff {x : Except ε α} {f : α → β} {b : β} :
    x.map f = .ok b ↔ ∃ a, x = .ok a ∧ f a = b := by
  cases x <;> simp [Except.map]

/-- The error of a result that has no value. -/
def failure? : Except ε α → Option ε
  | .error e => some e
  | .ok _ => none

theorem failure?_map (x : Except ε α) (f : α → β) : failure? (x.map f) = failure? x := by
  cases x <;> rfl

/-- Of two steps in a row the first one that fails gives the error. -/
theorem failure?_bind {x : Except ε α} {f : α → Except ε β} {e : Option ε}
    (later : ∀ a, failure? (f a) = e) : failure? (x >>= f) = (failure? x).or e := by
  cases x with
  | error => rfl
  | ok a => exact later a

theorem failure?_add (x y : Except ε Nat) :
    failure? (do let a ← x; let b ← y; return a + b) = (failure? x).or (failure? y) :=
  failure?_bind fun _ => by cases y <;> rfl

theorem exists_of_forall₂ {R : α → β → Prop} {xs : List α} {ys : List β} (all : List.Forall₂ R xs ys) :
    ∀ x ∈ xs, ∃ y, R x y := by
  induction all with
  | nil => nofun
  | cons related _ ih => exact List.forall_mem_cons.mpr ⟨⟨_, related⟩, ih⟩

section

variable {σ : Type} {f : α → Except ε β} {put : σ → β → σ} {xs : List α} {s t : σ}

/-- Whether a step fails does not depend on the state, so the results can be put together afterwards. -/
theorem foldlM_map_ok_iff : xs.foldlM (fun s x => (f x).map (put s)) s = .ok t ↔
    ∃ ys, List.Forall₂ (fun x y => f x = .ok y) xs ys ∧ ys.foldl put s = t := by
  induction xs generalizing s with
  | nil =>
    rw [List.foldlM_nil, pure_ok_iff]
    constructor
    · rintro rfl
      exact ⟨[], .nil, rfl⟩
    · rintro ⟨_, ⟨⟩, same⟩
      exact same
  | cons x xs ih =>
    rw [List.foldlM_cons, bind_ok_iff]
    constructor
    · rintro ⟨_, first, rest⟩
      obtain ⟨y, made, rfl⟩ := map_ok_iff.mp first
      obtain ⟨ys, all, same⟩ := ih.mp rest
      exact ⟨y :: ys, .cons made all, same⟩
    · rintro ⟨_, all, same⟩
      obtain ⟨y, ys, made, rest, rfl⟩ := List.forall₂_cons_left_iff.mp all
      exact ⟨put s y, map_ok_iff.mpr ⟨y, made, rfl⟩, ih.mpr ⟨ys, rest, same⟩⟩

theorem foldlM_map_succeeds_iff :
    (∃ t, xs.foldlM (fun s x => (f x).map (put s)) s = .ok t) ↔ ∀ x ∈ xs, ∃ y, f x = .ok y := by
  simp only [foldlM_map_ok_iff]
  constructor
  · rintro ⟨_, ys, all, -⟩
    exact exists_of_forall₂ all
  · intro each
    induction xs generalizing s with
    | nil => exact ⟨s, [], .nil, rfl⟩
    | cons x xs ih =>
      obtain ⟨⟨y, made⟩, others⟩ := List.forall_mem_cons.mp each
      obtain ⟨t, ys, all, done⟩ := ih (s := put s y) others
      exact ⟨t, y :: ys, .cons made all, done⟩

/-- The first step that fails gives the error. -/
theorem foldlM_map_error_iff {e : ε} : xs.foldlM (fun s x => (f x).map (put s)) s = .error e ↔
    ∃ before x after, xs = before ++ x :: after ∧ (∀ y ∈ before, ∃ b, f y = .ok b) ∧ f x = .error e := by
  induction xs generalizing s with
  | nil =>
    constructor
    · nofun
    · rintro ⟨before, x, after, whole, -⟩
      exact (List.append_ne_nil_of_right_ne_nil before (List.cons_ne_nil x after) whole.symm).elim
  | cons x xs ih =>
    cases made : f x with
    | error first =>
      have failed : (x :: xs).foldlM (fun s x => (f x).map (put s)) s = .error first := by
        rw [List.foldlM_cons, made]
        rfl
      rw [failed]
      constructor
      · rintro ⟨⟩
        exact ⟨[], x, xs, rfl, nofun, made⟩
      · rintro ⟨before, y, after, whole, fine, failed⟩
        cases before with
        | nil =>
          obtain ⟨rfl, -⟩ := List.cons.inj whole
          exact congrArg Except.error (Except.error.inj (made.symm.trans failed))
        | cons z before =>
          obtain ⟨rfl, -⟩ := List.cons.inj whole
          obtain ⟨b, done⟩ := fine x (.head _)
          cases made.symm.trans done
    | ok y =>
      have goes : (x :: xs).foldlM (fun s x => (f x).map (put s)) s =
          xs.foldlM (fun s x => (f x).map (put s)) (put s y) := by
        rw [List.foldlM_cons, made]
        rfl
      rw [goes, ih]
      constructor
      · rintro ⟨before, z, after, rfl, fine, failed⟩
        exact ⟨x :: before, z, after, rfl, List.forall_mem_cons.mpr ⟨⟨y, made⟩, fine⟩, failed⟩
      · rintro ⟨before, z, after, whole, fine, failed⟩
        cases before with
        | nil =>
          obtain ⟨rfl, -⟩ := List.cons.inj whole
          cases made.symm.trans failed
        | cons w before =>
          obtain ⟨rfl, rest⟩ := List.cons.inj whole
          exact ⟨before, z, after, rest, (List.forall_mem_cons.mp fine).2, failed⟩

end

end Result

namespace Stateful

variable {ε σ α β : Type} {s s' : σ}

theorem bind_ok_iff {x : EStateM ε σ α} {f : α → EStateM ε σ β} {b : β} :
    (x >>= f) s = .ok b s' ↔ ∃ a middle, x s = .ok a middle ∧ f a middle = .ok b s' := by
  show EStateM.bind x f s = .ok b s' ↔ _
  unfold EStateM.bind
  cases x s with
  | ok a middle =>
    constructor
    · intro h
      exact ⟨a, middle, rfl, h⟩
    · rintro ⟨_, _, same, h⟩
      cases same
      exact h
  | error e middle => simp

theorem bind_of_ok {x : EStateM ε σ α} {f : α → EStateM ε σ β} {a : α} (first : x s = .ok a s') :
    (x >>= f) s = f a s' := by
  show EStateM.bind x f s = _
  rw [EStateM.bind, first]

theorem bind_of_error {x : EStateM ε σ α} {f : α → EStateM ε σ β} {e : ε}
    (first : x s = .error e s') : (x >>= f) s = .error e s' := by
  show EStateM.bind x f s = _
  rw [EStateM.bind, first]

theorem pure_ok_iff {a b : α} : (pure a : EStateM ε σ α) s = .ok b s' ↔ a = b ∧ s = s' := by
  show EStateM.Result.ok a s = .ok b s' ↔ _
  simp

theorem throw_ok {e : ε} {a : α} (h : (throw e : EStateM ε σ α) s = .ok a s') : False := by
  cases h

end Stateful

end TopicWire

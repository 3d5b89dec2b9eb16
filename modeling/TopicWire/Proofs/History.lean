/-!
# Histories

What the moves of a run give one after the other, each from the state in which it is made.
-/

namespace TopicWire

variable {σ μ α : Type}

/-- Everything that the moves of a run give. -/
def history (step : σ → μ → σ) (give : σ → μ → List α) (s : σ) : List μ → List α
  | [] => []
  | move :: moves => give s move ++ history step give (step s move) moves

variable {step : σ → μ → σ} {give : σ → μ → List α}

theorem history_append (s : σ) (moves later : List μ) :
    history step give s (moves ++ later) =
      history step give s moves ++ history step give (moves.foldl step s) later := by
  induction moves generalizing s with
  | nil => rfl
  | cons move moves ih =>
    rw [List.cons_append, history, history, ih, List.append_assoc, List.foldl_cons]

theorem history_snoc (s : σ) (moves : List μ) (move : μ) :
    history step give s (moves ++ [move]) =
      history step give s moves ++ give (moves.foldl step s) move := by
  rw [history_append, history, history, List.append_nil]

theorem history_sublist {give' : σ → μ → List α} (sub : ∀ s move, (give s move).Sublist (give' s move))
    (s : σ) (moves : List μ) : (history step give s moves).Sublist (history step give' s moves) := by
  induction moves generalizing s with
  | nil => exact .slnil
  | cons move moves ih => exact (sub s move).append (ih _)

theorem history_filter {give' : σ → μ → List α} {q : α → Bool}
    (same : ∀ s move, (give s move).filter q = (give' s move).filter q) (s : σ) (moves : List μ) :
    (history step give s moves).filter q = (history step give' s moves).filter q := by
  induction moves generalizing s with
  | nil => rfl
  | cons move moves ih => rw [history, history, List.filter_append, List.filter_append, same, ih]

theorem history_map {β : Type} (f : α → β) (s : σ) (moves : List μ) :
    (history step give s moves).map f = history step (fun s move => (give s move).map f) s moves := by
  induction moves generalizing s with
  | nil => rfl
  | cons move moves ih => rw [history, history, List.map_append, ih]

/-- What a run gives is given by one of its moves. -/
theorem exists_of_mem_history {s : σ} {moves : List μ} {a : α} (there : a ∈ history step give s moves) :
    ∃ s', ∃ move ∈ moves, a ∈ give s' move := by
  induction moves generalizing s with
  | nil => cases there
  | cons move moves ih =>
    rw [history] at there
    rcases List.mem_append.mp there with now | later
    · exact ⟨s, move, List.mem_cons_self, now⟩
    · obtain ⟨s', move', member, given⟩ := ih later
      exact ⟨s', move', List.mem_cons_of_mem _ member, given⟩

/-- A run is followed from its start: what holds of the start and is kept by every move holds at the
end, and so does what relates the state to the moves made so far. -/
theorem run_induction {motive : List μ → σ → Prop} {s : σ} (start : motive [] s)
    (keeps : ∀ moves move, motive moves (moves.foldl step s) →
      motive (moves ++ [move]) (step (moves.foldl step s) move)) (moves : List μ) :
    motive moves (moves.foldl step s) := by
  suffices h : ∀ later earlier : List μ, motive earlier (earlier.foldl step s) →
      motive (earlier ++ later) ((earlier ++ later).foldl step s) from h moves [] start
  intro later
  induction later with
  | nil =>
    intro earlier held
    rwa [List.append_nil]
  | cons move later ih =>
    intro earlier held
    have next := ih (earlier ++ [move])
    rw [List.foldl_append, List.foldl_cons, List.foldl_nil, List.append_assoc] at next
    exact next (keeps earlier move held)

/-- What becomes of a state with moves of a kind. -/
def Reached (step : σ → μ → σ) (kind : μ → Bool) (s t : σ) : Prop :=
  ∃ moves : List μ, t = moves.foldl step s ∧ ∀ move ∈ moves, kind move = true

namespace Reached

variable {kind : μ → Bool} {s t u : σ}

theorem refl (s : σ) : Reached step kind s s :=
  ⟨[], rfl, List.forall_mem_nil _⟩

theorem of_move (s : σ) {move : μ} (known : kind move = true) : Reached step kind s (step s move) :=
  ⟨[move], rfl, List.forall_mem_singleton.mpr known⟩

theorem trans (first : Reached step kind s t) (second : Reached step kind t u) :
    Reached step kind s u := by
  obtain ⟨moves, rfl, all⟩ := first
  obtain ⟨later, rfl, rest⟩ := second
  exact ⟨moves ++ later, List.foldl_append.symm, List.forall_mem_append.mpr ⟨all, rest⟩⟩

theorem imp {kind' : μ → Bool} (reached : Reached step kind s t)
    (known : ∀ move, kind move = true → kind' move = true) : Reached step kind' s t := by
  obtain ⟨moves, rfl, all⟩ := reached
  exact ⟨moves, rfl, fun move made => known move (all move made)⟩

/-- What every move of the kind keeps is kept. -/
theorem keeps {motive : σ → Prop} (reached : Reached step kind s t) (start : motive s)
    (keeps : ∀ s move, kind move = true → motive s → motive (step s move)) : motive t := by
  obtain ⟨moves, rfl, all⟩ := reached
  induction moves generalizing s with
  | nil => exact start
  | cons move moves ih =>
    obtain ⟨now, later⟩ := List.forall_mem_cons.mp all
    exact ih (keeps s move now start) later

end Reached

end TopicWire

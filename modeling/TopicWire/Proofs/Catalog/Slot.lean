import TopicWire.Catalog.Slot
import TopicWire.Proofs.History

/-!
# What racing callers get

Callers can ask, make, put in and look in any order. Every type that one of them gets is the one that
is stored, and stays it, except for types that were put in while a caller was making one
(`Slot.answers_stored_iff`). Such a type is handed back and not stored, so two callers can hold
different types (`Slot.put_in_vain`).
-/

namespace TopicWire.Slot

/-- The answer to a put that finds a caller making the type. -/
def handsBack (s : Slot) : Move → List SlotAnswer
  | .put caller type => if s.stored.isNone && s.maker.isSome then [⟨caller, .ok type⟩] else []
  | _ => []

/-- What was handed back in a run, instead of being stored. -/
def handedBack (s : Slot) (moves : List Move) : List SlotAnswer :=
  history step handsBack s moves

/-- No caller makes a type that is stored. -/
def Orderly (s : Slot) : Prop :=
  ∀ type, s.stored = some type → s.maker = none

/-- From one slot to the next a stored type stays, and the new answers are the stored type, failures and
what is handed back. -/
structure Leads (s : Slot) (given : List SlotAnswer) (s' : Slot) : Prop where
  orderly : s'.Orderly
  keeps : ∀ type, s.stored = some type → s'.stored = some type
  answers : ∃ new, s'.answers = s.answers ++ new ∧ given ⊆ new ∧
    ∀ a ∈ new, ∀ type, a.outcome = .ok type → s'.stored = some type ∨ a ∈ given

variable {s : Slot} {caller : Nat} {type : MessageType}

theorem answer_all (s : Slot) (callers : List Nat) (outcome : Except SchemaError MessageType) :
    callers.foldl (fun s caller => s.answer caller outcome) s =
      { s with answers := s.answers ++ callers.map (⟨·, outcome⟩) } := by
  induction callers generalizing s with
  | nil => simp
  | cons caller callers ih =>
    rw [List.foldl_cons, ih]
    simp [answer]

theorem Leads.told {s' : Slot} (new : List SlotAnswer) (orderly : s'.Orderly)
    (keeps : ∀ type, s.stored = some type → s'.stored = some type)
    (answers : s'.answers = s.answers ++ new)
    (stored : ∀ a ∈ new, ∀ type, a.outcome = .ok type → s'.stored = some type) : Leads s [] s' :=
  ⟨orderly, keeps, new, answers, List.nil_subset _, fun a h type same => .inl (stored a h type same)⟩

theorem Leads.silent {s' : Slot} (orderly : s'.Orderly) (stored : s'.stored = s.stored)
    (answers : s'.answers = s.answers) : Leads s [] s' := by
  refine .told [] orderly (fun _ there => stored.trans there) ?_ nofun
  rw [answers, List.append_nil]

theorem answer_leads (orderly : s.Orderly) (there : s.stored = some type) (caller : Nat) :
    Leads s [] (s.answer caller (.ok type)) := by
  refine .told [⟨caller, .ok type⟩] orderly (fun _ old => old) rfl fun a new found same => ?_
  obtain rfl := List.mem_singleton.mp new
  cases same
  exact there

theorem ask_leads (orderly : s.Orderly) (caller : Nat) : Leads s [] (s.ask caller) := by
  unfold ask
  split
  · rename_i there
    exact answer_leads orderly there caller
  · exact .silent orderly rfl rfl
  · rename_i nothing _
    refine .silent (fun found there => ?_) rfl rfl
    cases nothing.symm.trans there

theorem finish_leads (orderly : s.Orderly) (outcome : Except SchemaError MessageType) :
    Leads s [] (s.finish outcome) := by
  cases making : s.maker with
  | none =>
    unfold finish
    rw [making]
    exact .silent orderly rfl rfl
  | some maker =>
    -- While a caller makes the type none is stored, so none is replaced.
    have nothing {P : Prop} {found} (there : s.stored = some found) : P := by
      cases (orderly found there).symm.trans making
    unfold finish
    rw [making]
    dsimp only
    split
    · rename_i _ found
      rw [answer_all]
      refine .told (⟨maker, .ok found⟩ :: s.line.map (⟨·, .ok found⟩)) (fun _ _ => rfl)
        (fun _ there => nothing there) ?_ fun a new type same => ?_
      · show s.answers ++ [_] ++ _ = _
        rw [List.append_assoc]
        rfl
      · rcases List.mem_cons.mp new with rfl | later
        · cases same
          rfl
        · obtain ⟨_, -, rfl⟩ := List.mem_map.mp later
          cases same
          rfl
    · refine .told [⟨maker, _⟩] (fun _ there => nothing there) (fun _ there => there) rfl
        fun a new type same => ?_
      obtain rfl := List.mem_singleton.mp new
      cases same
    · refine .told [⟨maker, _⟩] (fun _ there => nothing there) (fun _ there => there) rfl
        fun a new type same => ?_
      obtain rfl := List.mem_singleton.mp new
      cases same

theorem put_leads (orderly : s.Orderly) (caller : Nat) (type : MessageType) :
    Leads s (s.handsBack (.put caller type)) (s.put caller type) := by
  cases there : s.stored with
  | some found =>
    simp only [put, handsBack, there, Option.isNone_some, Bool.false_and, Bool.false_eq_true, if_false]
    exact answer_leads orderly there caller
  | none =>
    cases making : s.maker with
    | some maker =>
      simp only [put, handsBack, there, making, Option.isNone_none, Option.isSome_some, Bool.and_self,
        if_true]
      exact ⟨orderly, fun _ old => old, [⟨caller, .ok type⟩], rfl, fun _ given => given,
        fun _ new _ _ => .inr new⟩
    | none =>
      simp only [put, handsBack, there, making, Option.isSome_none, Bool.and_false, Bool.false_eq_true,
        if_false]
      refine .told [⟨caller, .ok type⟩] (fun _ _ => rfl) (fun _ old => ?_) rfl
        fun a new found same => ?_
      · cases there.symm.trans old
      · obtain rfl := List.mem_singleton.mp new
        exact congrArg some (Except.ok.inj same)

theorem look_leads (orderly : s.Orderly) (caller : Nat) : Leads s [] (s.look caller) := by
  unfold look
  split
  · rename_i found there
    exact answer_leads orderly there caller
  · exact .silent orderly rfl rfl

theorem step_leads (orderly : s.Orderly) (move : Move) :
    Leads s (s.handsBack move) (s.step move) := by
  cases move with
  | ask caller => exact ask_leads orderly caller
  | finish outcome => exact finish_leads orderly outcome
  | put caller type => exact put_leads orderly caller type
  | look caller => exact look_leads orderly caller

/-! ### Runs -/

/-- What a run has come to: its successful answers are the stored type, apart from what was handed
back. -/
structure Account (moves : List Move) (s : Slot) : Prop where
  orderly : s.Orderly
  answers : ∀ a ∈ s.answers, ∀ type, a.outcome = .ok type →
    s.stored = some type ∨ a ∈ handedBack {} moves
  handed : handedBack {} moves ⊆ s.answers

theorem handedBack_snoc (s : Slot) (moves : List Move) (move : Move) :
    s.handedBack (moves ++ [move]) = s.handedBack moves ++ (s.run moves).handsBack move :=
  history_snoc s moves move

theorem Account.step {moves : List Move} (account : Account moves (run {} moves)) (move : Move) :
    Account (moves ++ [move]) ((run {} moves).step move) := by
  have leads := step_leads account.orderly move
  obtain ⟨new, answers, given, stored⟩ := leads.answers
  have all := handedBack_snoc {} moves move
  refine ⟨leads.orderly, fun a member type same => ?_, fun a member => ?_⟩
  · rw [answers] at member
    rw [all]
    rcases List.mem_append.mp member with old | fresh
    · rcases account.answers a old type same with there | back
      · exact .inl (leads.keeps type there)
      · exact .inr (List.mem_append_left _ back)
    · rcases stored a fresh type same with there | back
      · exact .inl there
      · exact .inr (List.mem_append_right _ back)
  · rw [all] at member
    rw [answers]
    rcases List.mem_append.mp member with old | fresh
    · exact List.mem_append_left _ (account.handed old)
    · exact List.mem_append_right _ (given fresh)

theorem run_account (moves : List Move) : Account moves (run {} moves) := by
  have start : Account [] {} := ⟨nofun, nofun, List.nil_subset _⟩
  exact run_induction start (fun _ move account => account.step move) moves

theorem run_keeps (orderly : s.Orderly) (there : s.stored = some type) (moves : List Move) :
    (s.run moves).stored = some type := by
  induction moves generalizing s with
  | nil => exact there
  | cons move moves ih =>
    have leads := step_leads orderly move
    exact ih leads.orderly (leads.keeps type there)

theorem step_empty (empty : s.stored = none) {move : Move} (unmade : ∀ type, move ≠ .finish (.ok type))
    (unput : ∀ caller type, move ≠ .put caller type) : (s.step move).stored = none := by
  cases move with
  | ask caller =>
    show (s.ask caller).stored = none
    unfold ask
    split <;> exact empty
  | finish outcome =>
    cases outcome with
    | ok type => exact (unmade type rfl).elim
    | error e =>
      show (s.finish (.error e)).stored = none
      unfold finish
      split
      · exact empty
      · split <;> first | exact empty | cases ‹Except.error e = .ok _›
  | put caller type => exact (unput caller type rfl).elim
  | look caller =>
    show (s.look caller).stored = none
    unfold look
    split <;> exact empty

theorem run_empty (empty : s.stored = none) {moves : List Move}
    (unmade : ∀ type, .finish (.ok type) ∉ moves) (unput : ∀ caller type, .put caller type ∉ moves) :
    (s.run moves).stored = none := by
  induction moves generalizing s with
  | nil => exact empty
  | cons move moves ih =>
    refine ih (step_empty empty (fun type same => ?_) (fun caller type same => ?_))
      (fun type later => unmade type (.tail _ later))
      (fun caller type later => unput caller type (.tail _ later))
    · exact unmade type (same ▸ .head moves)
    · exact unput caller type (same ▸ .head moves)

/-- In a run from the empty slot all that callers have got is the stored type exactly if all that was
handed back is. A stored type stays, and none is stored that was not made or put in. -/
theorem answers_stored_iff (moves : List Move) :
    ((∀ a ∈ (run {} moves).answers, ∀ type, a.outcome = .ok type →
        (run {} moves).stored = some type) ↔
      ∀ a ∈ handedBack {} moves, ∀ type, a.outcome = .ok type → (run {} moves).stored = some type) ∧
    (∀ type, (run {} moves).stored = some type →
      ∀ later, ((run {} moves).run later).stored = some type) ∧
    ((∀ type, .finish (.ok type) ∉ moves) → (∀ caller type, .put caller type ∉ moves) →
      (run {} moves).stored = none) := by
  have account := run_account moves
  refine ⟨⟨fun all a back type same => ?_, fun all a member type same => ?_⟩, ?_, run_empty rfl⟩
  · exact all a (account.handed back) type same
  · rcases account.answers a member type same with there | back
    · exact there
    · exact all a back type same
  · exact fun type there later => run_keeps account.orderly there later

/-- A caller gets back what it puts in while another one makes the type, which is stored then. -/
theorem put_in_vain :
    let made : MessageType := ⟨"pkg/Slow", some "pkg", "Slow", "made", "", []⟩
    let other : MessageType := ⟨"pkg/Slow", some "pkg", "Slow", "other", "", []⟩
    let s := run {} [.ask 0, .put 1 other, .finish (.ok made)]
    ⟨1, .ok other⟩ ∈ s.answers ∧ s.stored = some made ∧ made.digest ≠ other.digest :=
  ⟨.head _, rfl, by decide⟩

end TopicWire.Slot

import TopicWire.Proofs.History
import TopicWire.Proofs.Session.Queue
import TopicWire.Session.Mailbox

/-!
# No wake-up is lost

A reader looks into the queue and goes to sleep in two moves, and what comes in between is announced
by a wake-up of its own. `Mailbox.Alert` is kept by every move: a reader that sleeps or is going to sleep
while there is something to hand out has a wake-up on its way. The moves that are left then come to an
end (`Mailbox.work_step`), so a pop that is not given up is answered (`Mailbox.wakes_reader`).
-/

namespace TopicWire

/-- The reader has found nothing and has not looked again. -/
def Reader.parks : Reader → Bool
  | .idle => false
  | .looking => false
  | .settling => true
  | .waiting => true
  | .woken => true

/-- How many moves the reader has left at most, if nothing else happens. -/
def Reader.stepsLeft : Reader → Nat
  | .idle => 0
  | .waiting => 0
  | .settling => 1
  | .looking => 2
  | .woken => 3

namespace Mailbox

/-- There is a frame to hand out, or the end of the queue. -/
def Available (m : Mailbox) : Prop :=
  m.queue.closed = true ∨ m.queue.frames ≠ []

/-- The reader will not sleep on: it has been woken, or a wake-up is due or kept for it. A permit is of
no use to a reader that is asleep already. -/
def WakePending (m : Mailbox) : Prop :=
  match m.reader with
  | .settling => m.permit = true ∨ 0 < m.due
  | .waiting => 0 < m.due
  | .woken => True
  | _ => False

/-- Nobody sleeps on something that could be handed out. -/
def Alert (m : Mailbox) : Prop :=
  m.reader.parks = true → m.Available → m.WakePending

variable {m : Mailbox} {frame : Bytes}

/-! ### The moves -/

theorem step_push_closed (closed : m.queue.closed = true) : m.step (.push frame) = m := by
  simp only [step, SendQueue.push_closed closed, if_true]

theorem step_push (opened : m.queue.closed = false) :
    m.step (.push frame) = { m with queue := (m.queue.push frame).2, due := m.due + 1 } := by
  have accepted : (m.queue.push frame).1 ≠ .closed := by
    rcases m.queue.push_cases frame with ⟨closed, -⟩ | ⟨-, -, eq, -⟩ | ⟨-, -, -, eq, -⟩ | ⟨-, -, -, eq, -⟩
    · rw [opened] at closed
      cases closed
    all_goals rw [eq]; exact Push.noConfusion
  simp only [step, if_neg accepted]

theorem available_push (opened : m.queue.closed = false) : (m.step (.push frame)).Available := by
  rw [step_push opened]
  rcases m.queue.push_cases frame with ⟨closed, -⟩ | ⟨-, -, eq, -⟩ | ⟨-, -, -, eq, -⟩ | ⟨-, -, -, eq, -⟩
  · rw [opened] at closed
    cases closed
  · exact .inr (by simp [eq])
  · exact .inr (by simp [eq])
  · exact .inl (by rw [eq])

/-- What a look finds: something, and the pop is over, or nothing at all. -/
theorem look_cases (m : Mailbox) :
    (m.Available ∧ m.look.1 ≠ .nothing ∧ m.look.2.reader = .idle) ∨
      (¬ m.Available ∧ m.look = (.nothing, { m with reader := .settling })) := by
  unfold look
  rcases m.queue.pop_cases with ⟨closed, eq, -⟩ | ⟨opened, none, eq, -⟩ | ⟨f, rest, -, first, eq, -⟩ <;>
    simp only [eq]
  · exact .inl ⟨.inl closed, Popped.noConfusion, rfl⟩
  · refine .inr ⟨?_, rfl⟩
    rintro (closed | some)
    · rw [opened] at closed
      cases closed
    · exact some none
  · exact .inl ⟨.inr (by rw [first]; exact List.cons_ne_nil f rest), Popped.noConfusion, rfl⟩

theorem step_look (looking : m.reader = .looking) : m.step .look = m.look.2 := if_pos looking

theorem step_settle (settling : m.reader = .settling) : m.step .settle =
    if m.permit then { m with permit := false, reader := .looking } else { m with reader := .waiting } :=
  if_pos settling

theorem step_resume (woken : m.reader = .woken) : m.step .resume = { m with reader := .looking } :=
  if_pos woken

theorem step_wake_waiting (due : 0 < m.due) (waiting : m.reader = .waiting) :
    m.step .wake = { m with reader := .woken, due := m.due - 1 } := by
  simp only [step, if_pos due, notify, if_pos waiting]

theorem step_wake_other (due : 0 < m.due) (up : m.reader ≠ .waiting) :
    m.step .wake = { m with permit := true, due := m.due - 1 } := by
  simp only [step, if_pos due, notify, if_neg up]

theorem reader_cancel (m : Mailbox) : (m.step .cancel).reader = .idle := by
  simp only [step]
  split <;> rfl

/-! ### A wake-up is on its way -/

theorem alert_of_up (up : m.reader.parks = false) : m.Alert := by
  intro parks
  rw [up] at parks
  cases parks

/-- A wake-up that is due reaches a reader wherever it stands. -/
theorem alert_of_due (due : 0 < m.due) : m.Alert := by
  intro parks _
  unfold WakePending
  split
  · exact .inr due
  · exact due
  · trivial
  · rename_i settling waiting woken
    cases reader : m.reader with
    | idle => rw [reader] at parks; cases parks
    | looking => rw [reader] at parks; cases parks
    | settling => exact settling reader
    | waiting => exact waiting reader
    | woken => exact woken reader

theorem Alert.wake (alert : m.Alert) : (m.step .wake).Alert := by
  by_cases due : 0 < m.due
  · by_cases waiting : m.reader = .waiting
    · rw [step_wake_waiting due waiting]
      exact fun _ _ => trivial
    · rw [step_wake_other due waiting]
      intro parks _
      cases reader : m.reader with
      | settling => exact .inl rfl
      | woken => trivial
      | waiting => exact absurd reader waiting
      | _ => simp only [reader] at parks; cases parks
  · rwa [show m.step .wake = m from if_neg due]

theorem Alert.settle (alert : m.Alert) : (m.step .settle).Alert := by
  by_cases settling : m.reader = .settling
  · rw [step_settle settling]
    split
    · exact alert_of_up rfl
    · -- Without a permit the wake-up that the reader could hope for is due, and finds it asleep.
      rename_i unpermitted
      intro _ available
      have pending := alert (by rw [settling]; rfl) available
      simp only [WakePending, settling] at pending
      exact pending.resolve_left unpermitted
  · rwa [show m.step .settle = m from if_neg settling]

theorem Alert.step (alert : m.Alert) (move : Move) : (m.step move).Alert := by
  cases move with
  | push frame =>
    cases closed : m.queue.closed with
    | true => rwa [step_push_closed closed]
    | false =>
      rw [step_push closed]
      exact alert_of_due (Nat.succ_pos m.due)
  | close => exact alert_of_due (Nat.succ_pos m.due)
  | wake => exact alert.wake
  | ask =>
    by_cases idle : m.reader = .idle
    · rw [show m.step .ask = { m with reader := .looking } from if_pos idle]
      exact alert_of_up rfl
    · rwa [show m.step .ask = m from if_neg idle]
  | look =>
    by_cases looking : m.reader = .looking
    · rw [step_look looking]
      rcases m.look_cases with ⟨-, -, idle⟩ | ⟨nothing, eq⟩
      · exact alert_of_up (by rw [idle]; rfl)
      · rw [eq]
        exact fun _ available => absurd available nothing
    · rwa [show m.step .look = m from if_neg looking]
  | settle => exact alert.settle
  | resume =>
    by_cases woken : m.reader = .woken
    · rw [step_resume woken]
      exact alert_of_up rfl
    · rwa [show m.step .resume = m from if_neg woken]
  | cancel => exact alert_of_up (by rw [reader_cancel]; rfl)

theorem alert_run (capacity : Nat) (policy : OverflowPolicy) (moves : List Move) :
    (({ queue := .new capacity policy } : Mailbox).run moves).Alert :=
  run_induction (motive := fun _ (m : Mailbox) => m.Alert) (alert_of_up rfl)
    (fun _ move held => held.step move) moves

/-! ### A pop comes to its end -/

/-- A move that was begun already: a wake-up that is due, or the next move of the reader. -/
def Move.isOwn : Move → Bool
  | .wake => true
  | .look => true
  | .settle => true
  | .resume => true
  | _ => false

/-- Nothing that was begun is left to do. -/
def AtRest (m : Mailbox) : Prop :=
  ∀ move : Move, move.isOwn = true → m.step move = m

/-- A bound on the moves that are left. A wake-up makes a reader look again, and so does a permit. -/
def work (m : Mailbox) : Nat :=
  4 * m.due + (if m.permit then 2 else 0) + m.reader.stepsLeft

def answers (m : Mailbox) : Move → List Popped
  | .look => if m.reader = .looking ∧ m.look.1 ≠ .nothing then [m.look.1] else []
  | _ => []

def answersIn (m : Mailbox) (moves : List Move) : List Popped :=
  history step answers m moves

theorem work_wake (m : Mailbox) : m.step .wake = m ∨ (m.step .wake).work < m.work := by
  by_cases due : 0 < m.due
  · refine .inr ?_
    by_cases waiting : m.reader = .waiting
    · rw [step_wake_waiting due waiting]
      simp only [work, waiting, Reader.stepsLeft]
      omega
    · rw [step_wake_other due waiting]
      simp only [work, if_true]
      omega
  · exact .inl (if_neg due)

theorem work_look (m : Mailbox) : m.step .look = m ∨ (m.step .look).work < m.work := by
  by_cases looking : m.reader = .looking
  · refine .inr ?_
    have less : m.look.2.reader.stepsLeft < m.reader.stepsLeft := by
      rw [looking]
      rcases m.look_cases with ⟨-, -, idle⟩ | ⟨-, eq⟩
      · rw [idle]
        decide
      · rw [eq]
        exact Nat.lt_succ_self 1
    have others : m.look.2.due = m.due ∧ m.look.2.permit = m.permit := ⟨rfl, rfl⟩
    rw [step_look looking, work, work, others.1, others.2]
    omega
  · exact .inl (if_neg looking)

theorem work_settle (m : Mailbox) : m.step .settle = m ∨ (m.step .settle).work < m.work := by
  by_cases settling : m.reader = .settling
  · refine .inr ?_
    rw [step_settle settling]
    cases permit : m.permit <;> simp [work, settling, permit, Reader.stepsLeft]
  · exact .inl (if_neg settling)

theorem work_step (m : Mailbox) {move : Move} (own : move.isOwn = true) :
    m.step move = m ∨ (m.step move).work < m.work := by
  cases move with
  | wake => exact m.work_wake
  | look => exact m.work_look
  | settle => exact m.work_settle
  | resume =>
    by_cases woken : m.reader = .woken
    · rw [step_resume woken]
      refine .inr ?_
      simp only [work, woken, Reader.stepsLeft]
      omega
    · exact .inl (if_neg woken)
  | _ => cases own

/-- At rest nobody asks, or the reader is asleep and no wake-up is due. -/
theorem AtRest.cases (rest : m.AtRest) : m.reader = .idle ∨ m.reader = .waiting ∧ m.due = 0 := by
  cases reader : m.reader with
  | idle => exact .inl rfl
  | looking =>
    have still := congrArg Mailbox.reader (rest .look rfl)
    rw [step_look reader, reader] at still
    rcases m.look_cases with ⟨-, -, idle⟩ | ⟨-, eq⟩
    · rw [idle] at still
      cases still
    · rw [eq] at still
      cases still
  | settling =>
    have still := congrArg Mailbox.reader (rest .settle rfl)
    rw [step_settle reader, reader] at still
    split at still <;> cases still
  | waiting =>
    refine .inr ⟨rfl, Nat.eq_zero_of_not_pos fun due => ?_⟩
    have still := congrArg Mailbox.reader (rest .wake rfl)
    rw [step_wake_waiting due reader, reader] at still
    cases still
  | woken =>
    have still := congrArg Mailbox.reader (rest .resume rfl)
    rw [step_resume reader, reader] at still
    cases still

/-- A pop that could be answered and is not given up goes on until it is answered, and what could be
handed out stays. -/
theorem asks_step (asks : m.reader ≠ .idle) (available : m.Available) {move : Move}
    (kept : move ≠ .cancel) (unanswered : m.answers move = []) :
    (m.step move).reader ≠ .idle ∧ (m.step move).Available := by
  cases move with
  | push frame =>
    cases closed : m.queue.closed with
    | true =>
      rw [step_push_closed closed]
      exact ⟨asks, available⟩
    | false =>
      refine ⟨?_, available_push closed⟩
      rw [step_push closed]
      exact asks
  | close => exact ⟨asks, .inl rfl⟩
  | wake =>
    by_cases due : 0 < m.due
    · by_cases waiting : m.reader = .waiting
      · rw [step_wake_waiting due waiting]
        exact ⟨Reader.noConfusion, available⟩
      · rw [step_wake_other due waiting]
        exact ⟨asks, available⟩
    · rw [show m.step .wake = m from if_neg due]
      exact ⟨asks, available⟩
  | ask =>
    rw [show m.step .ask = m from if_neg asks]
    exact ⟨asks, available⟩
  | look =>
    by_cases looking : m.reader = .looking
    · rcases m.look_cases with ⟨-, found, -⟩ | ⟨nothing, -⟩
      · rw [answers, if_pos ⟨looking, found⟩] at unanswered
        cases unanswered
      · exact absurd available nothing
    · rw [show m.step .look = m from if_neg looking]
      exact ⟨asks, available⟩
  | settle =>
    by_cases settling : m.reader = .settling
    · rw [step_settle settling]
      split <;> exact ⟨Reader.noConfusion, available⟩
    · rw [show m.step .settle = m from if_neg settling]
      exact ⟨asks, available⟩
  | resume =>
    by_cases woken : m.reader = .woken
    · rw [step_resume woken]
      exact ⟨Reader.noConfusion, available⟩
    · rw [show m.step .resume = m from if_neg woken]
      exact ⟨asks, available⟩
  | cancel => exact absurd rfl kept

theorem asks_run (asks : m.reader ≠ .idle) (available : m.Available) {moves : List Move}
    (kept : Move.cancel ∉ moves) (unanswered : m.answersIn moves = []) :
    (m.run moves).reader ≠ .idle ∧ (m.run moves).Available := by
  induction moves generalizing m with
  | nil => exact ⟨asks, available⟩
  | cons move moves ih =>
    rw [answersIn, history] at unanswered
    obtain ⟨now, later⟩ := List.append_eq_nil_iff.mp unanswered
    have first : move ≠ .cancel := fun same => kept (same ▸ List.mem_cons_self)
    obtain ⟨asks, available⟩ := asks_step asks available first now
    exact ih asks available (fun there => kept (List.mem_cons_of_mem _ there)) later

/-- Whatever was pushed, closed, asked for and given up before: a reader that sleeps or is going to sleep
while there is something to hand out has a wake-up on its way; the moves that are left are finitely many;
and a pop that could be answered and is not given up has been answered when nothing is left to do,
whatever is pushed and closed meanwhile. -/
theorem wakes_reader (capacity : Nat) (policy : OverflowPolicy) (moves : List Move) :
    let m := ({ queue := .new capacity policy } : Mailbox).run moves
    (m.reader.parks = true → m.Available → m.WakePending) ∧
    (∀ move : Move, move.isOwn = true → m.step move = m ∨ (m.step move).work < m.work) ∧
    (m.reader ≠ .idle → m.Available → ∀ more : List Move, .cancel ∉ more → (m.run more).AtRest →
      m.answersIn more ≠ []) := by
  intro m
  refine ⟨alert_run capacity policy moves, fun _ own => m.work_step own, ?_⟩
  intro asks available more kept rest unanswered
  obtain ⟨asking, waits⟩ := asks_run asks available kept unanswered
  have alert : (m.run more).Alert := by
    have all := alert_run capacity policy (moves ++ more)
    rwa [run, List.foldl_append] at all
  obtain ⟨asleep, none⟩ := rest.cases.resolve_left asking
  have pending := alert (by rw [asleep]; rfl) waits
  rw [WakePending, asleep, none] at pending
  exact Nat.lt_irrefl 0 pending

/-- A frame that is pushed between the look and the sleep of the reader wakes it, although a permit from
before had been used up by then. -/
example :
    let m := ({ queue := .new 1 .dropOldest } : Mailbox).run [.push [7], .wake, .ask, .look, .ask, .look]
    (m.reader, m.permit) = (.settling, true) ∧
      m.answersIn [.settle, .look, .push [8], .settle, .wake, .resume, .look] = [.frame [8]] := by
  decide

end Mailbox

end TopicWire

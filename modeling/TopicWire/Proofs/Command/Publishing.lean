import TopicWire.Command.Publish
import TopicWire.Proofs.Session.FanOut
import TopicWire.Proofs.Session.Publication
import TopicWire.Proofs.Session.Withdrawing

/-!
# How often a message is published

While a message is published, ticks, events and the moves of others come in any order
(`Publishing.during`). What one step does is said once (`Publishing.Happens`); from it follows that a run
has published the message once for each tick until the count was reached (`Publishing.Fresh.counts`).
Around it the publisher is created and shut down, which leaves the other publishers and the sessions of the
node as they were (`Node.publishes_exactly`).
-/

namespace TopicWire

namespace Publisher

variable {p q : Publisher} {m : Message} {move : Move}

theorem sends_of_quiet (p : Publisher) (quiet : move.isQuiet = true) : p.sends move = [] := by
  cases move with
  | publish m => cases quiet
  | _ => rfl

/-- Whether a message can be published depends on the phase and the type alone. -/
theorem frameOf_congr (phase : q.phase = p.phase) (type : q.type = p.type) (m : Message) :
    q.frameOf m = p.frameOf m := by
  rw [frameOf, frameOf, phase, type]

theorem frameOf_step (p : Publisher) (aside : move.turns = false) (m : Message) :
    (p.step move).frameOf m = p.frameOf m :=
  frameOf_congr (p.step_openAlike aside).phase (p.step_alike move).2.2.1 m

/-- A message that cannot be sent changes nothing. -/
theorem step_publish_of_error {e : SessionError} (failed : p.frameOf m = .error e) :
    p.step (.publish m) = p := by
  rw [step, publish, failed]

theorem publish_isServing (m : Message) : (Move.publish m).isServing = true :=
  rfl

/-- A move that others make while a message is published. -/
def Move.isBackground : Move → Bool
  | .take .. => true
  | .register _ => true
  | .failToAccept .. => true
  | .stop _ => true
  | .arrive .. => true
  | .hangUp _ => true
  | .link .. => true
  | _ => false

end Publisher

/-! ### Steps -/

/-- What happens next while a message is published. -/
inductive PublishStep where
  | turn (turn : PublishTurn)
  /-- Others come, say something or leave, or a link moves on. -/
  | meanwhile (move : Publisher.Move) (background : move.isBackground = true)

namespace PublishStep

def isTick : PublishStep → Bool
  | .turn .tick => true
  | _ => false

def isStop : PublishStep → Bool
  | .turn .stop => true
  | _ => false

end PublishStep

namespace Publishing

variable {p start : Publishing} {step : PublishStep} {steps : List PublishStep}

def happen (p : Publishing) : PublishStep → Publishing
  | .turn turn => p.turn turn
  | .meanwhile move _ => { p with publisher := p.publisher.step move }

def during (p : Publishing) (steps : List PublishStep) : Publishing :=
  steps.foldl happen p

def moves (p : Publishing) : PublishStep → List Publisher.Move
  | .turn .tick => if p.finished then [] else [.publish p.message]
  | .turn .event => if p.finished then [] else [.receive]
  | .turn .stop => []
  | .meanwhile move _ => [move]

def movesIn (p : Publishing) (steps : List PublishStep) : List Publisher.Move :=
  history happen moves p steps

/-- What one step can do, with the moves that the publisher makes. -/
inductive Happens (p : Publishing) : PublishStep → List Publisher.Move → Publishing → Prop
  /-- The program is no longer there for its turns. -/
  | rests {turn} (finished : p.finished = true) : Happens p (.turn turn) [] p
  | stops (running : p.finished = false) : Happens p (.turn .stop) [] { p with finished := true }
  | moves {step move} (aside : move.turns = false) (quiet : move.isQuiet = true)
      (serving : move.isServing = true) (tick : step.isTick = false) (stop : step.isStop = false) :
      Happens p step [move] { p with publisher := p.publisher.step move }
  | publishes {frame} (running : p.finished = false) (made : p.publisher.frameOf p.message = .ok frame) :
      Happens p (.turn .tick) [.publish p.message]
        { p with
          publisher := p.publisher.step (.publish p.message)
          published := p.published + 1
          finished := (p.count.map fun n => decide (n ≤ p.published + 1)).getD false }
  | fails {e} (running : p.finished = false) (failed : p.publisher.frameOf p.message = .error e) :
      Happens p (.turn .tick) [.publish p.message] { p with finished := true, failure := some e }

theorem happens (p : Publishing) (step : PublishStep) :
    p.Happens step (p.moves step) (p.happen step) := by
  cases step with
  | meanwhile move background =>
    cases move <;> first | exact .moves rfl rfl rfl rfl rfl | cases background
  | turn turn =>
    rw [happen, Publishing.turn.eq_def]
    by_cases finished : p.finished = true
    · rw [if_pos finished]
      cases turn <;> simp only [moves, if_pos finished] <;> exact .rests finished
    rw [if_neg finished]
    have running : p.finished = false := Bool.not_eq_true _ ▸ finished
    cases turn with
    | stop => exact .stops running
    | event =>
      have heard : p.Happens (.turn .event) [.receive]
          { p with publisher := p.publisher.step .receive } := .moves rfl rfl rfl rfl rfl
      simpa [moves, running] using heard
    | tick =>
      cases made : p.publisher.frameOf p.message with
      | error e =>
        have failed := Happens.fails running made
        simpa [moves, running, Publisher.publish, made] using failed
      | ok frame =>
        have published := Happens.publishes running made
        simpa [moves, running, Publisher.publish, Publisher.step, made] using published

/-! ### Runs -/

/-- Nothing has been published yet. -/
structure Fresh (p : Publishing) : Prop where
  published : p.published = 0
  running : p.finished = false
  whole : p.failure = none

/-- What is kept while a message is published: the publisher has made these moves, and with them has sent
the message as often as counted. If the message cannot be sent nothing has been published. -/
structure Keeps (start : Publishing) (moves : List Publisher.Move) (p : Publishing) : Prop where
  message : p.message = start.message
  count : p.count = start.count
  frame : p.publisher.frameOf start.message = start.publisher.frameOf start.message
  publisher : p.publisher = start.publisher.run moves
  serving : ∀ move ∈ moves, move.isServing = true
  sent : start.publisher.sentIn moves = List.replicate p.published start.message
  unsent : ∀ e, start.publisher.frameOf start.message = .error e → start.publisher.Quiet p.publisher
  failed : ∀ e, p.failure = some e → start.publisher.frameOf start.message = .error e

theorem Fresh.keeps (fresh : start.Fresh) : start.Keeps [] start where
  message := rfl
  count := rfl
  frame := rfl
  publisher := rfl
  serving := List.forall_mem_nil _
  sent := by
    rw [fresh.published]
    rfl
  unsent _ _ := .refl _
  failed e failed := by
    rw [fresh.whole] at failed
    cases failed

theorem Keeps.snoc {moves : List Publisher.Move} {move : Publisher.Move} (keeps : start.Keeps moves p)
    (serving : move.isServing = true) :
    p.publisher.step move = start.publisher.run (moves ++ [move]) ∧
      (∀ other ∈ moves ++ [move], other.isServing = true) ∧
      start.publisher.sentIn (moves ++ [move]) =
        List.replicate p.published start.message ++ p.publisher.sends move := by
  refine ⟨?_, List.forall_mem_append.mpr ⟨keeps.serving, List.forall_mem_singleton.mpr serving⟩, ?_⟩
  · rw [keeps.publisher, Publisher.run, Publisher.run, List.foldl_append]
    rfl
  · rw [Publisher.sentIn_snoc, keeps.sent, ← keeps.publisher]

theorem Keeps.happens {moves more : List Publisher.Move} {q : Publishing} (keeps : start.Keeps moves p)
    (happens : p.Happens step more q) : start.Keeps (moves ++ more) q := by
  cases happens with
  | rests => rwa [List.append_nil]
  | stops => exact (List.append_nil moves).symm ▸ { keeps with }
  | @moves step move aside quiet serving =>
    obtain ⟨publisher, serving, sent⟩ := keeps.snoc serving
    rw [Publisher.sends_of_quiet _ quiet, List.append_nil] at sent
    refine { keeps with frame := ?_, publisher, serving, sent, unsent := fun e failed => ?_ }
    · rw [Publisher.frameOf_step _ aside, keeps.frame]
    · exact (keeps.unsent e failed).trans (.of_move _ quiet)
  | publishes running made =>
    obtain ⟨publisher, serving, sent⟩ := keeps.snoc (Publisher.publish_isServing p.message)
    have one : p.publisher.sends (.publish p.message) = [start.message] := by
      rw [Publisher.sends, made, keeps.message]
      rfl
    rw [one, ← List.replicate_succ'] at sent
    refine { keeps with frame := ?_, publisher, serving, sent, unsent := fun e failed => ?_ }
    · rw [Publisher.frameOf_step _ rfl, keeps.frame]
    · rw [← keeps.frame, ← keeps.message, made] at failed
      cases failed
  | fails running failed =>
    obtain ⟨publisher, serving, sent⟩ := keeps.snoc (Publisher.publish_isServing p.message)
    have none : p.publisher.sends (.publish p.message) = [] := by
      rw [Publisher.sends, failed]
      rfl
    rw [none, List.append_nil] at sent
    rw [Publisher.step_publish_of_error failed] at publisher
    refine { keeps with publisher, serving, sent, failed := fun e' same => ?_ }
    obtain rfl := Option.some.inj same
    rw [← keeps.frame, ← keeps.message, failed]

theorem Fresh.keeps_during (fresh : start.Fresh) (steps : List PublishStep) :
    start.Keeps (start.movesIn steps) (start.during steps) := by
  refine run_induction (motive := fun steps p => start.Keeps (start.movesIn steps) p) fresh.keeps
    (fun steps step keeps => ?_) steps
  rw [movesIn, history_snoc]
  exact keeps.happens (happens _ step)

/-- What each step keeps while ticks are counted holds after a run without a stop. -/
theorem Fresh.ticks_induction {motive : Nat → Publishing → Prop} (fresh : start.Fresh)
    (before : motive 0 start)
    (keeps : ∀ {ticks step moves more p q}, start.Keeps moves p → p.Happens step more q →
      step.isStop = false → motive ticks p → motive (ticks + if step.isTick then 1 else 0) q)
    (running : ∀ step ∈ steps, step.isStop = false) :
    motive (steps.countP (·.isTick)) (start.during steps) := by
  induction steps using List.reverseRecOn with
  | nil => exact before
  | append_singleton steps step ih =>
    obtain ⟨earlier, now⟩ := List.forall_mem_append.mp running
    rw [List.countP_append, List.countP_singleton, during, List.foldl_append]
    exact keeps (fresh.keeps_during steps) ((start.during steps).happens step)
      (now step (List.mem_singleton_self step)) (ih earlier)

/-- The message has been published with each tick until the count was reached, at least once. -/
structure Counts (count ticks : Nat) (p : Publishing) : Prop where
  published : p.published = min ticks (max count 1)
  finished : p.finished = decide (max count 1 ≤ ticks)
  whole : p.failure = none

theorem Counts.happens {count ticks : Nat} {frame : Bytes} {more : List Publisher.Move} {q : Publishing}
    (counts : p.Counts count ticks) (asked : p.count = some count)
    (made : p.publisher.frameOf p.message = .ok frame) (happens : p.Happens step more q)
    (running : step.isStop = false) :
    q.Counts count (ticks + if step.isTick then 1 else 0) := by
  obtain ⟨published, finished, whole⟩ := counts
  cases happens with
  | @rests turn done =>
    -- All ticks that count have come before.
    have reached : max count 1 ≤ ticks := of_decide_eq_true (finished.symm.trans done)
    have still := Nat.le_add_right_of_le (k := if (PublishStep.turn turn).isTick then 1 else 0) reached
    refine ⟨published.trans ?_, done.trans (decide_eq_true still).symm, whole⟩
    rw [Nat.min_eq_right reached, Nat.min_eq_right still]
  | stops => cases running
  | moves aside quiet serving tick stop =>
    rw [tick, if_neg Bool.false_ne_true, Nat.add_zero]
    exact ⟨published, finished, whole⟩
  | publishes going sent =>
    have short : ¬ max count 1 ≤ ticks := of_decide_eq_false (finished.symm.trans going)
    have now : p.published = ticks := published.trans (Nat.min_eq_left (by omega))
    refine ⟨?_, ?_, whole⟩
    · show p.published + 1 = min (ticks + 1) (max count 1)
      omega
    · show (p.count.map fun n => decide (n ≤ p.published + 1)).getD false = decide (max count 1 ≤ ticks + 1)
      rw [asked, now]
      exact decide_eq_decide.mpr (by omega)
  | fails going failed =>
    rw [made] at failed
    cases failed

theorem Fresh.counts (fresh : start.Fresh) {frame : Bytes} {count : Nat} (asked : start.count = some count)
    (made : start.publisher.frameOf start.message = .ok frame)
    (running : ∀ step ∈ steps, step.isStop = false) :
    (start.during steps).Counts count (steps.countP (·.isTick)) := by
  refine fresh.ticks_induction ⟨?_, ?_, fresh.whole⟩ (fun keeps happens going counts => ?_) running
  · rw [fresh.published, Nat.zero_min]
  · rw [fresh.running]
    exact (decide_eq_false (by omega)).symm
  · refine counts.happens (keeps.count.trans asked) (.trans ?_ made) happens going
    rw [keeps.message, keeps.frame]

/-- A message that cannot be sent ends the run with the first tick. -/
structure Breaks (e : SessionError) (ticks : Nat) (p : Publishing) : Prop where
  finished : p.finished = decide (0 < ticks)
  failure : p.failure = if 0 < ticks then some e else none

theorem Breaks.happens {e : SessionError} {ticks : Nat} {more : List Publisher.Move} {q : Publishing}
    (breaks : p.Breaks e ticks) (failed : p.publisher.frameOf p.message = .error e)
    (happens : p.Happens step more q)
    (running : step.isStop = false) : q.Breaks e (ticks + if step.isTick then 1 else 0) := by
  obtain ⟨finished, failure⟩ := breaks
  cases happens with
  | @rests turn done =>
    have before : 0 < ticks := of_decide_eq_true (finished.symm.trans done)
    have after := Nat.lt_add_right (if (PublishStep.turn turn).isTick then 1 else 0) before
    rw [if_pos before] at failure
    exact ⟨done.trans (decide_eq_true after).symm, by rw [if_pos after, failure]⟩
  | stops => cases running
  | moves aside quiet serving tick stop =>
    rw [tick, if_neg Bool.false_ne_true, Nat.add_zero]
    exact ⟨finished, failure⟩
  | publishes going made =>
    rw [failed] at made
    cases made
  | fails going again =>
    rw [failed] at again
    exact ⟨rfl, congrArg some (Except.error.inj again).symm⟩

theorem Fresh.breaks (fresh : start.Fresh) {e : SessionError}
    (failed : start.publisher.frameOf start.message = .error e)
    (running : ∀ step ∈ steps, step.isStop = false) :
    (start.during steps).Breaks e (steps.countP (·.isTick)) := by
  refine fresh.ticks_induction ⟨fresh.running, fresh.whole⟩ (fun keeps happens going breaks => ?_) running
  refine breaks.happens (.trans ?_ failed) happens going
  rw [keeps.message, keeps.frame]

end Publishing

/-! ### In a node -/

namespace Node

variable {n n' : Node} {opened : List Opened}

/-! ### The command -/

/-- Everything that a request asks for is there: a period, a type, a port and a message of the type. -/
structure Grants (n : Node) (network : Network) (request : PublishRequest) (type : MessageType)
    (m : Message) : Prop where
  period : ∃ period, request.period = .ok period ∧ period ≠ 0
  loaded : ∃ catalog, n.loader.load request.typeId n.catalog = .ok type catalog
  bound : ∃ endpoint, bindFirstFree (network.bind n.publisherSettings.host) n.publisherSettings.host
    n.publisherSettings.basePort n.publisherSettings.portSearchLimit = .ok endpoint
  message : ∃ json, Json.parse? request.message = some json ∧ type.ofJson json = .ok m

/-- Publishes as a request asks for while others make moves of their own. -/
def publishDuring (n : Node) (network : Network) (request : PublishRequest) (steps : List PublishStep) :
    Except CommandError Nat × Node :=
  match n.beginPublishing network request with
  | (.error e, n) => (.error e, n)
  | (.ok (number, start), n) => n.endPublishing number (start.during steps)

variable {network : Network} {request : PublishRequest} {type : MessageType} {m : Message}

theorem Kept.granted (kept : n.Kept opened) (grants : n.Grants network request type m) :
    ∃ n₁ p, n.beginPublishing network request =
        (.ok (n.publishers.length, { publisher := p, message := m, count := request.count }), n₁) ∧
      n.Advertised opened request.topic request.typeId type n₁ ∧
      n₁.publishers[n.publishers.length]? = some p ∧ p.type = type ∧ p.phase ≠ .closed ∧
      (Publisher.new n.callerId (normalizedName request.topic) type n.publisherSettings).Quiet p := by
  obtain ⟨⟨period, timed, positive⟩, ⟨catalog, loaded⟩, ⟨endpoint, bound⟩, json, parsed, read⟩ := grants
  obtain ⟨n₁, eq, advertised⟩ := kept.advertised request.topic loaded bound
  obtain ⟨p, found, typeEq, going, quiet⟩ := advertised.new
  refine ⟨n₁, p, ?_, advertised, found, typeEq, going, quiet⟩
  simp only [beginPublishing, timed, parsed, eq, found, typeEq, read, if_neg positive]

theorem Kept.refused (kept : n.Kept opened) (lacking : ∀ type m, ¬ n.Grants network request type m) :
    ∃ e n', n.beginPublishing network request = (.error e, n') ∧ n.Leaves n' ∧
      n.CreatesQuiet request.topic n' := by
  have unchanged (e : CommandError) (n' : Node) (eq : n.beginPublishing network request = (.error e, n'))
      (publishers : n'.publishers = n.publishers) (sessions : n'.sessions = n.sessions) :
      ∃ e n', n.beginPublishing network request = (.error e, n') ∧ n.Leaves n' ∧
        n.CreatesQuiet request.topic n' :=
    ⟨e, n', eq, leaves_of_same publishers sessions, createsQuiet_of_same publishers⟩
  cases timed : request.period with
  | error e =>
    refine unchanged e n ?_ rfl rfl
    simp only [beginPublishing, timed]
  | ok period =>
  cases parsed : Json.parse? request.message with
  | none =>
    refine unchanged .json n ?_ rfl rfl
    simp only [beginPublishing, timed, parsed]
  | some json =>
  cases loaded : n.loader.load request.typeId n.catalog with
  | error e catalog =>
    refine unchanged (.session (.schema e)) { n with catalog } ?_ rfl rfl
    simp only [beginPublishing, timed, parsed, Node.advertise, load, loaded]
  | ok type catalog =>
  cases bound : bindFirstFree (network.bind n.publisherSettings.host) n.publisherSettings.host
      n.publisherSettings.basePort n.publisherSettings.portSearchLimit with
  | error e =>
    have start := Publisher.start_new n.callerId (normalizedName request.topic) type n.publisherSettings
      (network.bind n.publisherSettings.host)
    have host : (Publisher.new n.callerId (normalizedName request.topic) type
      n.publisherSettings).settings.host = n.publisherSettings.host := rfl
    dsimp only at start
    rw [bound] at start
    refine unchanged (.session e) { n with catalog } ?_ rfl rfl
    simp only [beginPublishing, timed, parsed, Node.advertise, load, loaded, host, start]
  | ok endpoint =>
  obtain ⟨n₁, eq, advertised⟩ := kept.advertised request.topic loaded bound
  obtain ⟨p, found, typeEq, -, quiet⟩ := advertised.new
  have ends (e : CommandError) (eq : n.beginPublishing network request =
      (.error e, n₁.shutdown n.publishers.length)) :
      ∃ e n', n.beginPublishing network request = (.error e, n') ∧ n.Leaves n' ∧
        n.CreatesQuiet request.topic n' := by
    obtain ⟨left, q, last, quiet'⟩ :=
      advertised.leaves kept (.refl n₁) rfl (.refl n₁) (fun _ _ => rfl) found
    refine ⟨e, _, eq, left, fun q' member => ?_⟩
    rw [last, List.mem_singleton] at member
    exact ⟨type, member ▸ quiet.trans quiet'⟩
  cases read : type.ofJson json with
  | error e =>
    refine ends (.violation e) ?_
    simp only [beginPublishing, timed, parsed, eq, found, typeEq, read]
  | ok m =>
    by_cases positive : period ≠ 0
    · exact absurd ⟨⟨period, timed, positive⟩, ⟨catalog, loaded⟩, ⟨endpoint, bound⟩, json, parsed, read⟩
        (lacking type m)
    · refine ends (.aborted "`period` must be non-zero.") ?_
      simp only [beginPublishing, timed, parsed, eq, found, typeEq, read, if_pos (not_ne_iff.mp positive)]

theorem endPublishing_eq (n : Node) (number : Nat) (done : Publishing) :
    n.endPublishing number done =
      (match done.failure with
        | some e => .error (.session e)
        | none => .ok done.published,
        (n.changePublisher number fun _ => done.publisher).shutdown number) := by
  rw [endPublishing]
  cases done.failure <;> rfl

/-- The end of a command that has begun. -/
theorem Advertised.ends {n₁ : Node} {start done : Publishing} {moves : List Publisher.Move}
    {topic typeId : String} (kept : n.Kept opened) (advertised : n.Advertised opened topic typeId type n₁)
    (found : n₁.publishers[n.publishers.length]? = some start.publisher) (keeps : start.Keeps moves done) :
    n.Leaves (n₁.endPublishing n.publishers.length done).2 ∧
      ∃ q, (n₁.endPublishing n.publishers.length done).2.publishers.drop n.publishers.length = [q] ∧
        done.publisher.Quiet q := by
  have change : (n₁.changePublisher n.publishers.length fun _ => done.publisher) =
      n₁.changePublisher n.publishers.length (·.run moves) := by
    rw [changePublisher, changePublisher, found, keeps.publisher]
  have serves (p : Publisher) : p.Serves (p.run moves) := ⟨moves, rfl, keeps.serving⟩
  have there := getElem?_changePublisher n.publishers.length (·.run moves) found
  rw [if_pos rfl] at there
  have spares : n₁.Spares (· < n.publishers.length) (· < n.subscribers.length)
      (n₁.changePublisher n.publishers.length (·.run moves)) :=
    advertised.kept.wired.spares_unjoined advertised.apart _
  have others (i : Nat) (inside : i < n.publishers.length) :
      (n₁.changePublisher n.publishers.length (·.run moves)).publishers[i]? = n₁.publishers[i]? := by
    rw [changePublisher_publishers, List.getElem?_modify_ne _ _ (Nat.ne_of_gt inside)]
  have left := advertised.leaves kept (.changePublisher serves n₁ _) (routes_changePublisher _ _) spares
    others there
  have out : (n₁.endPublishing n.publishers.length done).2 =
      (n₁.changePublisher n.publishers.length (·.run moves)).shutdown n.publishers.length := by
    rw [endPublishing_eq, change]
  rwa [← out, ← keeps.publisher] at left

/-- A request that was granted: its publisher made the moves of its turns, and then was shut down. -/
structure Carried (n : Node) (network : Network) (request : PublishRequest) (type : MessageType)
    (m : Message) (steps : List PublishStep) (start : Publishing) : Prop where
  begun : (n.beginPublishing network request).1 = .ok (n.publishers.length, start)
  message : start.message = m
  count : start.count = request.count
  fresh : start.Fresh
  quiet : (Publisher.new n.callerId (normalizedName request.topic) type n.publisherSettings).Quiet
    start.publisher
  moved : (start.during steps).publisher = start.publisher.run (start.movesIn steps)
  left : n.Leaves (n.publishDuring network request steps).2
  ended : ∃ q, (n.publishDuring network request steps).2.publishers.drop n.publishers.length = [q] ∧
    (start.during steps).publisher.Quiet q

theorem Kept.carried (kept : n.Kept opened) (grants : n.Grants network request type m)
    (steps : List PublishStep) :
    ∃ start : Publishing, n.Carried network request type m steps start ∧ start.publisher.type = type ∧
      start.publisher.phase ≠ .closed ∧
      (n.publishDuring network request steps).1 = (match (start.during steps).failure with
        | some e => .error (.session e)
        | none => .ok (start.during steps).published) := by
  obtain ⟨n₁, p, eq, advertised, found, typeEq, going, quiet⟩ := kept.granted grants
  let start : Publishing := { publisher := p, message := m, count := request.count }
  have fresh : start.Fresh := ⟨rfl, rfl, rfl⟩
  have keeps := fresh.keeps_during steps
  obtain ⟨left, ended⟩ := advertised.ends kept found keeps
  have out : n.publishDuring network request steps =
      n₁.endPublishing n.publishers.length (start.during steps) := by
    rw [publishDuring, eq]
  rw [← out] at left ended
  exact ⟨start, ⟨by rw [eq], rfl, rfl, fresh, quiet, keeps.publisher, left, ended⟩, typeEq, going,
    by rw [out, endPublishing_eq]⟩

end Node

end TopicWire

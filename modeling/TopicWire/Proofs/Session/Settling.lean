import TopicWire.Proofs.Session.Bookkeeping
import TopicWire.Proofs.Session.Reconnecting

/-!
# Coming to rest

Every move that a link or a connection makes by itself takes from the work that it has left
(`Publisher.work_step`, `Subscriber.work_step`), so the moves that `Publisher.settle` and
`Subscriber.settle` allow are enough: then none is left.
-/

namespace TopicWire

/-! ### Links -/

/-- A bound on the moves that a link has left. -/
def Link.work (l : Link) : Nat :=
  match l.stage with
  | .handshake => 2 * l.queue.frames.length + 9
  | .greeting .. => 2 * l.queue.frames.length + 8
  | .serving [] => 2 * l.queue.frames.length + 6
  | .serving _ => 2 * l.queue.frames.length + 7
  | stage => stage.stepsLeft

theorem Link.work_le (l : Link) : l.work ≤ 2 * l.queue.frames.length + 9 := by
  have left := l.stage.stepsLeft_le
  unfold work
  split <;> omega

theorem Link.work_of_open {l : Link} (opened : l.stage.isOpen = true) :
    2 * l.queue.frames.length + 6 ≤ l.work := by
  unfold work
  split
  · omega
  · omega
  · omega
  · omega
  · rename_i handshake greeting _ serving
    exfalso
    cases stage : l.stage with
    | handshake => exact handshake stage
    | greeting callerId left => exact greeting callerId left stage
    | serving left => exact serving left stage
    | _ => rw [stage] at opened; cases opened

theorem Link.work_of_closed {l : Link} (past : l.stage.isOpen = false) : l.work = l.stage.stepsLeft := by
  unfold work
  split
  · rename_i stage
    rw [stage] at past
    cases past
  · rename_i stage
    rw [stage] at past
    cases past
  · rename_i stage
    rw [stage] at past
    cases past
  · rename_i stage
    rw [stage] at past
    cases past
  · rfl

namespace Publisher

variable {p : Publisher} {l : Link} {id : Nat}

/-- The link has less work left after the move. -/
def Eases (p : Publisher) (l : Link) (move : LinkMove) : Prop :=
  ∃ l', (p.linkStep l move).link? l.id = some l' ∧ l'.work < l.work

theorem eases_end (found : p.link? l.id = some l) {move : LinkMove} (cause : Option SessionError)
    (ends : p.linkStep l move = p.endLink l.id cause) (opened : l.stage.isOpen = true) :
    p.Eases l move := by
  refine ⟨{ l with stage := .ended cause }, ?_, ?_⟩
  · rw [ends]
    exact link?_changed found (by exact fun _ => rfl)
  · have less : ({ l with stage := .ended cause } : Link).work = 5 := rfl
    have work := Link.work_of_open opened
    omega

theorem eases_leave (found : p.link? l.id = some l) (past : l.stage.isOpen = false)
    (unfinished : l.stage ≠ .done) : p.Eases l .leave := by
  obtain ⟨past', fewer⟩ := l.stage_afterLeave p.settings.queueCapacity past
  refine ⟨_, link?_leave found, ?_⟩
  have some : l.stage.stepsLeft ≠ 0 := fun none => unfinished (LinkStage.done_of_stepsLeft past none)
  rw [Link.work_of_closed past, Link.work_of_closed past', fewer]
  omega

theorem eases_readHeader (found : p.link? l.id = some l) (stage : l.stage = .handshake)
    (ready : l.headerReady = true) : p.Eases l .readHeader := by
  have opened : l.stage.isOpen = true := by rw [stage]; rfl
  have step : p.linkStep l .readHeader = p.readHeader l := rfl
  rw [readHeader, if_pos ⟨stage, ready⟩] at step
  cases read : l.header with
  | error e =>
    simp only [read] at step
    exact eases_end found _ step opened
  | ok header =>
    cases agrees : header.agrees p.type.digest with
    | false =>
      simp only [read, agrees, Bool.false_eq_true, if_false] at step
      exact eases_end found _ step opened
    | true =>
      simp only [read, agrees, if_true] at step
      refine ⟨{ l with stage := .greeting header.callerId p.greeting.encode, inbox := [] }, ?_, ?_⟩
      · rw [step]
        exact link?_changed found (by exact fun _ => rfl)
      · simp only [Link.work, stage]
        omega

theorem eases_next (found : p.link? l.id = some l) (stage : l.stage = .serving [])
    (some : l.queue.frames ≠ []) : p.Eases l .next := by
  have opened : l.stage.isOpen = true := by rw [stage]; rfl
  have step : p.linkStep l .next = p.nextFrame l := rfl
  rw [nextFrame, if_pos stage] at step
  rcases l.queue.pop_cases with ⟨-, pop, -⟩ | ⟨-, none, -⟩ | ⟨frame, rest, -, first, pop, -⟩
  · simp only [pop] at step
    exact eases_end found _ step opened
  · exact absurd none some
  · simp only [pop] at step
    refine ⟨{ l with stage := .serving frame, queue := { l.queue with frames := rest } }, ?_, ?_⟩
    · rw [step]
      exact link?_changed found (by exact fun _ => rfl)
    · have fewer : l.queue.frames.length = rest.length + 1 := by rw [first, List.length_cons]
      have bound : ({ l with
          stage := .serving frame, queue := { l.queue with frames := rest } } : Link).work ≤
          2 * rest.length + 7 := by
        cases frame with
        | nil => exact Nat.le_succ _
        | cons b frame => exact Nat.le_refl _
      have work := Link.work_of_open opened
      omega

theorem work_step (found : p.link? l.id = some l) {move : LinkMove} (own : Link.ownMove? l = some move) :
    p.Eases l move := by
  unfold Link.ownMove? at own
  split at own
  · rename_i cut
    obtain rfl := Option.some.inj own
    rw [Bool.and_eq_true] at cut
    exact eases_end found none (by rw [linkStep, if_pos cut]) cut.1
  · cases stage : l.stage with
    | handshake =>
      simp only [stage] at own
      split at own
      · rename_i ready
        obtain rfl := Option.some.inj own
        exact eases_readHeader found stage ready
      · cases own
    | greeting callerId left =>
      simp only [stage] at own
      obtain rfl := Option.some.inj own
      refine ⟨{ l with stage := .serving [], sent := l.sent ++ left.take left.length }, ?_, ?_⟩
      · simp only [linkStep, write, stage, List.drop_length]
        exact link?_changed found (by exact fun _ => rfl)
      · simp only [Link.work, stage]
        omega
    | serving left =>
      cases left with
      | nil =>
        simp only [stage] at own
        split at own
        · rename_i some
          obtain rfl := Option.some.inj own
          exact eases_next found stage (by simpa using some)
        · split at own
          · rename_i ended
            obtain rfl := Option.some.inj own
            have opened : l.stage.isOpen = true := by rw [stage]; rfl
            exact eases_end found none (by rw [linkStep, if_pos ⟨stage, ended⟩]) opened
          · cases own
      | cons b left =>
        simp only [stage] at own
        obtain rfl := Option.some.inj own
        refine ⟨{ l with
            stage := .serving [], sent := l.sent ++ (b :: left).take (b :: left).length }, ?_, ?_⟩
        · simp only [linkStep, write, stage, List.drop_length]
          exact link?_changed found (by exact fun _ => rfl)
        · simp only [Link.work, stage]
          omega
    | done =>
      simp only [stage] at own
      cases own
    | _ =>
      simp only [stage] at own
      obtain rfl := Option.some.inj own
      exact eases_leave found (by rw [stage]; rfl) (by rw [stage]; exact LinkStage.noConfusion)

end Publisher

/-- What a link is when it has come to rest. -/
structure Link.Settles (l l' : Link) : Prop where
  rests : Publisher.Link.ownMove? l' = none
  idle : Publisher.Link.ownMove? l = none → l' = l
  inboxEnded : l'.inboxEnded = l.inboxEnded

namespace Publisher

variable {p : Publisher} {l : Link} {id : Nat}

theorem settleLink_rested {fuel : Nat} (found : p.link? id = some l) (rests : Link.ownMove? l = none) :
    settleLink id fuel p = p := by
  cases fuel with
  | zero => rfl
  | succ fuel => simp only [settleLink, found, Option.bind_some, rests]

theorem settleLink_moves {fuel : Nat} {move : LinkMove} (found : p.link? id = some l)
    (own : Link.ownMove? l = some move) :
    settleLink id (fuel + 1) p = settleLink id fuel (p.step (.link id move)) := by
  simp only [settleLink, found, Option.bind_some, own]

theorem settleLink_settles {fuel : Nat} (found : p.link? id = some l) (enough : l.work < fuel) :
    ∃ l', (settleLink id fuel p).link? id = some l' ∧ l.Settles l' := by
  induction fuel generalizing p l with
  | zero => exact absurd enough (Nat.not_lt_zero _)
  | succ fuel ih =>
    cases own : Link.ownMove? l with
    | none =>
      rw [settleLink_rested found own]
      exact ⟨l, found, own, fun _ => rfl, rfl⟩
    | some move =>
      obtain rfl := id_of_link? found
      obtain ⟨next, there, less⟩ := work_step found own
      have there : (p.step (.link l.id move)).link? l.id = some next := by simpa only [step, found] using there
      obtain ⟨same, again, change⟩ := link?_step found (.link l.id move)
      obtain rfl := Option.some.inj (there.symm.trans again)
      obtain ⟨l', found', settles⟩ := ih there (by omega)
      rw [settleLink_moves found own]
      refine ⟨l', found', settles.rests, fun rests => ?_, settles.inboxEnded.trans ?_⟩
      · rw [own] at rests
        cases rests
      · cases change with
        | left other => rfl
        | own moved => cases moved <;> rfl

theorem settleLink_run (p : Publisher) (id fuel : Nat) :
    ∃ moves, settleLink id fuel p = p.run moves ∧ ∀ move ∈ moves, ∃ own, move = .link id own := by
  induction fuel generalizing p with
  | zero => exact ⟨[], rfl, List.forall_mem_nil _⟩
  | succ fuel ih =>
    cases own : (p.link? id).bind Link.ownMove? with
    | none => exact ⟨[], by simp only [settleLink, own]; rfl, List.forall_mem_nil _⟩
    | some move =>
      obtain ⟨moves, eq, all⟩ := ih (p.step (.link id move))
      refine ⟨.link id move :: moves, by simp only [settleLink, own]; exact eq, ?_⟩
      exact List.forall_mem_cons.mpr ⟨⟨move, rfl⟩, all⟩

theorem settleLink_other {other fuel : Nat} (found : p.link? id = some l) (apart : other ≠ id) :
    (settleLink other fuel p).link? id = some l := by
  obtain ⟨moves, eq, all⟩ := settleLink_run p other fuel
  rw [eq]
  refine (link?_run_of_leaves found fun move made => ?_).1
  obtain ⟨own, rfl⟩ := all move made
  simpa [Move.leaves] using apart

def settleAll (links : List Link) (p : Publisher) : Publisher :=
  links.foldl (fun p l => settleLink l.id (2 * l.queue.frames.length + 10) p) p

theorem settleAll_other {links : List Link} (found : p.link? id = some l)
    (apart : id ∉ links.map (·.id)) : (settleAll links p).link? id = some l := by
  induction links generalizing p with
  | nil => exact found
  | cons first links ih =>
    rw [List.map_cons, List.mem_cons, not_or] at apart
    exact ih (settleLink_other found (Ne.symm apart.1)) apart.2

theorem settleAll_settles {links : List Link} (distinct : (links.map (·.id)).Nodup)
    (there : ∀ l ∈ links, p.link? l.id = some l) :
    ∀ l ∈ links, ∃ l', (settleAll links p).link? l.id = some l' ∧ l.Settles l' := by
  induction links generalizing p with
  | nil => exact List.forall_mem_nil _
  | cons first links ih =>
    obtain ⟨fresh, distinct⟩ := List.nodup_cons.mp distinct
    have enough : first.work < 2 * first.queue.frames.length + 10 := by
      have bound := first.work_le
      omega
    obtain ⟨l', found', settles⟩ := settleLink_settles (there first List.mem_cons_self) enough
    have still := settleAll_other found' fresh
    refine List.forall_mem_cons.mpr ⟨⟨l', still, settles⟩, ih distinct fun l member => ?_⟩
    refine settleLink_other (there l (List.mem_cons_of_mem _ member)) fun same => fresh ?_
    exact List.mem_map.mpr ⟨l, member, same.symm⟩

theorem settleListeners_run (p : Publisher) :
    p.settleListeners = p.run (p.listeners.map fun l => .stop l.id) :=
  List.foldl_map.symm

theorem run_stops (p : Publisher) (listeners : List Listener) :
    (p.run (listeners.map fun l => .stop l.id)).links = p.links := by
  induction listeners generalizing p with
  | nil => rfl
  | cons l listeners ih => exact ih (p.step (.stop l.id))

theorem settleListeners_links (p : Publisher) : p.settleListeners.links = p.links := by
  rw [settleListeners_run]
  exact p.run_stops p.listeners

theorem settle_eq (p : Publisher) : p.settle = settleAll p.links p.settleListeners := by
  rw [← p.settleListeners_links]
  rfl

/-- Every link of a publisher comes to rest. -/
theorem settle_settles (numbered : p.Numbered) (found : p.link? id = some l) :
    ∃ l', p.settle.link? id = some l' ∧ l.Settles l' := by
  have distinct : (p.links.map (·.id)).Nodup := numbered ▸ List.nodup_range
  have there (l : Link) (member : l ∈ p.links) : p.settleListeners.link? l.id = some l := by
    rw [link?, settleListeners_links]
    exact Numbering.find?_of_mem numbered member
  obtain rfl := id_of_link? found
  rw [settle_eq]
  exact settleAll_settles distinct there l (List.mem_of_find?_eq_some found)

/-- A move that neither opens nor closes a publisher, accepts nobody, publishes nothing and leaves the
hook alone. -/
def Move.isOrdinary : Move → Bool
  | .beginStart => false
  | .finishStart _ => false
  | .abandonStart => false
  | .take .. => false
  | .register _ => false
  | .publish _ => false
  | .shutdown => false
  | .onClose _ => false
  | _ => true

/-- What becomes of a publisher with ordinary moves. -/
def Ordinary (p q : Publisher) : Prop :=
  Reached step Move.isOrdinary p q

theorem settleAll_ordinary (links : List Link) (p : Publisher) : p.Ordinary (settleAll links p) := by
  induction links generalizing p with
  | nil => exact .refl p
  | cons first links ih =>
    refine Reached.trans ?_ (ih _)
    obtain ⟨moves, eq, all⟩ := settleLink_run p first.id (2 * first.queue.frames.length + 10)
    refine ⟨moves, eq, fun move made => ?_⟩
    obtain ⟨own, rfl⟩ := all move made
    rfl

theorem settle_ordinary (p : Publisher) : p.Ordinary p.settle := by
  rw [settle_eq]
  refine Reached.trans ⟨_, p.settleListeners_run, fun move made => ?_⟩ (settleAll_ordinary _ _)
  obtain ⟨l, -, rfl⟩ := List.mem_map.mp made
  rfl

/-- Ordinary moves bring no links. -/
theorem Ordinary.link?_back {q : Publisher} (ordinary : p.Ordinary q) (numbered : p.Numbered)
    (found : q.link? id = some l) : ∃ l', p.link? id = some l' := by
  have kept : q.Numbered ∧ q.nextLink = p.nextLink := by
    refine ordinary.keeps (motive := fun q => q.Numbered ∧ q.nextLink = p.nextLink) ⟨numbered, rfl⟩
      fun q move known held => ⟨held.1.step move, ?_⟩
    have known : ∀ listener, move ≠ .register listener := by
      rintro listener rfl
      cases known
    rw [step_nextLink known, held.2]
  refine Option.ne_none_iff_exists'.mp fun absent => ?_
  rw [numbered.link?_eq_none_iff, ← kept.2, ← kept.1.link?_eq_none_iff, found] at absent
  cases absent

end Publisher

/-! ### Connections -/

namespace Connection

variable {c : Connection}

/-- A bound on the moves that a connection has left. With no room for what it tells it waits first. -/
def work (room : Bool) (c : Connection) : Nat :=
  match c.stage with
  | .dialling => 0
  | .requesting _ => c.inbox.length + 8
  | .handshake => c.inbox.length + 7
  | .accepted _ => c.inbox.length + if room then 5 else 6
  | .delivering _ => c.inbox.length + if room then 5 else 6
  | .reading => c.inbox.length + 4
  | .ended => 3
  | .released => 2
  | .unhooked => 1
  | .done => 0

theorem work_le (room : Bool) (c : Connection) : c.work room ≤ c.inbox.length + 8 := by
  unfold work
  cases c.stage <;> cases room <;> simp

theorem length_frame {body : Bytes} (got : c.frame.1 = .ok (some body)) :
    c.frame.2.length + 4 ≤ c.inbox.length := by
  obtain ⟨all, -⟩ := frame_some got
  have length := congrArg List.length all
  rw [List.length_append, Frame.length_framed] at length
  omega

end Connection

namespace Subscriber

variable {s : Subscriber} {c : Connection} {id : Nat}

def Eases (s : Subscriber) (c : Connection) (move : ConnectionMove) : Prop :=
  ∃ c', (s.connectionStep c move).connection? c.id = some c' ∧
    ∀ room, c'.work room < c.work s.events.hasRoom

theorem connection?_changed {change : Connection → Connection} (found : s.connection? c.id = some c)
    (keeps : ∀ c, (change c).id = c.id) :
    (s.changeConnection c.id change).connection? c.id = some (change c) := by
  rw [connection?_changeConnection keeps, if_pos rfl, found, Option.map_some]

theorem eases_readHeader (found : s.connection? c.id = some c) (stage : c.stage = .handshake)
    (ready : c.frameReady = true) : s.Eases c .readHeader := by
  have step : s.connectionStep c .readHeader = s.readHeader c := by
    simp only [connectionStep, stage, ready, if_true]
  have same : (c.frame.1 >>= Frame.headerOf) = c.header := rfl
  simp only [readHeader, same] at step
  have fails {e : SessionError} (fails : s.connectionStep c .readHeader = s.failConnect c.id e) :
      s.Eases c .readHeader := by
    refine ⟨_, (congrArg (·.connection? c.id) fails).trans (connection?_failConnect found e), fun room => ?_⟩
    simp only [Connection.work, stage]
    omega
  cases read : c.header with
  | error e =>
    simp only [read] at step
    exact fails step
  | ok header =>
    cases agrees : header.agrees s.type.digest with
    | false =>
      simp only [read, agrees, Bool.false_eq_true, if_false] at step
      exact fails step
    | true =>
      simp only [read, agrees, if_true] at step
      refine ⟨{ c with stage := .accepted header, inbox := c.frame.2 }, ?_, fun room => ?_⟩
      · rw [step]
        exact connection?_changed found (by exact fun _ => rfl)
      · obtain ⟨body, all, -⟩ := Connection.header_ok read
        have length := congrArg List.length all
        rw [List.length_append] at length
        simp only [Connection.work, stage]
        split <;> omega

theorem eases_readFrame (found : s.connection? c.id = some c) (stage : c.stage = .reading)
    (ready : c.frameReady = true) : s.Eases c .readFrame := by
  have step : s.connectionStep c .readFrame = s.readFrame c := by
    simp only [connectionStep, stage, ready, if_true]
  have ends {c' : Connection} (stage' : c'.stage = .ended) (room : Bool) :
      c'.work room < c.work s.events.hasRoom := by
    simp only [Connection.work, stage, stage']
    omega
  rw [readFrame] at step
  split at step
  · rename_i body rest frame
    have length := Connection.length_frame (congrArg Prod.fst frame)
    rw [frame] at length
    change rest.length + 4 ≤ c.inbox.length at length
    refine ⟨_, (congrArg (·.connection? c.id) step).trans (connection?_changed found (by exact fun _ => rfl)),
      fun room => ?_⟩
    simp only [Connection.work, stage]
    split <;> omega
  · exact ⟨_, (congrArg (·.connection? c.id) step).trans (connection?_changed found (by exact fun _ => rfl)),
      ends rfl⟩
  · exact ⟨_, (congrArg (·.connection? c.id) step).trans (connection?_changed found (by exact fun _ => rfl)),
      ends rfl⟩

theorem work_step (found : s.connection? c.id = some c) {move : ConnectionMove}
    (own : Connection.ownMove? c = some move) (free : move = .tell → s.events.hasRoom = true) :
    s.Eases c move := by
  unfold Connection.ownMove? at own
  cases stage : c.stage with
  | dialling =>
    simp only [stage] at own
    cases own
  | requesting left =>
    simp only [stage] at own
    obtain rfl := Option.some.inj own
    refine ⟨{ c with stage := .handshake, sent := c.sent ++ left.take left.length }, ?_, fun room => ?_⟩
    · simp only [connectionStep, stage, List.drop_length]
      exact connection?_changed found (by exact fun _ => rfl)
    · simp only [Connection.work, stage]
      omega
  | handshake =>
    simp only [stage] at own
    split at own
    · rename_i ready
      obtain rfl := Option.some.inj own
      exact eases_readHeader found stage ready
    · cases own
  | accepted header =>
    simp only [stage] at own
    obtain rfl := Option.some.inj own
    have room := free rfl
    refine ⟨{ c with stage := .reading, result := some (.ok header) }, ?_, fun later => ?_⟩
    · simp only [connectionStep, tell, stage, room, if_true]
      exact connection?_changed found (by exact fun _ => rfl)
    · simp only [Connection.work, stage, room, if_true]
      omega
  | delivering event =>
    simp only [stage] at own
    obtain rfl := Option.some.inj own
    have room := free rfl
    refine ⟨{ c with stage := .reading }, ?_, fun later => ?_⟩
    · simp only [connectionStep, tell, stage, room, if_true]
      exact connection?_changed found (by exact fun _ => rfl)
    · simp only [Connection.work, stage, room, if_true]
      omega
  | reading =>
    simp only [stage] at own
    split at own
    · rename_i ready
      obtain rfl := Option.some.inj own
      exact eases_readFrame found stage ready
    · split at own
      · rename_i asked
        obtain rfl := Option.some.inj own
        have step : s.connectionStep c .stop = s.enter c.id .ended := by
          simp only [connectionStep, stage, asked, if_true]
        refine ⟨{ c with stage := .ended }, ?_, fun room => ?_⟩
        · rw [step]
          exact connection?_changed found (by exact fun _ => rfl)
        · simp only [Connection.work, stage]
          omega
      · cases own
  | done =>
    simp only [stage] at own
    cases own
  | ended =>
    simp only [stage] at own
    obtain rfl := Option.some.inj own
    refine ⟨{ c with stage := .released }, ?_, fun room => ?_⟩
    · simp only [connectionStep, leave, stage]
      exact connection?_changed found (by exact fun _ => rfl)
    · simp only [Connection.work, stage]
      omega
  | released =>
    simp only [stage] at own
    obtain rfl := Option.some.inj own
    refine ⟨{ c with stage := .unhooked }, ?_, fun room => ?_⟩
    · simp only [connectionStep, leave, stage]
      exact connection?_changed found (by exact fun _ => rfl)
    · simp only [Connection.work, stage]
      omega
  | unhooked =>
    simp only [stage] at own
    obtain rfl := Option.some.inj own
    refine ⟨{ c with stage := .done }, ?_, fun room => ?_⟩
    · simp only [connectionStep, leave, stage]
      exact connection?_changed found (by exact fun _ => rfl)
    · simp only [Connection.work, stage]
      omega

end Subscriber

/-- What a connection is when it has come to rest. -/
structure Connection.Settles (c c' : Connection) : Prop where
  rests : Subscriber.Connection.ownMove? c' = none
  idle : Subscriber.Connection.ownMove? c = none → c' = c
  inboxEnded : c'.inboxEnded = c.inboxEnded
  sent : (∀ left, c.stage ≠ .requesting left) → c'.sent = c.sent
  closed : c.isOpen = false → c'.isOpen = false

/-- A connection that has begun to make its own moves goes on with them. -/
theorem Connection.Settles.after {s : Subscriber} {c next c' : Connection}
    {move : Subscriber.ConnectionMove} (own : Subscriber.Connection.ownMove? c = some move)
    (moved : c.Own s move next) (settles : next.Settles c') : c.Settles c' := by
  refine ⟨settles.rests, fun rests => ?_, settles.inboxEnded.trans ?_, fun quiet => ?_, fun closed => ?_⟩
  · rw [own] at rests
    cases rests
  · cases moved <;> rfl
  · cases moved with
    | requests stage => exact absurd stage (quiet _)
    | requested stage => exact absurd stage (quiet _)
    | dials stage =>
      unfold Subscriber.Connection.ownMove? at own
      rw [stage] at own
      cases own
    | rests => exact settles.sent quiet
    | _ => exact settles.sent fun _ => ConnectionStage.noConfusion
  · refine settles.closed ?_
    cases moved with
    | dials stage =>
      unfold Subscriber.Connection.ownMove? at own
      rw [stage] at own
      cases own
    | rests => exact closed
    | unreached => rfl
    | refuses => rfl
    | breaks => rfl
    | runsOut => rfl
    | misreads => rfl
    | stops => rfl
    | fails => rfl
    | releases => rfl
    | unhooks => rfl
    | finishes => rfl
    | requests stage => rw [isOpen, stage] at closed; cases closed
    | requested stage => rw [isOpen, stage] at closed; cases closed
    | accepts stage => rw [isOpen, stage] at closed; cases closed
    | connects stage => rw [isOpen, stage] at closed; cases closed
    | delivers stage => rw [isOpen, stage] at closed; cases closed
    | reads stage => rw [isOpen, stage] at closed; cases closed

namespace Subscriber

variable {s : Subscriber} {c : Connection} {id : Nat}

theorem foldl_offer_capacity (events : List SubscriberEvent) (channel : Channel SubscriberEvent) :
    (events.foldl Channel.offer channel).capacity = channel.capacity := by
  induction events generalizing channel with
  | nil => rfl
  | cons e events ih =>
    have same : (channel.offer e).capacity = channel.capacity := by
      unfold Channel.offer
      split <;> rfl
    exact (ih _).trans same

theorem step_capacity (s : Subscriber) (move : Move) :
    (s.step move).events.capacity = s.events.capacity := by
  have change := s.step_change move
  generalize s.step move = t at change ⊢
  cases change with
  | acts => exact foldl_offer_capacity _ _
  | receives =>
    simp only [Channel.receive]
    split <;> rfl
  | _ => rfl

/-- The subscriber after everything in its channel has been received. -/
def drained (s : Subscriber) : Subscriber :=
  { s with events := s.events.drain.2 }

theorem drained_hasRoom (room : 0 < s.events.capacity) : s.drained.events.hasRoom = true :=
  decide_eq_true room

theorem settleConnection_rested {fuel : Nat} (found : s.connection? id = some c)
    (rests : Connection.ownMove? c = none) : (settleConnection id (fuel + 1) s).2 = s.drained := by
  simp only [settleConnection, found, Option.bind_some, rests]
  rfl

theorem settleConnection_waits {fuel : Nat} (found : s.connection? id = some c)
    (own : Connection.ownMove? c = some .tell) (full : s.events.hasRoom = false) :
    (settleConnection id (fuel + 1) s).2 = (settleConnection id fuel s.drained).2 := by
  simp only [settleConnection, found, Option.bind_some, own, full]
  rfl

theorem settleConnection_moves {fuel : Nat} {move : ConnectionMove} (found : s.connection? id = some c)
    (own : Connection.ownMove? c = some move) (free : move = .tell → s.events.hasRoom = true) :
    settleConnection id (fuel + 1) s = settleConnection id fuel (s.step (.connection id move)) := by
  have unblocked : ¬ (move = .tell ∧ (!s.events.hasRoom) = true) := by
    rintro ⟨tells, full⟩
    rw [free tells] at full
    cases full
  simp only [settleConnection, found, Option.bind_some, own, if_neg unblocked]

theorem connection?_own (found : s.connection? id = some c) (move : ConnectionMove) :
    ∃ c', (s.step (.connection id move)).connection? id = some c' ∧ c.Own s move c' := by
  obtain ⟨change, _, _, _, keeps, own, eq⟩ := step_connection found move
  refine ⟨change c, ?_, own⟩
  rw [eq]
  exact (connection?_changeConnection keeps id).trans (by rw [if_pos rfl, found, Option.map_some])

/-- A connection that waits for room has less work left once there is room. -/
theorem work_of_tell (own : Connection.ownMove? c = some .tell) : c.work true < c.work false := by
  unfold Connection.ownMove? at own
  cases stage : c.stage with
  | accepted header => simp [Connection.work, stage]
  | delivering event => simp [Connection.work, stage]
  | reading =>
    simp only [stage] at own
    split at own
    · cases own
    · split at own <;> cases own
  | _ => simp [stage] at own

theorem settleConnection_settles {fuel : Nat} (found : s.connection? id = some c)
    (room : 0 < s.events.capacity) (enough : c.work s.events.hasRoom < fuel) :
    ∃ c', (settleConnection id fuel s).2.connection? id = some c' ∧ c.Settles c' := by
  induction fuel generalizing s c with
  | zero => exact absurd enough (Nat.not_lt_zero _)
  | succ fuel ih =>
    cases own : Connection.ownMove? c with
    | none =>
      rw [settleConnection_rested found own]
      exact ⟨c, found, own, fun _ => rfl, rfl, fun _ => rfl, fun closed => closed⟩
    | some move =>
      by_cases blocked : move = .tell ∧ s.events.hasRoom = false
      · obtain ⟨rfl, full⟩ := blocked
        -- A round in which it waits counts as well: what is left is less with room than without.
        rw [settleConnection_waits found own full]
        refine ih found room ?_
        have less := work_of_tell own
        rw [full] at enough
        rw [drained_hasRoom room]
        omega
      · have free : move = .tell → s.events.hasRoom = true := by
          intro tells
          rw [not_and, Bool.not_eq_false] at blocked
          exact blocked tells
        obtain rfl := id_of_connection? found
        obtain ⟨next, there, less⟩ := work_step found own free
        have there : (s.step (.connection c.id move)).connection? c.id = some next := by
          simpa only [step, found] using there
        obtain ⟨same, again, moved⟩ := connection?_own found move
        obtain rfl := Option.some.inj (there.symm.trans again)
        have less := less (s.step (.connection c.id move)).events.hasRoom
        obtain ⟨c', found', settles⟩ := ih there ((s.step_capacity _).symm ▸ room) (by omega)
        rw [settleConnection_moves found own free]
        exact ⟨c', found', .after own moved settles⟩

/-! ### All connections of a subscriber -/

def Move.isOf (id : Nat) (move : Move) : Prop :=
  move = .receive ∨ ∃ own, move = .connection id own

theorem drained_run (s : Subscriber) :
    s.drained = s.run (List.replicate s.events.items.length .receive) := by
  generalize items : s.events.items = events
  induction events generalizing s with
  | nil =>
    have kept : s.events.drain.2 = s.events := by rw [Channel.drain, ← items]
    rw [drained, kept]
    rfl
  | cons e events ih =>
    have received : (s.step .receive).events.items = events := by
      simp only [step, Channel.receive, items]
    have same : (s.step .receive).drained = s.drained := by
      simp only [step, Channel.receive, items, drained, Channel.drain]
    exact same.symm.trans (ih _ received)

theorem settleConnection_run (s : Subscriber) (id fuel : Nat) :
    ∃ moves, (settleConnection id fuel s).2 = s.run moves ∧ ∀ move ∈ moves, move.isOf id := by
  have received (s : Subscriber) : ∃ moves, s.drained = s.run moves ∧ ∀ move ∈ moves, move.isOf id :=
    ⟨_, s.drained_run, fun move made => .inl (List.eq_of_mem_replicate made)⟩
  induction fuel generalizing s with
  | zero => exact ⟨[], rfl, List.forall_mem_nil _⟩
  | succ fuel ih =>
    cases found : s.connection? id with
    | none =>
      have step : (settleConnection id (fuel + 1) s).2 = s.drained := by
        simp only [settleConnection, found, Option.bind_none]
        rfl
      rw [step]
      exact received s
    | some c =>
      cases own : Connection.ownMove? c with
      | none =>
        rw [settleConnection_rested found own]
        exact received s
      | some move =>
        by_cases blocked : move = .tell ∧ s.events.hasRoom = false
        · obtain ⟨rfl, full⟩ := blocked
          rw [settleConnection_waits found own full]
          obtain ⟨moves, eq, all⟩ := received s
          obtain ⟨later, eq', all'⟩ := ih s.drained
          refine ⟨moves ++ later, ?_, List.forall_mem_append.mpr ⟨all, all'⟩⟩
          rw [eq', eq, run_append]
        · have free : move = .tell → s.events.hasRoom = true := by
            intro tells
            rw [not_and, Bool.not_eq_false] at blocked
            exact blocked tells
          rw [settleConnection_moves found own free]
          obtain ⟨moves, eq, all⟩ := ih (s.step (.connection id move))
          exact ⟨.connection id move :: moves, eq, List.forall_mem_cons.mpr ⟨.inr ⟨move, rfl⟩, all⟩⟩

theorem settleConnection_other {other fuel : Nat} (found : s.connection? id = some c)
    (apart : other ≠ id) : (settleConnection other fuel s).2.connection? id = some c := by
  obtain ⟨moves, eq, all⟩ := settleConnection_run s other fuel
  rw [eq]
  refine (connection?_run_of_leaves found fun move made => ?_).1
  rcases all move made with rfl | ⟨own, rfl⟩
  · rfl
  · simpa [Move.leaves] using apart

def settleAll (connections : List Connection) (s : Subscriber) : Subscriber :=
  connections.foldl (fun s c => (settleConnection c.id (2 * c.inbox.length + 20) s).2) s

theorem settle_eq (s : Subscriber) : s.settle.2 = settleAll s.connections s := by
  refine (List.foldl_hom Prod.snd fun told c => ?_).symm
  rfl

theorem run_capacity (s : Subscriber) (moves : List Move) :
    (s.run moves).events.capacity = s.events.capacity := by
  induction moves generalizing s with
  | nil => rfl
  | cons move moves ih => exact (ih _).trans (s.step_capacity move)

theorem settleAll_other {connections : List Connection} (found : s.connection? id = some c)
    (apart : id ∉ connections.map (·.id)) : (settleAll connections s).connection? id = some c := by
  induction connections generalizing s with
  | nil => exact found
  | cons first connections ih =>
    rw [List.map_cons, List.mem_cons, not_or] at apart
    exact ih (settleConnection_other found (Ne.symm apart.1)) apart.2

theorem settleAll_settles {connections : List Connection} (distinct : (connections.map (·.id)).Nodup)
    (room : 0 < s.events.capacity) (there : ∀ c ∈ connections, s.connection? c.id = some c) :
    ∀ c ∈ connections, ∃ c', (settleAll connections s).connection? c.id = some c' ∧ c.Settles c' := by
  induction connections generalizing s with
  | nil => exact List.forall_mem_nil _
  | cons first connections ih =>
    obtain ⟨fresh, distinct⟩ := List.nodup_cons.mp distinct
    have enough : first.work s.events.hasRoom < 2 * first.inbox.length + 20 := by
      have bound := first.work_le s.events.hasRoom
      omega
    obtain ⟨c', found', settles⟩ :=
      settleConnection_settles (there first List.mem_cons_self) room enough
    have still := settleAll_other found' fresh
    obtain ⟨moves, eq, -⟩ := settleConnection_run s first.id (2 * first.inbox.length + 20)
    have room : 0 < (settleConnection first.id (2 * first.inbox.length + 20) s).2.events.capacity := by
      rw [eq, run_capacity]
      exact room
    refine List.forall_mem_cons.mpr ⟨⟨c', still, settles⟩, ih distinct room fun c member => ?_⟩
    refine settleConnection_other (there c (List.mem_cons_of_mem _ member)) fun same => fresh ?_
    exact List.mem_map.mpr ⟨c, member, same.symm⟩

/-- Every connection of a subscriber comes to rest. -/
theorem settle_settles (numbered : s.Numbered) (room : 0 < s.events.capacity)
    (found : s.connection? id = some c) :
    ∃ c', s.settle.2.connection? id = some c' ∧ c.Settles c' := by
  have distinct : (s.connections.map (·.id)).Nodup := numbered ▸ List.nodup_range
  have there (c : Connection) (member : c ∈ s.connections) : s.connection? c.id = some c :=
    Numbering.find?_of_mem numbered member
  obtain rfl := id_of_connection? found
  rw [settle_eq]
  exact settleAll_settles distinct room there c (List.mem_of_find?_eq_some found)

/-- A move that does not connect and leaves it at the hook that there is. -/
def Move.isOrdinary : Move → Bool
  | .connect => false
  | .onClose _ => false
  | _ => true

/-- What becomes of a subscriber with ordinary moves. -/
def Ordinary (s t : Subscriber) : Prop :=
  Reached step Move.isOrdinary s t

theorem settle_ordinary (s : Subscriber) : s.Ordinary s.settle.2 := by
  rw [settle_eq]
  generalize s.connections = connections
  induction connections generalizing s with
  | nil => exact .refl s
  | cons first connections ih =>
    refine Reached.trans ?_ (ih _)
    obtain ⟨moves, eq, all⟩ := settleConnection_run s first.id (2 * first.inbox.length + 20)
    refine ⟨moves, eq, fun move made => ?_⟩
    rcases all move made with rfl | ⟨own, rfl⟩ <;> rfl

/-- Ordinary moves begin no connections. -/
theorem Ordinary.connection?_back {t : Subscriber} (ordinary : s.Ordinary t) (numbered : s.Numbered)
    (found : t.connection? id = some c) : ∃ c', s.connection? id = some c' := by
  have kept : t.Numbered ∧ t.nextConnection = s.nextConnection := by
    refine ordinary.keeps (motive := fun t => t.Numbered ∧ t.nextConnection = s.nextConnection)
      ⟨numbered, rfl⟩ fun t move known held => ⟨held.1.step move, ?_⟩
    have known : move ≠ .connect := by
      rintro rfl
      cases known
    rw [step_nextConnection known, held.2]
  refine Option.ne_none_iff_exists'.mp fun absent => ?_
  rw [numbered.connection?_eq_none_iff, ← kept.2, ← kept.1.connection?_eq_none_iff, found] at absent
  cases absent

end Subscriber

end TopicWire

import TopicWire.Proofs.Session.Closing
import TopicWire.Proofs.Session.Handshake

/-!
# What is told of a link

A link tells that its subscriber is connected, then that it has failed, and last that it is over, each
at most once. `Link.Goes` says what one move of a link tells and decides, `Link.Booked` what a link has
told and decided in each of its stages, and `Publisher.books_kept` that every run keeps to it.
-/

namespace TopicWire

/-! ### How a link ends -/

namespace Link

/-- What the connection of a link ends with when the link makes a move: why it failed, or that it has
not. -/
def ends (digest : String) (l : Link) : Publisher.LinkMove → List (Option SessionError)
  | .readHeader =>
    if l.stage = .handshake ∧ l.headerReady then
      match l.header with
      | .error e => [some (.link e)]
      | .ok header =>
        if header.agrees digest then []
        else [some (.digestMismatch digest (header.digest.getD ""))]
    else []
  | .timeout => if l.stage = .handshake then [some (.timeout "subscriber handshake")] else []
  | .next => if l.stage = .serving [] ∧ l.queue.closed then [none] else []
  | .hangUp => if l.stage = .serving [] ∧ l.inboxEnded then [none] else []
  | .cutOff => if l.stage.isOpen ∧ l.queue.announced then [none] else []
  | .readFails cause =>
    match l.stage with
    | .handshake => [some (.link (.failed cause))]
    | .serving [] => [some (.failed cause)]
    | _ => []
  | .writeFails cause =>
    match l.stage with
    | .greeting .. => [some (.link (.failed cause))]
    | .serving (_ :: _) => [some (.link (.failed cause))]
    | _ => []
  | _ => []

/-- Whether the queue had overflowed when a move decides what the link has ended with. -/
def judges (l : Link) : Publisher.LinkMove → List Bool
  | .leave =>
    match l.stage with
    | .ended _ => [l.queue.overflowed]
    | _ => []
  | _ => []

/-- What a link counts as having failed with: an overflow of its queue before anything else. -/
def verdict (capacity : Nat) (cause : Option SessionError) (overflowed : Bool) : Option SessionError :=
  if overflowed then some (.queueOverflow (max capacity 1)) else cause

def afterLeave (capacity : Nat) (l : Link) : Link :=
  match l.stage with
  | .ended cause => { l with stage := .judged (verdict capacity cause l.queue.overflowed) }
  | .judged cause => { l with stage := .removed cause, registered := false }
  | .removed cause => { l with stage := .shut cause, queue := l.queue.close }
  | .shut _ => { l with stage := .reported }
  | .reported => { l with stage := .done }
  | _ => l

def isServed (l : Link) : Bool :=
  match l.stage with
  | .serving _ => true
  | _ => false

/-- What a link is after one of its moves, what it tells with it, what its connection ends with and
whether its queue is found to have overflowed. -/
inductive Goes (p : Publisher) (l : Link) :
    Link → List PublisherEvent → List (Option SessionError) → List Bool → Prop
  | rests : Goes p l l [] [] []
  | goesOn {l'} (before : l.stage.isOpen = true) (after : l'.stage.isOpen = true)
      (same : l'.isServed = l.isServed) (id : l'.id = l.id) (peer : l'.peer = l.peer) :
      Goes p l l' [] [] []
  | connects {callerId left sent} (stage : l.stage = .greeting callerId left) :
      Goes p l { l with stage := .serving [], sent := sent } [.connected l.id l.peer callerId] [] []
  | ends {cause} (before : l.stage.isOpen = true) :
      Goes p l { l with stage := .ended cause } [] [cause] []
  | judges {cause} (stage : l.stage = .ended cause) :
      Goes p l { l with stage := .judged (verdict p.settings.queueCapacity cause l.queue.overflowed) }
        [] [] [l.queue.overflowed]
  | deregisters {cause} (stage : l.stage = .judged cause) :
      Goes p l { l with stage := .removed cause, registered := false } [] [] []
  | shuts {cause} (stage : l.stage = .removed cause) :
      Goes p l { l with stage := .shut cause, queue := l.queue.close } [] [] []
  | reports {cause} (stage : l.stage = .shut cause) :
      Goes p l { l with stage := .reported } (cause.toList.map (.failed (some l.peer))) [] []
  | finishes (stage : l.stage = .reported) :
      Goes p l { l with stage := .done } [.disconnected l.id l.peer] [] []

end Link

namespace Publisher

variable {p : Publisher} {l : Link} {id : Nat}

def Yields (p : Publisher) (l : Link) (move : LinkMove) : Prop :=
  ∃ l', (p.linkStep l move).link? l.id = some l' ∧
    l.Goes p l' (l.tells move) (l.ends p.type.digest move) (l.judges move)

theorem link?_changed {change : Link → Link} (found : p.link? l.id = some l)
    (keeps : ∀ l, (change l).id = l.id) : (p.changeLink l.id change).link? l.id = some (change l) := by
  rw [link?_changeLink keeps, if_pos rfl, found, Option.map_some]

theorem yields_rest (found : p.link? l.id = some l) {move : LinkMove} (none : p.linkStep l move = p)
    (silent : l.tells move = []) (goes : l.ends p.type.digest move = []) (undecided : l.judges move = []) :
    p.Yields l move := by
  refine ⟨l, by rw [none, found], ?_⟩
  rw [silent, goes, undecided]
  exact .rests

theorem yields_end (found : p.link? l.id = some l) {move : LinkMove} (cause : Option SessionError)
    (ends : p.linkStep l move = p.endLink l.id cause) (before : l.stage.isOpen = true)
    (silent : l.tells move = []) (goes : l.ends p.type.digest move = [cause])
    (undecided : l.judges move = []) : p.Yields l move := by
  refine ⟨{ l with stage := .ended cause }, ?_, ?_⟩
  · rw [ends]
    exact link?_changed found (by exact fun _ => rfl)
  · rw [silent, goes, undecided]
    exact .ends before

theorem yields_readHeader (found : p.link? l.id = some l) : p.Yields l .readHeader := by
  by_cases ready : l.stage = .handshake ∧ l.headerReady = true
  · have before : l.stage.isOpen = true := by rw [ready.1]; rfl
    cases read : l.header with
    | error e =>
      exact yields_end found (some (.link e)) (by simp only [linkStep, readHeader, if_pos ready, read])
        before rfl (by simp only [Link.ends, if_pos ready, read]) rfl
    | ok header =>
      cases agrees : header.agrees p.type.digest with
      | true =>
        refine ⟨{ l with stage := .greeting header.callerId p.greeting.encode, inbox := [] }, ?_, ?_⟩
        · simp only [linkStep, readHeader, if_pos ready, read, agrees, if_true]
          exact link?_changed found (by exact fun _ => rfl)
        · simp only [Link.ends, if_pos ready, read, agrees, if_true]
          exact .goesOn before rfl (by simp only [Link.isServed, ready.1]) rfl rfl
      | false =>
        exact yields_end found (some (.digestMismatch p.type.digest (header.digest.getD "")))
          (by simp only [linkStep, readHeader, if_pos ready, read, agrees, Bool.false_eq_true, if_false])
          before rfl
          (by simp only [Link.ends, if_pos ready, read, agrees, Bool.false_eq_true, if_false]) rfl
  · exact yields_rest found (by rw [linkStep, readHeader, if_neg ready]) rfl (if_neg ready) rfl

theorem yields_write (found : p.link? l.id = some l) (count : Nat) : p.Yields l (.write count) := by
  cases stage : l.stage with
  | greeting callerId left =>
    have before : l.stage.isOpen = true := by rw [stage]; rfl
    by_cases all : left.drop count = []
    · refine ⟨{ l with stage := .serving [], sent := l.sent ++ left.take count }, ?_, ?_⟩
      · simp only [linkStep, write, stage, all]
        exact link?_changed found (by exact fun _ => rfl)
      · simp only [Link.tells, stage, if_pos all]
        exact .connects stage
    · refine ⟨{ l with
          stage := .greeting callerId (left.drop count), sent := l.sent ++ left.take count }, ?_, ?_⟩
      · obtain ⟨b, more, rest⟩ := List.exists_cons_of_ne_nil all
        simp only [linkStep, write, stage, rest]
        exact link?_changed found (by exact fun _ => rfl)
      · simp only [Link.tells, stage, if_neg all]
        exact .goesOn before rfl (by simp only [Link.isServed, stage]) rfl rfl
  | serving left =>
    have before : l.stage.isOpen = true := by rw [stage]; rfl
    refine ⟨{ l with stage := .serving (left.drop count), sent := l.sent ++ left.take count }, ?_, ?_⟩
    · simp only [linkStep, write, stage]
      exact link?_changed found (by exact fun _ => rfl)
    · simp only [Link.tells, stage]
      exact .goesOn before rfl (by simp only [Link.isServed, stage]) rfl rfl
  | _ =>
    exact yields_rest found (by simp only [linkStep, write, stage]) (by simp only [Link.tells, stage])
      rfl rfl

theorem yields_next (found : p.link? l.id = some l) : p.Yields l .next := by
  by_cases stage : l.stage = .serving []
  · have before : l.stage.isOpen = true := by rw [stage]; rfl
    rcases l.queue.pop_cases with ⟨closed, pop, -⟩ | ⟨opened, -, pop, -⟩ | ⟨frame, rest, opened, -, pop, -⟩
    · exact yields_end found none (by simp only [linkStep, nextFrame, if_pos stage, pop]) before rfl
        (if_pos ⟨stage, closed⟩) rfl
    · have ends : l.ends p.type.digest .next = [] :=
        if_neg fun both => by rw [opened] at both; exact Bool.false_ne_true both.2
      exact yields_rest found (by simp only [linkStep, nextFrame, if_pos stage, pop]) rfl ends rfl
    · have ends : l.ends p.type.digest .next = [] :=
        if_neg fun both => by rw [opened] at both; exact Bool.false_ne_true both.2
      refine ⟨{ l with stage := .serving frame, queue := { l.queue with frames := rest } }, ?_, ?_⟩
      · simp only [linkStep, nextFrame, if_pos stage, pop]
        exact link?_changed found (by exact fun _ => rfl)
      · rw [ends]
        exact .goesOn before rfl (by simp only [Link.isServed, stage]) rfl rfl
  · have ends : l.ends p.type.digest .next = [] := if_neg fun both => stage both.1
    exact yields_rest found (by simp only [linkStep, nextFrame, if_neg stage]) rfl ends rfl

theorem link?_leave (found : p.link? l.id = some l) :
    (p.linkStep l .leave).link? l.id = some (l.afterLeave p.settings.queueCapacity) := by
  unfold Link.afterLeave
  cases stage : l.stage with
  | shut cause =>
    cases cause <;> simp only [linkStep, leave, stage] <;>
      exact link?_changed found (by exact fun _ => rfl)
  | handshake => simp only [linkStep, leave, stage, found]
  | greeting callerId left => simp only [linkStep, leave, stage, found]
  | serving left => simp only [linkStep, leave, stage, found]
  | done => simp only [linkStep, leave, stage, found]
  | _ =>
    simp only [linkStep, leave, stage]
    exact link?_changed found (by exact fun _ => rfl)

theorem yields_leave (found : p.link? l.id = some l) : p.Yields l .leave := by
  refine ⟨_, link?_leave found, ?_⟩
  unfold Link.afterLeave Link.tells Link.ends Link.judges
  cases stage : l.stage with
  | ended cause => exact .judges stage
  | judged cause => exact .deregisters stage
  | removed cause => exact .shuts stage
  | shut cause => cases cause <;> exact .reports stage
  | reported => exact .finishes stage
  | _ => exact .rests

theorem yields_readFails (found : p.link? l.id = some l) (cause : String) :
    p.Yields l (.readFails cause) := by
  have rests (none : p.linkStep l (.readFails cause) = p)
      (goes : l.ends p.type.digest (.readFails cause) = []) : p.Yields l (.readFails cause) :=
    yields_rest found none rfl goes rfl
  cases stage : l.stage with
  | handshake =>
    exact yields_end found _ (by simp only [linkStep, stage]; rfl) (by rw [stage]; rfl) rfl
      (by simp only [Link.ends, stage]) rfl
  | serving left =>
    cases left with
    | nil =>
      exact yields_end found _ (by simp only [linkStep, stage]; rfl) (by rw [stage]; rfl) rfl
        (by simp only [Link.ends, stage]) rfl
    | cons b left => exact rests (by simp only [linkStep, stage]) (by simp only [Link.ends, stage])
  | _ => exact rests (by simp only [linkStep, stage]) (by simp only [Link.ends, stage])

theorem yields_writeFails (found : p.link? l.id = some l) (cause : String) :
    p.Yields l (.writeFails cause) := by
  have rests (none : p.linkStep l (.writeFails cause) = p)
      (goes : l.ends p.type.digest (.writeFails cause) = []) : p.Yields l (.writeFails cause) :=
    yields_rest found none rfl goes rfl
  cases stage : l.stage with
  | greeting callerId left =>
    exact yields_end found _ (by simp only [linkStep, stage]; rfl) (by rw [stage]; rfl) rfl
      (by simp only [Link.ends, stage]) rfl
  | serving left =>
    cases left with
    | nil => exact rests (by simp only [linkStep, stage]) (by simp only [Link.ends, stage])
    | cons b left =>
      exact yields_end found _ (by simp only [linkStep, stage]; rfl) (by rw [stage]; rfl) rfl
        (by simp only [Link.ends, stage]) rfl
  | _ => exact rests (by simp only [linkStep, stage]) (by simp only [Link.ends, stage])

theorem yields (found : p.link? l.id = some l) (move : LinkMove) : p.Yields l move := by
  cases move with
  | readHeader => exact yields_readHeader found
  | timeout =>
    by_cases stage : l.stage = .handshake
    · exact yields_end found _ (by rw [linkStep, if_pos stage]) (by rw [stage]; rfl) rfl (if_pos stage) rfl
    · exact yields_rest found (by rw [linkStep, if_neg stage]) rfl (if_neg stage) rfl
  | write count => exact yields_write found count
  | next => exact yields_next found
  | hangUp =>
    by_cases ended : l.stage = .serving [] ∧ l.inboxEnded = true
    · exact yields_end found _ (by rw [linkStep, if_pos ended]) (by rw [ended.1]; rfl) rfl (if_pos ended) rfl
    · exact yields_rest found (by rw [linkStep, if_neg ended]) rfl (if_neg ended) rfl
  | cutOff =>
    by_cases told : l.stage.isOpen = true ∧ l.queue.announced = true
    · exact yields_end found _ (by rw [linkStep, if_pos told]) told.1 rfl (if_pos told) rfl
    · exact yields_rest found (by rw [linkStep, if_neg told]) rfl (if_neg told) rfl
  | readFails cause => exact yields_readFails found cause
  | writeFails cause => exact yields_writeFails found cause
  | leave => exact yields_leave found

end Publisher

/-! ### The books of a link -/

def LinkStage.isShut : LinkStage → Bool
  | .shut _ => true
  | .reported => true
  | .done => true
  | _ => false

namespace Link

variable {p : Publisher} {l l' : Link} {capacity : Nat} {told : List PublisherEvent}
  {causes : List (Option SessionError)} {flags : List Bool}

/-- What has been told of a link before its end: that it is connected, or nothing. -/
def Opening (l : Link) (told : List PublisherEvent) : Prop :=
  told = [] ∨ ∃ callerId, told = [.connected l.id l.peer callerId]

/-- The connection has ended once, and it was decided once what the link has failed with. -/
def Judged (capacity : Nat) (causes : List (Option SessionError)) (flags : List Bool)
    (failure : Option SessionError) : Prop :=
  ∃ cause overflowed, causes = [cause] ∧ flags = [overflowed] ∧
    failure = verdict capacity cause overflowed

/-- What has been told of a link, what its connection has ended with, and whether its queue was found
to have overflowed then, in each of its stages. -/
def Booked (capacity : Nat) (told : List PublisherEvent) (causes : List (Option SessionError))
    (flags : List Bool) (l : Link) : Prop :=
  match l.stage with
  | .handshake => told = [] ∧ causes = [] ∧ flags = []
  | .greeting .. => told = [] ∧ causes = [] ∧ flags = []
  | .serving _ => (∃ callerId, told = [.connected l.id l.peer callerId]) ∧ causes = [] ∧ flags = []
  | .ended cause => l.Opening told ∧ causes = [cause] ∧ flags = []
  | .judged failure => l.Opening told ∧ Judged capacity causes flags failure
  | .removed failure => l.Opening told ∧ Judged capacity causes flags failure
  | .shut failure => l.Opening told ∧ Judged capacity causes flags failure
  | .reported => ∃ opening failure, l.Opening opening ∧ Judged capacity causes flags failure ∧
      told = opening ++ failure.toList.map (.failed (some l.peer))
  | .done => ∃ opening failure, l.Opening opening ∧ Judged capacity causes flags failure ∧
      told = opening ++ failure.toList.map (.failed (some l.peer)) ++ [.disconnected l.id l.peer]

theorem booked_of_open (opened : l.stage.isOpen = true) :
    l.Booked capacity told causes flags ↔
      (if l.isServed then ∃ callerId, told = [.connected l.id l.peer callerId] else told = []) ∧
        causes = [] ∧ flags = [] := by
  unfold Booked isServed
  cases stage : l.stage with
  | handshake => rfl
  | greeting callerId left => rfl
  | serving left => rfl
  | _ => rw [stage] at opened; cases opened

theorem Booked.opening (booked : l.Booked capacity told causes flags) (opened : l.stage.isOpen = true) :
    l.Opening told ∧ causes = [] ∧ flags = [] := by
  obtain ⟨told, rest⟩ := (booked_of_open opened).mp booked
  refine ⟨?_, rest⟩
  split at told
  · exact .inr told
  · exact .inl told

theorem Booked.goes {events : List PublisherEvent} {ends : List (Option SessionError)}
    {judged : List Bool} (booked : l.Booked p.settings.queueCapacity told causes flags)
    (goes : l.Goes p l' events ends judged) :
    l'.Booked p.settings.queueCapacity (told ++ events) (causes ++ ends) (flags ++ judged) := by
  cases goes with
  | rests =>
    rw [List.append_nil, List.append_nil, List.append_nil]
    exact booked
  | goesOn before after same id peer =>
    rw [List.append_nil, List.append_nil, List.append_nil]
    rw [booked_of_open before] at booked
    rw [booked_of_open after, same, id, peer]
    exact booked
  | @connects callerId left sent stage =>
    rw [Booked, stage] at booked
    obtain ⟨rfl, rfl, rfl⟩ := booked
    exact ⟨⟨callerId, rfl⟩, rfl, rfl⟩
  | @ends cause before =>
    obtain ⟨opening, rfl, rfl⟩ := booked.opening before
    rw [List.append_nil]
    exact ⟨opening, rfl, rfl⟩
  | @judges cause stage =>
    rw [Booked, stage] at booked
    obtain ⟨opening, rfl, rfl⟩ := booked
    rw [List.append_nil]
    exact ⟨opening, cause, l.queue.overflowed, rfl, rfl, rfl⟩
  | deregisters stage =>
    rw [Booked, stage] at booked
    rw [List.append_nil, List.append_nil, List.append_nil]
    exact booked
  | shuts stage =>
    rw [Booked, stage] at booked
    rw [List.append_nil, List.append_nil, List.append_nil]
    exact booked
  | @reports failure stage =>
    rw [Booked, stage] at booked
    rw [List.append_nil, List.append_nil]
    exact ⟨told, failure, booked.1, booked.2, rfl⟩
  | finishes stage =>
    rw [Booked, stage] at booked
    obtain ⟨opening, failure, opens, judged, rfl⟩ := booked
    rw [List.append_nil, List.append_nil]
    exact ⟨opening, failure, opens, judged, rfl⟩

theorem Booked.keep (booked : l.Booked capacity told causes flags) (id : l'.id = l.id)
    (peer : l'.peer = l.peer) (stage : l'.stage = l.stage) : l'.Booked capacity told causes flags := by
  unfold Booked Opening at booked ⊢
  rw [id, peer, stage]
  exact booked

/-- A link that is no longer registered keeps its queue, unless it closes it itself. -/
theorem Change.queue_eq {move : Publisher.Move} (change : l.Change p move l')
    (retired : l.registered = false) (other : ∀ own, move ≠ .link l.id own) : l'.queue = l.queue := by
  cases change with
  | pushed made => rw [Publisher.pushTo, retired]; rfl
  | dismissed => rw [Publisher.dismiss, retired]; rfl
  | own moved => exact absurd rfl (other _)
  | _ => rfl

/-- A link is taken off the registered ones and then its queue is closed. -/
structure Retired (l : Link) : Prop where
  removed : l.stage.isRemoved = true → l.registered = false
  shut : l.stage.isShut = true → l.queue.closed = true

theorem Retired.change {move : Publisher.Move} (retired : l.Retired) (change : l.Change p move l') :
    l'.Retired := by
  refine ⟨change.removed retired.removed, fun shut => ?_⟩
  rcases change.own_or_kept with ⟨own, rfl, moved⟩ | ⟨other, -, -, stage, -⟩
  · cases moved with
    | rests => exact retired.shut shut
    | shuts => rfl
    | reports stage => exact retired.shut (by rw [stage]; rfl)
    | finishes stage => exact retired.shut (by rw [stage]; rfl)
    | _ => cases shut
  · rw [stage] at shut
    have gone : l.registered = false := by
      refine retired.removed ?_
      cases same : l.stage <;> rw [same] at shut <;> first | rfl | cases shut
    rw [change.queue_eq gone other]
    exact retired.shut shut

end Link

namespace Publisher

variable {p : Publisher} {l l' : Link} {id : Nat} {α : Type}

/-! ### The books of a run -/

def givenBy (give : Publisher → Link → LinkMove → List α) (id : Nat) (p : Publisher) : Move → List α
  | .link other move => if other = id then ((p.link? id).map (give p · move)).getD [] else []
  | _ => []

def givenIn (give : Publisher → Link → LinkMove → List α) (id : Nat) (p : Publisher)
    (moves : List Move) : List α :=
  history step (givenBy give id) p moves

def toldOf (p : Publisher) (id : Nat) (moves : List Move) : List PublisherEvent :=
  givenIn (fun _ => Link.tells) id p moves

def endsOf (p : Publisher) (id : Nat) (moves : List Move) : List (Option SessionError) :=
  givenIn (fun p => Link.ends p.type.digest) id p moves

/-- Whether the queue of a link is found to have overflowed when a run decides on its end. -/
def judgedOf (p : Publisher) (id : Nat) (moves : List Move) : List Bool :=
  givenIn (fun _ => Link.judges) id p moves

theorem givenIn_snoc (give : Publisher → Link → LinkMove → List α) (id : Nat) (p : Publisher)
    (moves : List Move) (move : Move) :
    givenIn give id p (moves ++ [move]) = givenIn give id p moves ++ givenBy give id (p.run moves) move :=
  history_snoc p moves move

theorem givenBy_link (give : Publisher → Link → LinkMove → List α) (found : p.link? id = some l)
    (move : LinkMove) : givenBy give id p (.link id move) = give p l move := by
  rw [givenBy, if_pos rfl, found, Option.map_some, Option.getD_some]

theorem givenBy_other (give : Publisher → Link → LinkMove → List α) {move : Move}
    (other : ∀ own, move ≠ .link id own) : givenBy give id p move = [] := by
  cases move with
  | link acting own =>
    have different : acting ≠ id := by
      rintro rfl
      exact other own rfl
    exact if_neg different
  | _ => rfl

theorem givenBy_absent (give : Publisher → Link → LinkMove → List α) (absent : p.link? id = none)
    (move : Move) : givenBy give id p move = [] := by
  cases move with
  | link acting own => rw [givenBy, absent, Option.map_none, Option.getD_none, ite_self]
  | _ => rfl

theorem givenIn_absent (give : Publisher → Link → LinkMove → List α) (p : Publisher)
    (moves : List Move) (absent : (p.run moves).link? id = none) : givenIn give id p moves = [] := by
  revert absent
  refine run_induction (motive := fun moves (q : Publisher) => q.link? id = none →
    givenIn give id p moves = []) (fun _ => rfl) (fun moves move held absent => ?_) moves
  change ((p.run moves).step move).link? id = none at absent
  cases before : (p.run moves).link? id with
  | some l =>
    -- A link that was there would be there still.
    obtain ⟨l', found, -⟩ := link?_step before move
    rw [absent] at found
    cases found
  | none => rw [givenIn_snoc, held before, givenBy_absent give before move, List.append_nil]

theorem link?_of_step (numbered : p.Numbered) {move : Move}
    (found : (p.step move).link? id = some l') :
    (∃ l, p.link? id = some l ∧ l.Change p move l') ∨
      p.link? id = none ∧ ∃ peer, l' = { id := id, peer := peer, queue := p.openingQueue } := by
  cases before : p.link? id with
  | some l =>
    obtain ⟨l'', found', change⟩ := link?_step before move
    obtain rfl := Option.some.inj (found.symm.trans found')
    exact .inl ⟨l, rfl, change⟩
  | none =>
    have outside := numbered.link?_eq_none_iff.mp before
    have inside : id < (p.step move).nextLink := by
      rw [← Nat.not_le, ← (numbered.step move).link?_eq_none_iff, found]
      exact Option.some_ne_none l'
    cases move with
    | register listener =>
      cases taken : p.taken? listener with
      | none =>
        rw [step, register_none taken, before] at found
        cases found
      | some peer =>
        rw [nextLink_register taken] at inside
        obtain rfl : id = p.nextLink := by omega
        rw [link?_register numbered taken] at found
        exact .inr ⟨rfl, peer, (Option.some.inj found).symm⟩
    | _ =>
      rw [step_nextLink fun _ => Move.noConfusion] at inside
      omega

theorem booked_step {move : Move} {told : List PublisherEvent}
    {causes : List (Option SessionError)} {flags : List Bool} (found : p.link? id = some l)
    (found' : (p.step move).link? id = some l') (change : l.Change p move l')
    (booked : l.Booked p.settings.queueCapacity told causes flags) :
    l'.Booked p.settings.queueCapacity (told ++ givenBy (fun _ => Link.tells) id p move)
      (causes ++ givenBy (fun p => Link.ends p.type.digest) id p move)
      (flags ++ givenBy (fun _ => Link.judges) id p move) := by
  obtain rfl := id_of_link? found
  rcases change.own_or_kept with ⟨own, rfl, -⟩ | ⟨other, id, peer, stage, -⟩
  · obtain ⟨l'', there, goes⟩ := yields found own
    have moved : p.step (.link l.id own) = p.linkStep l own := by simp only [step, found]
    rw [moved] at found'
    obtain rfl := Option.some.inj (found'.symm.trans there)
    rw [givenBy_link _ found, givenBy_link _ found, givenBy_link _ found]
    exact booked.goes goes
  · rw [givenBy_other _ other, givenBy_other _ other, givenBy_other _ other, List.append_nil,
      List.append_nil, List.append_nil]
    exact booked.keep id peer stage

theorem booked_run (callerId topic : String) (type : MessageType) (settings : PublisherSettings)
    (moves : List Move) {id : Nat} {l : Link} :
    let start := new callerId topic type settings
    (start.run moves).link? id = some l →
      l.Booked settings.queueCapacity (start.toldOf id moves) (start.endsOf id moves)
        (start.judgedOf id moves) ∧ l.Retired := by
  intro start
  have numbered : start.Numbered := numbered_new callerId topic type settings
  refine run_induction (motive := fun moves (p : Publisher) => ∀ {l : Link}, p.link? id = some l →
    l.Booked settings.queueCapacity (start.toldOf id moves) (start.endsOf id moves)
      (start.judgedOf id moves) ∧ l.Retired) (fun none => (by cases none)) (fun moves move held l' found => ?_)
    moves
  change ((start.run moves).step move).link? id = some l' at found
  have same : (start.run moves).settings = settings := (start.run_alike moves).2.2.2
  rw [toldOf, endsOf, judgedOf, givenIn_snoc, givenIn_snoc, givenIn_snoc]
  rcases link?_of_step (numbered.run moves) found with ⟨l, before, change⟩ | ⟨absent, peer, rfl⟩
  · obtain ⟨booked, retired⟩ := held before
    rw [← same] at booked ⊢
    exact ⟨booked_step before found change booked, retired.change change⟩
  · rw [givenIn_absent _ start moves absent, givenIn_absent _ start moves absent,
      givenIn_absent _ start moves absent, givenBy_absent _ absent, givenBy_absent _ absent,
      givenBy_absent _ absent]
    exact ⟨⟨rfl, rfl, rfl⟩, fun no => (by cases no), fun no => (by cases no)⟩

/-- A queue that has overflowed is found so when it is decided what its link has ended with. -/
theorem judgedOf_overflowed {q : Publisher} (found : q.link? id = some l)
    (overflowed : l.queue.overflowed = true) (later : List Move) :
    ∀ flag ∈ q.judgedOf id later, flag = true := by
  induction later generalizing q l with
  | nil => exact List.forall_mem_nil _
  | cons move later ih =>
    obtain ⟨l', found', change⟩ := link?_step found move
    rw [judgedOf, givenIn, history]
    intro flag there
    rcases List.mem_append.mp there with now | after
    · cases move with
      | link acting own =>
        by_cases here : acting = id
        · subst here
          rw [givenBy_link _ found] at now
          unfold Link.judges at now
          split at now
          · split at now
            · rw [List.mem_singleton.mp now, overflowed]
            · cases now
          · cases now
        · rw [givenBy, if_neg here] at now
          cases now
      | _ => cases now
    · exact ih found' (change.overflowed overflowed) flag after

end Publisher

/-- How many steps a link has left when its connection is over. -/
def LinkStage.stepsLeft : LinkStage → Nat
  | .ended _ => 5
  | .judged _ => 4
  | .removed _ => 3
  | .shut _ => 2
  | .reported => 1
  | _ => 0

theorem LinkStage.stepsLeft_le (stage : LinkStage) : stage.stepsLeft ≤ 5 := by
  unfold stepsLeft
  split <;> omega

theorem LinkStage.done_of_stepsLeft {stage : LinkStage} (past : stage.isOpen = false)
    (none : stage.stepsLeft = 0) : stage = .done := by
  cases stage with
  | done => rfl
  | handshake => cases past
  | greeting callerId left => cases past
  | serving left => cases past
  | _ => cases none

theorem Link.stage_afterLeave {l : Link} (capacity : Nat) (past : l.stage.isOpen = false) :
    (l.afterLeave capacity).stage.isOpen = false ∧
      (l.afterLeave capacity).stage.stepsLeft = l.stage.stepsLeft - 1 := by
  unfold afterLeave
  cases stage : l.stage with
  | handshake => rw [stage] at past; cases past
  | greeting callerId left => rw [stage] at past; cases past
  | serving left => rw [stage] at past; cases past
  | done => exact ⟨past, by rw [stage]; rfl⟩
  | _ => exact ⟨rfl, rfl⟩

namespace Publisher

variable {p : Publisher} {l l' : Link} {id : Nat} {α : Type}

/-- A link whose connection is over comes to its end by itself. -/
theorem done_of_leaves {n : Nat} (found : p.link? id = some l) (past : l.stage.isOpen = false)
    (enough : l.stage.stepsLeft ≤ n) :
    ∃ l', (p.run (List.replicate n (.link id .leave))).link? id = some l' ∧ l'.stage = .done := by
  induction n generalizing p l with
  | zero => exact ⟨l, found, LinkStage.done_of_stepsLeft past (Nat.le_zero.mp enough)⟩
  | succ n ih =>
    obtain rfl := id_of_link? found
    have there : (p.step (.link l.id .leave)).link? l.id =
        some (l.afterLeave p.settings.queueCapacity) := by
      simp only [step, found]
      exact link?_leave found
    obtain ⟨past', fewer⟩ := l.stage_afterLeave p.settings.queueCapacity past
    exact ih there past' (by omega)

/-! ### What is heard -/

def hears (p : Publisher) : Move → List PublisherEvent
  | .receive => p.events.receive.1.toList
  | _ => []

def heardIn (p : Publisher) (moves : List Move) : List PublisherEvent :=
  history step hears p moves

def notices (p : Publisher) (move : Move) : List (PublisherEvent × Bool) :=
  (p.emits move).map (·, p.events.hasRoom)

def noticesIn (p : Publisher) (moves : List Move) : List (PublisherEvent × Bool) :=
  history step notices p moves

def heardOf (notices : List (PublisherEvent × Bool)) : List PublisherEvent :=
  (notices.filter (·.2)).map (·.1)

theorem noticesIn_events (p : Publisher) (moves : List Move) :
    (p.noticesIn moves).map (·.1) = p.emittedIn moves := by
  rw [noticesIn, history_map, emittedIn]
  congr 1
  funext p move
  rw [notices, List.map_map]
  exact List.map_id _

theorem Link.tells_cases (l : Link) (move : LinkMove) : l.tells move = [] ∨ ∃ e, l.tells move = [e] := by
  unfold Link.tells
  split
  · split
    · split
      · exact .inr ⟨_, rfl⟩
      · exact .inl rfl
    · exact .inl rfl
  · split
    · exact .inr ⟨_, rfl⟩
    · exact .inr ⟨_, rfl⟩
    · exact .inl rfl
  · exact .inl rfl

theorem emits_cases (p : Publisher) (move : Move) : p.emits move = [] ∨ ∃ e, p.emits move = [e] := by
  cases move with
  | finishStart found =>
    simp only [emits]
    split
    · exact .inl rfl
    · cases found <;> exact .inr ⟨_, rfl⟩
  | failToAccept listener cause =>
    simp only [emits]
    split
    · exact .inr ⟨_, rfl⟩
    · exact .inl rfl
  | link id move =>
    simp only [emits]
    cases p.link? id with
    | none => exact .inl rfl
    | some l => exact Link.tells_cases l move
  | _ => exact .inl rfl

theorem step_events (p : Publisher) {move : Move} (other : move ≠ .receive) :
    (p.step move).events = (p.emits move).foldl Channel.offer p.events := by
  cases move with
  | beginStart =>
    simp only [step, beginStart]
    split <;> rfl
  | finishStart found =>
    by_cases idle : p.searches = 0
    · have silent : p.emits (.finishStart found) = [] := if_pos idle
      rw [finishStart_none idle, silent]
      rfl
    · cases found with
      | ok endpoint =>
        have told : p.emits (.finishStart (.ok endpoint)) = [.listening endpoint] := if_neg idle
        rw [finishStart_bound idle, told]
        rfl
      | error e =>
        have told : p.emits (.finishStart (.error e)) = [.failed none e] := if_neg idle
        rw [finishStart_failed idle, told]
        rfl
  | register listener =>
    simp only [step, register]
    split <;> rfl
  | failToAccept listener cause =>
    simp only [step, failToAccept, emits]
    split <;> rfl
  | link id move =>
    cases found : p.link? id with
    | none =>
      rw [step_link_none found, emits, found]
      rfl
    | some l =>
      obtain ⟨change, -, -, eq⟩ := step_link found move
      rw [eq, emitAll_eq, emits, found]
      rfl
  | publish m =>
    simp only [step, publish]
    split <;> rfl
  | receive => exact absurd rfl other
  | _ => rfl

theorem step_items (p : Publisher) (move : Move) :
    p.hears move ++ (p.step move).events.items = p.events.items ++ heardOf (p.notices move) := by
  by_cases receives : move = .receive
  · subst receives
    simp only [hears, step, Channel.receive, notices, emits, heardOf]
    cases items : p.events.items <;> simp [items]
  · have deaf : p.hears move = [] := by
      cases move <;> first | rfl | exact absurd rfl receives
    rw [deaf, p.step_events receives, notices]
    rcases p.emits_cases move with silent | ⟨e, told⟩
    · rw [silent]
      exact (List.append_nil _).symm
    · rw [told]
      cases room : p.events.hasRoom <;> simp [Channel.offer, heardOf, room]

/-- The events received and those in the channel are the ones told that have found room. -/
theorem heardIn_append_items (p : Publisher) (moves : List Move) :
    p.heardIn moves ++ (p.run moves).events.items = p.events.items ++ heardOf (p.noticesIn moves) := by
  refine run_induction (motive := fun moves (q : Publisher) =>
    p.heardIn moves ++ q.events.items = p.events.items ++ heardOf (p.noticesIn moves))
    (List.append_nil _).symm (fun moves move held => ?_) moves
  change p.heardIn moves ++ (p.run moves).events.items = _ at held
  change p.heardIn (moves ++ [move]) ++ ((p.run moves).step move).events.items = _
  have heard : p.heardIn (moves ++ [move]) = p.heardIn moves ++ (p.run moves).hears move :=
    history_snoc p moves move
  have noticed : p.noticesIn (moves ++ [move]) = p.noticesIn moves ++ (p.run moves).notices move :=
    history_snoc p moves move
  rw [heard, noticed, heardOf, List.filter_append, List.map_append, List.append_assoc, step_items,
    ← List.append_assoc, held, List.append_assoc]
  rfl

end Publisher

def PublisherEvent.link? : PublisherEvent → Option Nat
  | .connected link _ _ => some link
  | .disconnected link _ => some link
  | _ => none

theorem Link.link?_of_tells {l : Link} {move : Publisher.LinkMove} {e : PublisherEvent}
    (there : e ∈ l.tells move) : e.link? = some l.id ∨ e.link? = none := by
  unfold tells at there
  split at there
  · split at there
    · split at there
      · obtain rfl := List.mem_singleton.mp there
        exact .inl rfl
      · cases there
    · cases there
  · split at there
    · obtain rfl := List.mem_singleton.mp there
      exact .inr rfl
    · obtain rfl := List.mem_singleton.mp there
      exact .inl rfl
    · cases there
  · cases there

namespace Publisher

/-- What a link tells is part of what the publisher tells. -/
theorem toldOf_sublist (p : Publisher) (id : Nat) (moves : List Move) :
    (p.toldOf id moves).Sublist (p.emittedIn moves) := by
  refine history_sublist (fun p move => ?_) p moves
  cases move with
  | link acting own =>
    rw [givenBy]
    split
    · rename_i here
      subst here
      exact List.Sublist.refl _
    · exact List.nil_sublist _
  | _ => exact List.nil_sublist _

/-- Nobody else tells that a link is connected or over. -/
theorem toldOf_filter (p : Publisher) (id : Nat) (moves : List Move) :
    (p.emittedIn moves).filter (·.link? = some id) = (p.toldOf id moves).filter (·.link? = some id) := by
  refine history_filter (fun p move => ?_) p moves
  have silent {events : List PublisherEvent} (other : ∀ e ∈ events, e.link? ≠ some id) :
      events.filter (·.link? = some id) = [] :=
    List.filter_eq_nil_iff.mpr fun e there => by simpa using other e there
  cases move with
  | link acting own =>
    rw [givenBy]
    split
    · rename_i here
      subst here
      rfl
    · rename_i other
      refine silent fun e there => ?_
      simp only [emits] at there
      cases found : p.link? acting with
      | none =>
        rw [found] at there
        cases there
      | some l =>
        rw [found] at there
        have number := id_of_link? found
        rcases Link.link?_of_tells there with own | none
        · rw [own, number]
          exact fun same => other (Option.some.inj same)
        · rw [none]
          exact (Option.some_ne_none id).symm
  | finishStart found =>
    refine silent fun e there => ?_
    simp only [emits] at there
    split at there
    · cases there
    · cases found with
      | ok endpoint =>
        obtain rfl := List.mem_singleton.mp there
        exact (Option.some_ne_none id).symm
      | error e =>
        obtain rfl := List.mem_singleton.mp there
        exact (Option.some_ne_none id).symm
  | failToAccept listener cause =>
    refine silent fun e there => ?_
    simp only [emits] at there
    split at there
    · obtain rfl := List.mem_singleton.mp there
      exact (Option.some_ne_none id).symm
    · cases there
  | _ => rfl

/-- What the books of a publisher say after these moves. -/
structure KeepsBooks (start : Publisher) (moves : List Move) (p : Publisher) : Prop where
  /-- The registered links, and so their peers, are listed in the order of their registration. -/
  ordered : (p.registered.map (·.id)).Pairwise (· < ·)
  accepted : p.registered.Sublist p.links ∧ p.links.map (·.id) = List.range p.nextLink
  booked : ∀ id l, p.link? id = some l → l.Booked start.settings.queueCapacity
    (start.toldOf id moves) (start.endsOf id moves) (start.judgedOf id moves)
  retired : ∀ id l, p.link? id = some l → l.Retired
  /-- An overflow that comes before the end of a link is decided on is what the link has failed with. -/
  overflowed : ∀ id earlier later l, moves = earlier ++ later →
    (start.run earlier).link? id = some l → l.queue.overflowed = true →
      start.judgedOf id earlier = [] → ∀ flag ∈ start.judgedOf id moves, flag = true
  finishes : ∀ id l, p.link? id = some l → l.stage.isOpen = false →
    ∃ l', (p.run (List.replicate 5 (.link id .leave))).link? id = some l' ∧ l'.stage = .done
  /-- Only the link itself tells that it is connected or over. -/
  told : ∀ id, (start.toldOf id moves).Sublist (start.emittedIn moves) ∧
    (start.emittedIn moves).filter (·.link? = some id) =
      (start.toldOf id moves).filter (·.link? = some id)
  /-- An event is heard exactly if the channel has room for it when it is told. -/
  heard : (start.noticesIn moves).map (·.1) = start.emittedIn moves ∧
    start.heardIn moves ++ p.events.items = heardOf (start.noticesIn moves)

/-- After any moves the registered links are in the order of their registration, and every link has told
that it is connected at most once, that it has failed exactly if it has, and at its end that it is over.
By then it is not registered any more, and its queue is closed. -/
theorem keeps_books (callerId topic : String) (type : MessageType) (settings : PublisherSettings)
    (moves : List Move) :
    (new callerId topic type settings).KeepsBooks moves
      ((new callerId topic type settings).run moves) := by
  have numbered := (numbered_new callerId topic type settings).run moves
  have sublist := List.filter_sublist
    (p := Link.registered) (l := ((new callerId topic type settings).run moves).links)
  refine ⟨?_, ⟨sublist, numbered⟩, fun id l found => (booked_run _ _ _ _ moves found).1,
    fun id l found => (booked_run _ _ _ _ moves found).2, ?_,
    fun id l found past => done_of_leaves found past l.stage.stepsLeft_le,
    fun id => ⟨toldOf_sublist _ id moves, toldOf_filter _ id moves⟩,
    noticesIn_events _ moves, heardIn_append_items _ moves⟩
  · have ids := sublist.map (·.id)
    rw [numbered] at ids
    exact List.pairwise_lt_range.sublist ids
  · rintro id earlier later l rfl found overflowed undecided
    have later := judgedOf_overflowed found overflowed later
    rw [judgedOf] at undecided ⊢
    rw [givenIn, history_append, ← givenIn, undecided, List.nil_append]
    exact later

/-! ### Events that are late or lost -/

/-- Points for subscribers that are cut off when they fall behind. -/
def strict : Publisher :=
  new "/talker" "/points" MessageType.pointType { queueCapacity := 1, overflow := .disconnect }

/-- A subscriber says nothing, and its queue overflows when its end is decided on already. -/
def overtaken : List Move :=
  [.beginStart, .finishStart (.ok ⟨"127.0.0.1", 9000⟩), .take 0 ⟨"127.0.0.1", 40000⟩, .register 0,
    .link 0 .timeout, .link 0 .leave, .publish (pointAt 1), .publish (pointAt 2)] ++
    List.replicate 4 (.link 0 .leave)

def narrow : Publisher :=
  new "/talker" "/points" MessageType.pointType { eventCapacity := 1 }

/-- A subscriber says nothing, and all events are received before it comes and when it is gone. -/
def unheard : List Move :=
  [.beginStart, .finishStart (.ok ⟨"127.0.0.1", 9000⟩), .receive, .take 0 ⟨"127.0.0.1", 40000⟩,
    .register 0, .link 0 .timeout] ++ List.replicate 5 (.link 0 .leave) ++ [.receive, .receive]

/-- A link can fail with something else although its queue has overflowed, and the end of a link can be
lost although all events are received. -/
theorem overflow_untold :
    ((strict.run overtaken).link? 0).map (fun l => (l.stage, l.queue.overflowed)) =
        some (.done, true) ∧
      strict.toldOf 0 overtaken = [.failed (some ⟨"127.0.0.1", 40000⟩) (.timeout "subscriber handshake"),
        .disconnected 0 ⟨"127.0.0.1", 40000⟩] ∧
      ((narrow.run unheard).link? 0).map (·.stage) = some .done ∧
      narrow.heardIn unheard = [.listening ⟨"127.0.0.1", 9000⟩,
        .failed (some ⟨"127.0.0.1", 40000⟩) (.timeout "subscriber handshake")] := by
  decide +kernel

end Publisher

end TopicWire

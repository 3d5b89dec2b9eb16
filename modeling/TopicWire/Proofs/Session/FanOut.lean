import TopicWire.Proofs.Session.Bookkeeping
import TopicWire.Proofs.Session.Fifo

/-!
# Publishing to all links

A message is published to all registered links or not at all. `Publisher.fanOut` pushes a frame to one
link after the other; publishing does just that (`Publisher.publish_eq_fanOut`), and every queue of a
publisher is as pushing, popping and closing leave a new one, so it is known what each push does
(`Publisher.publish_all_or_nothing`).
-/

namespace TopicWire

/-! ### The queues of links -/

namespace SendQueue

variable {capacity : Nat} {policy : OverflowPolicy} {q : SendQueue}

/-- A queue that was new once and has since been pushed to, popped from and closed. -/
def Used (capacity : Nat) (policy : OverflowPolicy) (q : SendQueue) : Prop :=
  ∃ moves, q = (new capacity policy).run moves

theorem Used.step (used : q.Used capacity policy) (move : Move) : (q.step move).Used capacity policy := by
  obtain ⟨moves, rfl⟩ := used
  exact ⟨moves ++ [move], by rw [run, run, List.foldl_append]; rfl⟩

theorem Used.answers (used : q.Used capacity policy) (frame : Bytes) : q.Answers frame := by
  obtain ⟨moves, rfl⟩ := used
  exact (ledger_run capacity policy moves).answers frame

theorem Used.made (used : q.Used capacity policy) : q.capacity = max capacity 1 ∧ q.policy = policy := by
  obtain ⟨moves, rfl⟩ := used
  have ledger := ledger_run capacity policy moves
  exact ⟨ledger.capacity_eq, ledger.policy_eq⟩

/-- A frame will be sent if the queue is open and has room, or makes room. -/
def willSend (q : SendQueue) : Bool :=
  !q.closed && (q.policy = .dropOldest || q.frames.length < q.capacity)

theorem isQueued_push (q : SendQueue) (frame : Bytes) : (q.push frame).1.isQueued = q.willSend := by
  rcases q.push_cases frame with ⟨closed, eq, -⟩ | ⟨opened, room, eq, -⟩ | ⟨opened, policy, -, eq, -⟩ |
    ⟨opened, policy, full, eq, -⟩ <;> rw [eq, willSend]
  · rw [closed]
    rfl
  · simp [opened, room, Push.isQueued]
  · simp [opened, policy, Push.isQueued]
  · simp [opened, policy, full, Push.isQueued]

end SendQueue

section queues

variable {p : Publisher} {l l' : Link} {capacity : Nat} {policy : OverflowPolicy}

theorem Link.Own.used {move : Publisher.LinkMove} (own : l.Own p move l')
    (used : l.queue.Used capacity policy) : l'.queue.Used capacity policy := by
  cases own with
  | takes stage opened first =>
    have popped := used.step .pop
    rw [SendQueue.step, SendQueue.pop, if_neg (by rw [opened]; exact Bool.false_ne_true), first] at popped
    exact popped
  | shuts stage => exact used.step .close
  | _ => exact used

theorem Link.Change.used {move : Publisher.Move} (change : l.Change p move l')
    (used : l.queue.Used capacity policy) : l'.queue.Used capacity policy := by
  cases change with
  | @pushed m frame made =>
    rw [Publisher.pushTo]
    split
    · exact used.step (.push frame)
    · exact used
  | dismissed =>
    rw [Publisher.dismiss]
    split
    · exact used.step .close
    · exact used
  | own moved => exact moved.used used
  | _ => exact used

end queues

namespace Publisher

variable {p q : Publisher} {l : Link} {frame : Bytes} {m : Message}

theorem openingQueue_used (p : Publisher) :
    p.openingQueue.Used p.settings.queueCapacity p.settings.overflow := by
  unfold openingQueue
  cases p.latched with
  | none => exact ⟨[], rfl⟩
  | some frame =>
    refine ⟨[.push frame], ?_⟩
    rw [SendQueue.run, List.foldl_cons, SendQueue.step, SendQueue.push_new]
    rfl

/-- Every link has a queue that was made as the settings of the publisher say. -/
theorem queue_used (callerId topic : String) (type : MessageType) (settings : PublisherSettings)
    (moves : List Move) {id : Nat} (found : ((new callerId topic type settings).run moves).link? id = some l) :
    l.queue.Used settings.queueCapacity settings.overflow := by
  revert id l
  refine run_induction (motive := fun moves (p : Publisher) => ∀ {l : Link} {id : Nat}, p.link? id = some l →
    l.queue.Used settings.queueCapacity settings.overflow) (fun found => by cases found)
    (fun moves move held l' id found => ?_) moves
  have numbered := (numbered_new callerId topic type settings).run moves
  rcases link?_of_step numbered found with ⟨l, before, change⟩ | ⟨-, peer, rfl⟩
  · exact change.used (held before)
  · have used := openingQueue_used ((new callerId topic type settings).run moves)
    rwa [((new callerId topic type settings).run_alike moves).2.2.2] at used

/-! ### One link after the other -/

def pushed (frame : Bytes) (l : Link) : Link :=
  { l with queue := (l.queue.push frame).2 }

/-- Pushes a frame to the links with these ids one after the other, and counts those that will send it. -/
def fanOut (frame : Bytes) : List Nat → Nat × Publisher → Nat × Publisher
  | [], done => done
  | id :: ids, (reached, p) =>
    let queued := (p.link? id).any fun l => (l.queue.push frame).1.isQueued
    fanOut frame ids (if queued then reached + 1 else reached, p.changeLink id (pushed frame))

theorem pushTo_registered (registered : l.registered = true) : pushTo frame l = pushed frame l := by
  rw [pushTo, if_pos registered, pushed]

theorem pushTo_unregistered (unregistered : l.registered = false) : pushTo frame l = l := by
  rw [pushTo, if_neg (by rw [unregistered]; exact Bool.false_ne_true)]

theorem fanOut_eq (frame : Bytes) {ids : List Nat} (once : ids.Nodup) (reached : Nat) (p : Publisher) :
    fanOut frame ids (reached, p) =
      (reached + ids.countP fun id => (p.link? id).any (·.queue.willSend),
        { p with links := p.links.map fun l => if l.id ∈ ids then pushed frame l else l }) := by
  induction ids generalizing reached p with
  | nil => simp [fanOut]
  | cons id ids ih =>
    obtain ⟨fresh, once⟩ := List.nodup_cons.mp once
    -- The links that are still to come are as they were.
    have later :
        ids.countP (fun other => ((p.changeLink id (pushed frame)).link? other).any (·.queue.willSend)) =
          ids.countP fun other => (p.link? other).any (·.queue.willSend) := by
      refine List.countP_congr fun other member => ?_
      have apart : id ≠ other := fun same => fresh (same ▸ member)
      rw [link?_changeLink (by exact fun _ => rfl), if_neg apart]
    have links : (p.links.map fun l => if l.id = id then pushed frame l else l).map
          (fun l => if l.id ∈ ids then pushed frame l else l) =
        p.links.map fun l => if l.id ∈ id :: ids then pushed frame l else l := by
      rw [List.map_map]
      refine List.map_congr_left fun l _ => ?_
      by_cases here : l.id = id
      · have fresh : (pushed frame l).id ∉ ids := here ▸ fresh
        rw [Function.comp, if_pos here, if_neg fresh, if_pos (here ▸ List.mem_cons_self)]
      · simp [here]
    rw [fanOut, ih once, later, changeLink, links, List.countP_cons]
    simp only [SendQueue.isQueued_push]
    split <;> simp only [Prod.mk.injEq, and_true] <;> omega

theorem Numbered.link?_of_mem (numbered : p.Numbered) (member : l ∈ p.links) : p.link? l.id = some l :=
  Numbering.find?_of_mem numbered member

theorem Numbered.ascending (numbered : p.Numbered) : (p.registered.map (·.id)).Pairwise (· < ·) := by
  have ids := (List.filter_sublist (p := Link.registered) (l := p.links)).map (·.id)
  rw [numbered] at ids
  exact List.pairwise_lt_range.sublist ids

theorem registered_iff (numbered : p.Numbered) (member : l ∈ p.links) :
    l.id ∈ p.registered.map (·.id) ↔ l.registered = true := by
  constructor
  · intro there
    obtain ⟨other, listed, same⟩ := List.mem_map.mp there
    obtain ⟨member', registered⟩ := List.mem_filter.mp listed
    have found := numbered.link?_of_mem member'
    rw [same, numbered.link?_of_mem member] at found
    exact Option.some.inj found ▸ registered
  · exact fun registered => List.mem_map_of_mem (List.mem_filter.mpr ⟨member, registered⟩)

/-- Publishing pushes the frame to the registered links, one after the other. -/
theorem publish_eq_fanOut (numbered : p.Numbered) (made : p.frameOf m = .ok frame) :
    p.publish m =
      let latched := if p.settings.latching then some frame else p.latched
      let done := fanOut frame (p.registered.map (·.id)) (0, { p with latched := latched })
      (.ok done.1, done.2) := by
  have once : (p.registered.map (·.id)).Nodup := numbered.ascending.imp Nat.ne_of_lt
  have count : p.registered.countP (fun l => (l.queue.push frame).1.isQueued) =
      (p.registered.map (·.id)).countP fun id => (p.link? id).any (·.queue.willSend) := by
    rw [List.countP_map]
    refine List.countP_congr fun l listed => ?_
    rw [Function.comp, numbered.link?_of_mem (List.mem_filter.mp listed).1, Option.any_some,
      SendQueue.isQueued_push]
  have links : p.links.map (pushTo frame) =
      p.links.map fun l => if l.id ∈ p.registered.map (·.id) then pushed frame l else l := by
    refine List.map_congr_left fun l member => ?_
    by_cases registered : l.registered = true
    · rw [pushTo_registered registered, if_pos ((registered_iff numbered member).mpr registered)]
    · rw [pushTo_unregistered (Bool.not_eq_true _ ▸ registered),
        if_neg (mt (registered_iff numbered member).mp registered)]
  dsimp only
  rw [fanOut_eq frame once, publish, made, Nat.zero_add]
  dsimp only
  rw [count, links]
  rfl

theorem registered_publish (frame : Bytes) (links : List Link) :
    (links.map (pushTo frame)).filter (·.registered) = (links.filter (·.registered)).map (pushed frame) := by
  induction links with
  | nil => rfl
  | cons l links ih =>
    cases registered : l.registered with
    | true =>
      have still : (pushed frame l).registered = true := registered
      rw [List.map_cons, pushTo_registered registered, List.filter_cons_of_pos still, ih,
        List.filter_cons_of_pos registered, List.map_cons]
    | false =>
      have gone : ¬ l.registered = true := by rw [registered]; exact Bool.false_ne_true
      rw [List.map_cons, pushTo_unregistered registered, List.filter_cons_of_neg gone, ih,
        List.filter_cons_of_neg gone]

/-! ### All or nothing -/

/-- A frame has been published to this many links. -/
structure FannedOut (p : Publisher) (frame : Bytes) (reached : Nat) (q : Publisher) : Prop where
  /-- The frame was pushed to the registered links one after the other. -/
  loop : (reached, q) = fanOut frame (p.registered.map (·.id))
    (0, { p with latched := if p.settings.latching then some frame else p.latched })
  /-- They came in the order of their registration, and each once. -/
  ordered : (p.registered.map (·.id)).Pairwise (· < ·)
  made : ∀ l ∈ p.registered, l.queue.capacity = max p.settings.queueCapacity 1 ∧
    l.queue.policy = p.settings.overflow
  answers : ∀ l ∈ p.registered, l.queue.Answers frame
  /-- Those whose queue is open and has room, or has made room, are counted. -/
  counted : reached = p.registered.countP (·.queue.willSend)
  latched : q.latched = if p.settings.latching then some frame else p.latched
  /-- The same links are registered as before. -/
  registered : q.registered = p.registered.map (pushed frame)
  others : ∀ id l, p.link? id = some l → q.link? id = some (if l.registered then pushed frame l else l)
  aside : q = { p with links := q.links, latched := q.latched }

/-- When publishing fails, and what it does. -/
structure AllOrNothing (p : Publisher) (m : Message) : Prop where
  fails_iff : (∃ e, (p.publish m).1 = .error e) ↔
    p.phase = .closed ∨ (∃ v, p.type.validate m true = .error v) ∨ ∃ e, p.type.encode m = .error e
  failed : ∀ e q, p.publish m = (.error e, q) → q = p
  sent : ∀ reached q, p.publish m = (.ok reached, q) →
    ∃ frame, p.type.encode m = .ok frame ∧ p.FannedOut frame reached q

theorem frameOf_error_iff : (∃ e, p.frameOf m = .error e) ↔
    p.phase = .closed ∨ (∃ v, p.type.validate m true = .error v) ∨ ∃ e, p.type.encode m = .error e := by
  unfold frameOf
  by_cases closed : p.phase = .closed
  · simp [closed]
  · rw [if_neg closed]
    cases p.type.validate m true with
    | error v => simp [closed]
    | ok valid => cases p.type.encode m <;> simp [closed]

theorem encode_of_frameOf (made : p.frameOf m = .ok frame) : p.type.encode m = .ok frame := by
  unfold frameOf at made
  split at made
  · cases made
  · split at made
    · cases made
    · split at made
      · cases made
      · rename_i encoded
        rwa [← Except.ok.inj made]

theorem fannedOut (numbered : p.Numbered)
    (used : ∀ l ∈ p.registered, l.queue.Used p.settings.queueCapacity p.settings.overflow)
    (made : p.frameOf m = .ok frame) {reached : Nat} (sent : p.publish m = (.ok reached, q)) :
    p.FannedOut frame reached q := by
  have loop := sent.symm.trans (publish_eq_fanOut numbered made)
  have queued : p.publish m =
      (.ok (p.registered.countP fun l => (l.queue.push frame).1.isQueued), (p.publish m).2) := by
    rw [publish, made]
  obtain ⟨count, same⟩ := Prod.ext_iff.mp (sent.symm.trans queued)
  have same : q = _ := same.trans (publish_eq made)
  have links (id : Nat) : q.link? id = (p.link? id).map (pushTo frame) := by
    rw [same]
    exact Numbering.find?_map (pushTo_id frame) p.links id
  refine ⟨?_, numbered.ascending, fun l listed => (used l listed).made,
    fun l listed => (used l listed).answers frame, ?_, by rw [same], ?_, fun id l found => ?_, by rw [same]⟩
  · obtain ⟨same, other⟩ := Prod.ext_iff.mp loop
    exact Prod.ext (Except.ok.inj same) other
  · rw [Except.ok.inj count]
    simp only [SendQueue.isQueued_push]
  · rw [same]
    exact registered_publish frame p.links
  · rw [links, found, Option.map_some]
    cases registered : l.registered with
    | true => rw [pushTo_registered registered, if_pos rfl]
    | false => rw [pushTo_unregistered registered, if_neg Bool.false_ne_true]

/-- After any moves, publishing a message fails exactly if the publisher is closed or the message is not
valid or cannot be encoded, and then changes nothing. Otherwise the frame of the message is pushed once to
every registered link in the order of their registration, the links that will send it are counted, and the
frame is latched if the topic is latching. -/
theorem publish_all_or_nothing (callerId topic : String) (type : MessageType) (settings : PublisherSettings)
    (moves : List Move) (m : Message) :
    let p := (new callerId topic type settings).run moves
    p.type = type ∧ p.settings = settings ∧ p.AllOrNothing m := by
  intro p
  obtain ⟨-, -, sameType, sameSettings⟩ := (new callerId topic type settings).run_alike moves
  have numbered : p.Numbered := (numbered_new callerId topic type settings).run moves
  refine ⟨sameType, sameSettings, ?_, fun e q failed => ?_, fun reached q sent => ?_⟩
  · rw [← frameOf_error_iff, publish]
    cases p.frameOf m with
    | error e => simp
    | ok frame => simp
  · cases made : p.frameOf m with
    | error e' =>
      rw [publish, made] at failed
      exact (Prod.ext_iff.mp failed).2.symm
    | ok frame =>
      rw [publish, made] at failed
      cases (Prod.ext_iff.mp failed).1
  · cases made : p.frameOf m with
    | error e =>
      rw [publish, made] at sent
      cases (Prod.ext_iff.mp sent).1
    | ok frame =>
      refine ⟨frame, encode_of_frameOf made, fannedOut numbered (fun l listed => ?_) made sent⟩
      have found := numbered.link?_of_mem (List.mem_filter.mp listed).1
      have same : p.settings = settings := sameSettings
      rw [same]
      exact queue_used callerId topic type settings moves found

end Publisher

end TopicWire

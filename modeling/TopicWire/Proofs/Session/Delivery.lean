import TopicWire.Proofs.Frame.Reading
import TopicWire.Proofs.Session.Link
import TopicWire.Proofs.Wire.Codec

/-!
# What is written to a subscriber

Nothing is written on a link before the subscriber's header was read and agrees; from then on the
greeting is written and after it the frames, in the order in which they were published and without
those that the queue has evicted. `Link.Account` is kept by every move of the publisher
(`Link.Account.change`), and `Publisher.account_run` follows the run from the accepted connection on.
-/

namespace TopicWire

/-! ### The account of a link -/

/-- What was written, given the frames that were taken from the queue. -/
def Link.Written (greeting arrived : Bytes) (taken : List Bytes) (l : Link) : Prop :=
  match l.stage with
  | .handshake => l.sent = [] ∧ l.inbox = arrived ∧ taken = []
  | .greeting _ left => l.sent ++ left = greeting ∧ taken = []
  | .serving left => l.sent ++ left = greeting ++ taken.flatten
  | _ => l.sent <+: greeting ++ taken.flatten

/-- What has become of the frames that were offered to a link. -/
structure Link.Account (greeting : Bytes) (policy : OverflowPolicy) (arrived : Bytes)
    (offered : List Bytes) (departed : List Departure) (l : Link) : Prop where
  /-- Frames leave the queue in the order in which they were offered. -/
  waiting : departed.map Departure.frame ++ l.queue.frames <+: offered
  /-- While the link can be served, no frame is lost. -/
  whole : l.registered = true → l.queue.closed = false →
    departed.map Departure.frame ++ l.queue.frames = offered
  written : l.Written greeting arrived (departed.filterMap Departure.taken?)
  /-- The queue counts the frames that it evicts. -/
  counted : (departed.filterMap Departure.taken?).length + l.queue.dropped = departed.length
  policy_eq : l.queue.policy = policy
  room : 0 < l.queue.capacity
  kept : policy = .disconnect → l.queue.dropped = 0
  told : l.queue.Told

namespace Link

variable {p : Publisher} {l l' : Link} {greeting arrived : Bytes} {policy : OverflowPolicy}
  {offered : List Bytes} {departed : List Departure}

/-- Whatever the stage, only bytes of the greeting and of frames that were taken are written. -/
theorem Written.along {taken : List Bytes} (written : l.Written greeting arrived taken) :
    l.sent <+: greeting ++ taken.flatten := by
  unfold Written at written
  cases stage : l.stage with
  | handshake =>
    simp only [stage] at written
    rw [written.1]
    exact List.nil_prefix
  | greeting callerId left =>
    simp only [stage] at written
    rw [← written.1, List.append_assoc]
    exact List.prefix_append _ _
  | serving left =>
    simp only [stage] at written
    rw [← written]
    exact List.prefix_append _ _
  | _ =>
    simp only [stage] at written
    exact written

theorem Written.over {taken : List Bytes} (written : l.Written greeting arrived taken)
    (closed : l'.stage.isOpen = false) (sent : l'.sent = l.sent) :
    l'.Written greeting arrived taken := by
  have along := written.along
  rw [← sent] at along
  unfold Written
  cases stage : l'.stage with
  | handshake => rw [stage] at closed; cases closed
  | greeting callerId left => rw [stage] at closed; cases closed
  | serving left => rw [stage] at closed; cases closed
  | _ => exact along

/-- A step that at most closes the queue is a matter of what is written. -/
theorem Account.rewrite {arrived' : Bytes}
    (account : l.Account greeting policy arrived offered departed)
    (queue : l'.queue = l.queue ∨ l'.queue = l.queue.close)
    (registered : l'.registered = true → l.registered = true)
    (written : l'.Written greeting arrived' (departed.filterMap Departure.taken?)) :
    l'.Account greeting policy arrived' offered departed := by
  obtain ⟨waiting, whole, -, counted, policy_eq, room, kept, told⟩ := account
  rcases queue with same | closed
  · refine ⟨?_, ?_, written, ?_, ?_, ?_, ?_, ?_⟩ <;> rw [same] <;> try assumption
    intro r opened
    exact whole (registered r) opened
  · refine ⟨?_, ?_, written, ?_, ?_, ?_, ?_, ?_⟩ <;> rw [closed] <;> try assumption
    · intro _ opened
      cases opened
    · exact l.queue.told_close

theorem Account.over (account : l.Account greeting policy arrived offered departed)
    (closed : l'.stage.isOpen = false) (sent : l'.sent = l.sent)
    (queue : l'.queue = l.queue ∨ l'.queue = l.queue.close)
    (registered : l'.registered = true → l.registered = true) :
    l'.Account greeting policy arrived offered departed :=
  account.rewrite queue registered (account.written.over closed sent)

theorem Account.own (account : l.Account p.greeting.encode policy arrived offered departed)
    {move : Publisher.LinkMove} (own : l.Own p move l') :
    l'.Account p.greeting.encode policy arrived offered (departed ++ l.hands move) := by
  have quiet (still : l.hands move = [])
      (account : l'.Account p.greeting.encode policy arrived offered departed) :
      l'.Account p.greeting.encode policy arrived offered (departed ++ l.hands move) := by
    rw [still, List.append_nil]
    exact account
  have written := account.written
  unfold Written at written
  cases own with
  | rests still silent => exact quiet still account
  | greets stage ready read agrees =>
    simp only [stage] at written
    refine quiet rfl (account.rewrite (.inl rfl) (fun r => r) ?_)
    simp only [Written, written.1, List.nil_append, written.2.2, and_self]
  | refuses stage ready wrong => exact quiet rfl (account.over rfl rfl (.inl rfl) fun r => r)
  | @greetsOn count callerId left stage more =>
    simp only [stage] at written
    refine quiet rfl (account.rewrite (.inl rfl) (fun r => r) ?_)
    simp only [Written, List.append_assoc, List.take_append_drop, written.1, written.2, and_self]
  | @connects count callerId left stage all =>
    simp only [stage] at written
    have whole := List.take_of_length_le (List.drop_eq_nil_iff.mp all)
    refine quiet rfl (account.rewrite (.inl rfl) (fun r => r) ?_)
    simp only [Written, written.2, whole, List.append_nil, List.flatten_nil, written.1]
  | @serves count left stage =>
    simp only [stage] at written
    refine quiet rfl (account.rewrite (.inl rfl) (fun r => r) ?_)
    simp only [Written, List.append_assoc, List.take_append_drop, written]
  | @takes frame rest stage opened first =>
    simp only [stage, List.append_nil] at written
    have given : l.hands .next = [.taken frame] := by
      rw [hands, if_pos stage, SendQueue.hands, SendQueue.pop, first, opened]
      rfl
    have moved : (departed ++ [Departure.taken frame]).map Departure.frame ++ rest =
        departed.map Departure.frame ++ l.queue.frames := by
      rw [first, List.map_append, List.append_assoc]
      rfl
    have more : (departed ++ [Departure.taken frame]).filterMap Departure.taken? =
        departed.filterMap Departure.taken? ++ [frame] := List.filterMap_append
    rw [given]
    constructor
    · rw [moved]
      exact account.waiting
    · intro registered _
      rw [moved]
      exact account.whole registered opened
    · simp only [Written, more, List.flatten_append, written]
      rw [List.flatten_cons, List.flatten_nil, List.append_nil, List.append_assoc]
    · rw [more, List.length_append, List.length_append, ← account.counted]
      simp only [List.length_cons, List.length_nil]
      omega
    · exact account.policy_eq
    · exact account.room
    · exact account.kept
    · exact account.told
  | stops working still silent reason => exact quiet still (account.over rfl rfl (.inl rfl) fun r => r)
  | fails working still silent reason => exact quiet still (account.over rfl rfl (.inl rfl) fun r => r)
  | judges stage => exact quiet rfl (account.over rfl rfl (.inl rfl) fun r => r)
  | deregisters stage => exact quiet rfl (account.over rfl rfl (.inl rfl) (fun no => by cases no))
  | shuts stage => exact quiet rfl (account.over rfl rfl (.inr rfl) fun r => r)
  | reports stage => exact quiet rfl (account.over rfl rfl (.inl rfl) fun r => r)
  | finishes stage => exact quiet rfl (account.over rfl rfl (.inl rfl) fun r => r)

theorem Account.pushed (account : l.Account greeting policy arrived offered departed)
    (registered : l.registered = true) (frame : Bytes) :
    { l with queue := (l.queue.push frame).2 }.Account greeting policy arrived (offered ++ [frame])
      (departed ++ l.queue.evicts frame) := by
  obtain ⟨samePolicy, sameCapacity⟩ := l.queue.push_keeps frame
  have none : (departed ++ l.queue.evicts frame).filterMap Departure.taken? =
      departed.filterMap Departure.taken? := by
    rw [List.filterMap_append, l.queue.evicts_taken frame, List.append_nil]
  constructor
  · rw [List.map_append, List.append_assoc]
    cases closed : l.queue.closed with
    | true =>
      have before := account.waiting.trans (List.prefix_append offered [frame])
      rcases l.queue.push_cases frame with ⟨-, eq, none⟩ | ⟨opened, -⟩ | ⟨opened, -⟩ | ⟨opened, -⟩
      · rw [eq, none]
        exact before
      all_goals rw [closed] at opened; cases opened
    | false =>
      rw [← account.whole registered closed, List.append_assoc]
      exact (List.prefix_append_right_inj _).mpr (l.queue.push_along frame)
  · intro _ opened
    rw [List.map_append, List.append_assoc, SendQueue.push_whole opened, ← List.append_assoc,
      account.whole registered (SendQueue.closed_of_push opened)]
  · rw [none]
    exact account.written
  · rw [none, List.length_append, ← account.counted]
    rw [SendQueue.push_dropped account.room, Nat.add_assoc]
  · rw [samePolicy, account.policy_eq]
  · rw [sameCapacity]
    exact account.room
  · intro disconnect
    have evicts : l.queue.evicts frame = [] :=
      SendQueue.evicts_of_disconnect (account.policy_eq.trans disconnect)
    rw [SendQueue.push_dropped account.room, evicts, account.kept disconnect]
    rfl
  · exact account.told.push frame

theorem Account.missed (account : l.Account greeting policy arrived offered departed)
    (gone : l.registered = false) (frame : Bytes) :
    l.Account greeting policy arrived (offered ++ [frame]) departed :=
  { account with
    waiting := account.waiting.trans (List.prefix_append _ _)
    whole := fun registered _ => by rw [gone] at registered; cases registered }

theorem Written.arrives {taken : List Bytes} (written : l.Written greeting arrived taken)
    (bytes : Bytes) :
    { l with inbox := l.inbox ++ bytes }.Written greeting (arrived ++ bytes) taken := by
  unfold Written at written ⊢
  cases stage : l.stage with
  | handshake =>
    simp only [stage] at written ⊢
    exact ⟨written.1, by rw [written.2.1], written.2.2⟩
  | _ =>
    simp only [stage] at written ⊢
    exact written

theorem Account.change (account : l.Account p.greeting.encode policy arrived offered departed)
    (found : p.link? l.id = some l) {move : Publisher.Move} (change : l.Change p move l') :
    l'.Account p.greeting.encode policy (arrived ++ Publisher.brings l.id move)
      (offered ++ p.published move) (departed ++ p.departs l.id move) := by
  -- Most moves bring, publish or take nothing.
  have quiet {arrived' : Bytes} (brings : arrived' = arrived ++ Publisher.brings l.id move)
      (published : p.published move = []) (departs : p.departs l.id move = [])
      (account : l'.Account p.greeting.encode policy arrived' offered departed) :
      l'.Account p.greeting.encode policy (arrived ++ Publisher.brings l.id move)
        (offered ++ p.published move) (departed ++ p.departs l.id move) := by
    rw [← brings, published, departs, List.append_nil, List.append_nil]
    exact account
  cases change with
  | left other =>
    refine quiet ?_ ?_ ?_ account
    · cases move <;> simp_all [Publisher.Move.leaves, Publisher.brings]
    · cases move <;> simp_all [Publisher.Move.leaves, Publisher.published]
    · cases move <;> simp_all [Publisher.Move.leaves, Publisher.departs]
  | @unsent m e refused =>
    have published : p.published (.publish m) = [] := by
      rw [Publisher.published, refused]
      rfl
    refine quiet (List.append_nil _).symm published ?_ account
    simp only [Publisher.departs, found, published, List.flatMap_nil, ite_self]
  | @pushed m frame made =>
    have published : p.published (.publish m) = [frame] := by
      rw [Publisher.published, made]
      rfl
    have departs : p.departs l.id (.publish m) = if l.registered then l.queue.evicts frame else [] := by
      simp only [Publisher.departs, found, published, List.flatMap_cons, List.flatMap_nil, List.append_nil]
    rw [published, departs, show Publisher.brings _ (.publish m) = [] from rfl, List.append_nil,
      Publisher.pushTo]
    cases registered : l.registered with
    | true =>
      have account := account.pushed registered frame
      rw [registered] at account
      exact account
    | false =>
      rw [if_neg Bool.false_ne_true, if_neg Bool.false_ne_true, List.append_nil]
      exact account.missed registered frame
  | @arrives bytes =>
    have brings : Publisher.brings l.id (.arrive l.id bytes) = bytes := if_pos rfl
    refine quiet (by rw [brings]) rfl (by simp only [Publisher.departs, found]) ?_
    exact account.rewrite (.inl rfl) (fun r => r) (account.written.arrives bytes)
  | hangsUp =>
    refine quiet (List.append_nil _).symm rfl (by simp only [Publisher.departs, found]) ?_
    exact account.rewrite (.inl rfl) (fun r => r) account.written
  | dismissed =>
    refine quiet (List.append_nil _).symm rfl (by simp only [Publisher.departs, found]) ?_
    rw [Publisher.dismiss]
    split
    · exact account.rewrite (.inr rfl) (fun no => by cases no) account.written
    · exact account
  | @own move l' own =>
    have departs : p.departs l.id (.link l.id move) = l.hands move := by
      simp only [Publisher.departs, found, if_pos]
    rw [departs, show Publisher.brings _ (.link l.id move) = [] from rfl,
      show p.published (.link l.id move) = [] from rfl, List.append_nil, List.append_nil]
    exact account.own own

/-! ### The frames that are delivered -/

theorem Account.along (account : l.Account greeting policy arrived offered departed) :
    departed.map Departure.frame <+: offered :=
  (List.prefix_append _ _).trans account.waiting

theorem Account.split (account : l.Account greeting policy arrived offered departed) :
    departed.map Departure.frame ++ offered.drop departed.length = offered := by
  have all := List.prefix_iff_eq_append.mp account.along
  rwa [List.length_map] at all

theorem Account.sent_along (account : l.Account greeting policy arrived offered departed) :
    l.sent <+: greeting ++
      (departed.filterMap Departure.taken? ++ offered.drop departed.length).flatten := by
  refine account.written.along.trans ?_
  rw [List.flatten_append, ← List.append_assoc]
  exact List.prefix_append _ _

/-- What is not evicted is delivered, in order and once. -/
theorem Account.delivered_sublist (account : l.Account greeting policy arrived offered departed) :
    (departed.filterMap Departure.taken? ++ offered.drop departed.length).Sublist offered := by
  have kept := (Departure.taken_sublist departed).append_right (offered.drop departed.length)
  rwa [account.split] at kept

theorem Account.delivered_eq (account : l.Account greeting .disconnect arrived offered departed) :
    departed.filterMap Departure.taken? ++ offered.drop departed.length = offered := by
  have counted := account.counted
  rw [account.kept rfl, Nat.add_zero] at counted
  rw [Departure.taken_eq_of_length counted, account.split]

/-! ### How a link begins -/

def Begun (l : Link) : Prop :=
  l.sent ≠ [] ∨ l.stage.isOpen = true ∧ l.stage ≠ .handshake

theorem Own.begun {move : Publisher.LinkMove} (own : l.Own p move l') (begun : l'.Begun) :
    l.Begun ∨ move = .readHeader ∧ l.stage = .handshake ∧
      ∃ header, l.header = .ok header ∧ header.agrees p.type.digest = true := by
  have already {stage : LinkStage} (same : l.stage = stage) (opened : stage.isOpen = true)
      (other : stage ≠ .handshake) : l.Begun := by
    subst same
    exact .inr ⟨opened, other⟩
  cases own with
  | rests still silent => exact .inl begun
  | greets stage ready read agrees => exact .inr ⟨rfl, stage, _, read, agrees⟩
  | greetsOn stage more => exact .inl (already stage rfl LinkStage.noConfusion)
  | connects stage all => exact .inl (already stage rfl LinkStage.noConfusion)
  | serves stage => exact .inl (already stage rfl LinkStage.noConfusion)
  | takes stage opened first => exact .inl (already stage rfl LinkStage.noConfusion)
  | _ =>
    rcases begun with sent | ⟨opened, -⟩
    · exact .inl (.inl sent)
    · cases opened

theorem Change.begun {move : Publisher.Move} (change : l.Change p move l') (begun : l'.Begun) :
    l.Begun ∨ move = .link l.id .readHeader ∧ l.stage = .handshake ∧
      ∃ header, l.header = .ok header ∧ header.agrees p.type.digest = true := by
  rcases change.own_or_kept with ⟨own, rfl, moved⟩ | ⟨-, -, -, stage, sent⟩
  · rcases moved.begun begun with already | ⟨rfl, rest⟩
    · exact .inl already
    · exact .inr ⟨rfl, rest⟩
  · rw [Begun, stage, sent] at begun
    exact .inl begun

end Link

namespace Publisher

variable {callerId topic : String} {type : MessageType} {settings : PublisherSettings} {id : Nat}

theorem latched_run (callerId topic : String) (type : MessageType) (settings : PublisherSettings)
    (moves : List Move) :
    ((new callerId topic type settings).run moves).latched =
      if settings.latching then ((new callerId topic type settings).publishedIn moves).getLast?
      else none := by
  refine run_induction (motive := fun moves (p : Publisher) => p.latched =
    if settings.latching then ((new callerId topic type settings).publishedIn moves).getLast? else none)
    (ite_self _).symm (fun moves move held => ?_) moves
  obtain ⟨-, -, -, same⟩ := (new callerId topic type settings).run_alike moves
  change (step (run _ moves) move).latched = _
  rw [(step_change _ move).latched_eq, same, publishedIn_snoc]
  change latched (run _ moves) = _ at held
  rw [held]
  cases latching : settings.latching with
  | false => simp [new, latching]
  | true => simp [new, latching]

/-- A subscriber's header was read, and agrees. Nothing had been written by then. -/
def Welcomed (p : Publisher) (id : Nat) (moves : List Move) (header : Header) : Prop :=
  ∃ earlier later l, moves = earlier ++ .link id .readHeader :: later ∧
    (p.run earlier).link? id = some l ∧ l.sent = [] ∧
    (Frame.readHeader Frame.maxSize [.bytes (arrived id earlier)]).1 = .ok header ∧
    header.agrees p.type.digest = true

theorem Welcomed.snoc {p : Publisher} {moves : List Move} {header : Header}
    (welcomed : p.Welcomed id moves header) (move : Move) : p.Welcomed id (moves ++ [move]) header := by
  obtain ⟨earlier, later, l, rfl, rest⟩ := welcomed
  exact ⟨earlier, later ++ [move], l, by rw [List.append_assoc, List.cons_append], rest⟩

theorem welcomed_of_read {q : Publisher} {moves : List Move} {l : Link} {header : Header}
    {greeting : Bytes} {policy : OverflowPolicy} {offered : List Bytes} {departed : List Departure}
    (found : (q.run moves).link? id = some l)
    (account : l.Account greeting policy (arrived id moves) offered departed)
    (stage : l.stage = .handshake) (read : l.header = .ok header)
    (agrees : header.agrees (q.run moves).type.digest = true) :
    q.Welcomed id (moves ++ [.link id .readHeader]) header := by
  have written := account.written
  simp only [Link.Written, stage] at written
  refine ⟨moves, [], l, rfl, found, written.1, ?_, ?_⟩
  · rw [← written.2.1]
    exact read
  · rw [← (q.run_alike moves).2.2.1]
    exact agrees

theorem account_run {p : Publisher} (numbered : p.Numbered) {listener : Nat} {peer : Endpoint}
    (taken : p.taken? listener = some peer) (after : List Move) :
    ∃ l, ((p.step (.register listener)).run after).link? p.nextLink = some l ∧
      l.Account p.greeting.encode p.settings.overflow (arrived p.nextLink after)
        (p.latched.toList ++ (p.step (.register listener)).publishedIn after)
        ((p.step (.register listener)).departures p.nextLink after) ∧
      (l.Begun → ∃ header, (p.step (.register listener)).Welcomed p.nextLink after header) := by
  generalize registered : p.step (.register listener) = q
  have alike : p.Alike q := registered ▸ p.step_alike _
  refine run_induction (motive := fun after (r : Publisher) => ∃ l, r.link? p.nextLink = some l ∧
      l.Account p.greeting.encode p.settings.overflow (arrived p.nextLink after)
        (p.latched.toList ++ q.publishedIn after) (q.departures p.nextLink after) ∧
      (l.Begun → ∃ header, q.Welcomed p.nextLink after header)) ?_ (fun moves move held => ?_) after
  · refine ⟨_, registered ▸ link?_register numbered taken, ?_, ?_⟩
    · refine ⟨?_, fun _ _ => ?_, ⟨rfl, rfl, rfl⟩, rfl, rfl, Nat.le_max_right _ _, fun _ => rfl, rfl⟩
      · exact List.prefix_append p.latched.toList []
      · rw [publishedIn, history, List.append_nil]
        rfl
    · rintro (sent | ⟨-, stage⟩)
      · exact absurd rfl sent
      · exact absurd rfl stage
  · obtain ⟨l, found, account, welcomed⟩ := held
    change (q.run moves).link? p.nextLink = some l at found
    have id := id_of_link? found
    have running := alike.trans (q.run_alike moves)
    obtain ⟨l', found', change⟩ := link?_step found move
    refine ⟨l', found', ?_, fun begun => ?_⟩
    · rw [arrived_snoc, publishedIn_snoc, departures_snoc, ← List.append_assoc]
      rw [← running.greeting, ← id] at account ⊢
      exact account.change (id.symm ▸ found) change
    · rcases change.begun begun with already | ⟨rfl, stage, header, read, agrees⟩
      · obtain ⟨header, welcomed⟩ := welcomed already
        exact ⟨header, welcomed.snoc move⟩
      · rw [id]
        exact ⟨header, welcomed_of_read found account stage read agrees⟩

theorem Welcomed.read {p : Publisher} {moves : List Move} {header : Header}
    (welcomed : p.Welcomed id moves header) :
    (Frame.readHeader Frame.maxSize [.bytes (arrived id moves)]).1 = .ok header ∧
      header.agrees p.type.digest = true := by
  obtain ⟨earlier, later, l, rfl, -, -, read, agrees⟩ := welcomed
  refine ⟨?_, agrees⟩
  have more : arrived id (earlier ++ .link id .readHeader :: later) =
      arrived id earlier ++ arrived id later := by
    rw [arrived, List.flatMap_append, List.flatMap_cons]
    rfl
  rw [more]
  exact Frame.readHeader_append read _

/-- For a connection that is registered in any run, let the offered frames be the one latched at that
moment and those published since. What is written is the beginning of the greeting and the offered
frames without the evicted ones; and nothing is written before a header was read that agrees. -/
theorem delivers_in_order (callerId topic : String) (type : MessageType) (settings : PublisherSettings)
    (before after : List Move) (listener : Nat) (peer : Endpoint) :
    let start := new callerId topic type settings
    let p := start.run before
    let registered := p.step (.register listener)
    let id := p.nextLink
    let latched := if settings.latching then (start.publishedIn before).getLast?.toList else []
    let offered := latched ++ registered.publishedIn after
    let departed := registered.departures id after
    let delivered := departed.filterMap Departure.taken? ++ offered.drop departed.length
    p.taken? listener = some peer → ∃ l, (start.run (before ++ .register listener :: after)).link? id = some l ∧
      (l.sent ≠ [] → ∃ header, registered.Welcomed id after header) ∧
      ((∀ header, (Frame.readHeader Frame.maxSize [.bytes (arrived id after)]).1 = .ok header →
        header.agrees type.digest = false) → l.sent = []) ∧
      departed.map Departure.frame <+: offered ∧
      l.sent <+: start.greeting.encode ++ delivered.flatten ∧
      delivered.Sublist offered ∧
      (settings.overflow = .disconnect → delivered = offered) := by
  intro start p registered id latched offered departed delivered taken
  have numbered : p.Numbered := (numbered_new callerId topic type settings).run before
  have alike : start.Alike p := start.run_alike before
  obtain ⟨l, found, account, welcomed⟩ := account_run numbered taken after
  have first : p.latched.toList = latched := by
    rw [show p.latched = _ from latched_run callerId topic type settings before]
    simp only [latched]
    split <;> rfl
  rw [first, alike.greeting, alike.2.2.2] at account
  refine ⟨l, ?_, fun sent => welcomed (.inl sent), fun wrong => ?_, account.along, account.sent_along,
    account.delivered_sublist, fun disconnect => ?_⟩
  · rw [run_append]
    exact found
  · refine Classical.byContradiction fun sent => ?_
    obtain ⟨header, welcomed⟩ := welcomed (.inl sent)
    obtain ⟨read, agrees⟩ := welcomed.read
    have same : registered.type = type := (alike.trans (p.step_alike _)).2.2.1
    rw [same, wrong header read] at agrees
    cases agrees
  · rw [show start.settings.overflow = .disconnect from disconnect] at account
    exact account.delivered_eq

/-! ### A slow subscriber -/

/-- Points on a topic that keeps the last one, with room for one frame a subscriber. -/
def points : Publisher :=
  new "/talker" "/points" MessageType.pointType { queueCapacity := 1, latching := true }

def pointAt (x : Int32) : Message :=
  ⟨"", [("x", .int32 x)]⟩

def opening : List Move :=
  [.beginStart, .finishStart (.ok ⟨"127.0.0.1", 9000⟩), .publish (pointAt 1),
    .take 0 ⟨"127.0.0.1", 40000⟩]

/-- A subscriber of any type is greeted after a second point has taken the place of the first. -/
def serving : List Move :=
  [.arrive 0 { digest := some Header.wildcard : Header }.encode, .publish (pointAt 2),
    .link 0 .readHeader, .link 0 (.write 1000), .link 0 .next, .link 0 (.write 1000)]

theorem points_delivered :
    (points.run opening).taken? 0 = some ⟨"127.0.0.1", 40000⟩ ∧
      ((points.run opening).step (.register 0)).departures 0 serving =
        [.evicted [4, 0, 0, 0, 1, 0, 0, 0], .taken [4, 0, 0, 0, 2, 0, 0, 0]] ∧
      ∃ l, (points.run (opening ++ .register 0 :: serving)).link? 0 = some l ∧
        l.sent ≠ [] ∧ l.sent <+: points.greeting.encode ++ [4, 0, 0, 0, 2, 0, 0, 0] := by
  have taken : (points.run opening).taken? 0 = some ⟨"127.0.0.1", 40000⟩ := by decide +kernel
  have number : (points.run opening).nextLink = 0 := by decide +kernel
  have departed : ((points.run opening).step (.register 0)).departures 0 serving =
      [.evicted [4, 0, 0, 0, 1, 0, 0, 0], .taken [4, 0, 0, 0, 2, 0, 0, 0]] := by decide +kernel
  have offered : (points.publishedIn opening).getLast?.toList ++
      ((points.run opening).step (.register 0)).publishedIn serving =
        [[4, 0, 0, 0, 1, 0, 0, 0], [4, 0, 0, 0, 2, 0, 0, 0]] := by decide +kernel
  have written : ((points.run (opening ++ .register 0 :: serving)).link? 0).all
      (·.sent ≠ []) = true := by decide +kernel
  obtain ⟨l, found, -, -, -, along, -⟩ := delivers_in_order "/talker" "/points" MessageType.pointType
    { queueCapacity := 1, latching := true } opening serving 0 ⟨"127.0.0.1", 40000⟩ taken
  rw [← points, number] at found along
  rw [if_pos rfl, offered, departed] at along
  refine ⟨taken, departed, l, found, ?_, along⟩
  rw [found] at written
  exact of_decide_eq_true written

end Publisher

end TopicWire

import TopicWire.Proofs.Session.Steady

/-!
# The messages behind the frames

A publisher offers frames to its links; `Publisher.publishedIn_eq` and `Encounter.offers` say which
messages they carry.
-/

namespace TopicWire

def MessageType.bodyOf (type : MessageType) (m : Message) : Bytes :=
  (type.writeAt m "").bytes

/-- A message that is valid and complete. -/
structure MessageType.Sendable (type : MessageType) (m : Message) : Prop where
  valid : type.validate m true = .ok ()
  complete : type.writeAt m "" = .ofBytes (type.bodyOf m)

namespace Publisher

variable {p : Publisher} {m : Message} {frame : Bytes}

theorem frameOf_ok (made : p.frameOf m = .ok frame) :
    p.type.Sendable m ∧ frame = Frame.framed (p.type.bodyOf m) := by
  unfold frameOf at made
  split at made
  · cases made
  · split at made
    · cases made
    · rename_i valid
      split at made
      · cases made
      · rename_i bytes encoded
        obtain rfl := Except.ok.inj made
        obtain ⟨body, written, -, rfl⟩ := MessageType.encode_ok_iff.mp encoded
        have same : p.type.bodyOf m = body := by rw [MessageType.bodyOf, written]; rfl
        exact ⟨⟨valid, by rw [same, written]⟩, by rw [same, Frame.framed]⟩

def sends (p : Publisher) : Move → List Message
  | .publish m => if (p.frameOf m).toOption.isSome then [m] else []
  | _ => []

def sentIn (p : Publisher) (moves : List Move) : List Message :=
  history step sends p moves

theorem sentIn_snoc (p : Publisher) (moves : List Move) (move : Move) :
    p.sentIn (moves ++ [move]) = p.sentIn moves ++ (p.run moves).sends move :=
  history_snoc p moves move

theorem published_eq (p : Publisher) (move : Move) :
    p.published move = (p.sends move).map (fun m => Frame.framed (p.type.bodyOf m)) ∧
      ∀ m ∈ p.sends move, p.type.Sendable m := by
  cases move with
  | publish m =>
    rw [published, sends]
    cases made : p.frameOf m with
    | error e => exact ⟨rfl, List.forall_mem_nil _⟩
    | ok frame =>
      obtain ⟨sendable, rfl⟩ := frameOf_ok made
      refine ⟨rfl, fun m' there => ?_⟩
      obtain rfl := List.mem_singleton.mp there
      exact sendable
  | _ => exact ⟨rfl, List.forall_mem_nil _⟩

theorem publishedIn_eq (p : Publisher) (moves : List Move) :
    p.publishedIn moves = (p.sentIn moves).map (fun m => Frame.framed (p.type.bodyOf m)) ∧
      ∀ m ∈ p.sentIn moves, p.type.Sendable m := by
  induction moves using List.reverseRecOn with
  | nil => exact ⟨rfl, List.forall_mem_nil _⟩
  | append_singleton moves move ih =>
    have last := (p.run moves).published_eq move
    rw [(p.run_alike moves).2.2.1] at last
    rw [publishedIn_snoc, sentIn_snoc, List.map_append, ih.1, last.1]
    refine ⟨rfl, fun m there => ?_⟩
    rcases List.mem_append.mp there with before | now
    · exact ih.2 m before
    · exact last.2 m now

end Publisher

namespace Encounter

variable (e : Encounter) (after : List Exchange.Move)

/-- The message that is latched when the subscriber joins. -/
def kept : Option Message :=
  if e.start.publisher.settings.latching then
    (e.start.publisher.sentIn (e.start.publisherRun e.before)).getLast?
  else none

/-- The messages for the subscriber: the latched one and those published since. -/
def messages : List Message :=
  e.kept.toList ++ e.accepted.sentIn (e.publisherMoves after)

variable {e after}

theorem met_publisher (e : Encounter) :
    e.met.publisher = e.start.publisher.run (e.start.publisherRun e.before) :=
  Exchange.run_publisher ..

theorem met_alike (e : Encounter) : e.start.publisher.Alike e.met.publisher := by
  rw [met_publisher]
  exact Publisher.run_alike ..

theorem accepted_alike (e : Encounter) : e.start.publisher.Alike e.accepted :=
  e.met_alike.trans e.accepting

theorem published_eq (e : Encounter) (after : List Exchange.Move) :
    e.start.publisher.publishedIn (e.start.publisherRun (e.before ++ .join e.number :: after)) =
      e.start.publisher.publishedIn (e.start.publisherRun e.before) ++
        e.accepted.publishedIn (e.publisherMoves after) := by
  have moves : e.start.publisherRun (e.before ++ .join e.number :: after) =
      e.start.publisherRun e.before ++
        (Exchange.acceptMoves e.listener e.number ++ e.publisherMoves after) := by
    rw [Exchange.publisherRun, history_append, history]
    refine congrArg (_ ++ ·) ?_
    show e.met.publisherMoves (.join e.number) ++ _ = _
    rw [met, (Exchange.step_join e.dials).1]
    rfl
  rw [moves, Publisher.publishedIn, history_append]
  refine congrArg (_ ++ ·) ?_
  rw [accepted, taking, met_publisher]
  rfl

theorem mem_of_kept {m : Message} (kept : e.kept = some m) :
    m ∈ e.start.publisher.sentIn (e.start.publisherRun e.before) := by
  rw [Encounter.kept] at kept
  split at kept
  · exact List.mem_of_getLast? kept
  · cases kept

theorem latched_eq (e : Encounter) : e.met.publisher.latched =
    e.kept.map fun m => Frame.framed (e.start.publisher.type.bodyOf m) := by
  obtain ⟨callerId, topic, type, settings, start⟩ := e.fresh.publisher
  rw [met_publisher, kept, start, Publisher.latched_run, (Publisher.publishedIn_eq _ _).1,
    List.getLast?_map]
  show (if settings.latching then _ else none) = Option.map _ (if settings.latching then _ else none)
  split <;> rfl

theorem offered_eq (e : Encounter) (after : List Exchange.Move) : e.offered after =
    (e.messages after).map fun m => Frame.framed (e.start.publisher.type.bodyOf m) := by
  rw [offered, latched_eq, messages, List.map_append, (e.accepted.publishedIn_eq _).1,
    e.accepted_alike.2.2.1]
  cases e.kept <;> rfl

theorem messages_sendable (e : Encounter) (after : List Exchange.Move) :
    ∀ m ∈ e.messages after, e.start.publisher.type.Sendable m := by
  intro m there
  rcases List.mem_append.mp there with kept | since
  · exact (Publisher.publishedIn_eq _ _).2 m (mem_of_kept (Option.mem_toList.mp kept))
  · have sendable := (e.accepted.publishedIn_eq _).2 m since
    rwa [e.accepted_alike.2.2.1] at sendable

theorem offered_subset (e : Encounter) (after : List Exchange.Move) : e.offered after ⊆
    e.start.publisher.publishedIn (e.start.publisherRun (e.before ++ .join e.number :: after)) := by
  intro frame there
  rw [published_eq]
  rcases List.mem_append.mp there with latched | since
  · refine List.mem_append_left _ ?_
    rw [latched_eq] at latched
    obtain ⟨m, kept, rfl⟩ := Option.map_eq_some_iff.mp (Option.mem_toList.mp latched)
    rw [(Publisher.publishedIn_eq _ _).1]
    exact List.mem_map_of_mem (mem_of_kept kept)
  · exact List.mem_append_right _ since

/-- The frames for the subscriber carry the messages for it. -/
theorem offers (e : Encounter) {after : List Exchange.Move}
    (small : ∀ frame ∈ e.start.publisher.publishedIn
      (e.start.publisherRun (e.before ++ .join e.number :: after)), frame.length ≤ 4 + Frame.maxSize) :
    e.Offers after ((e.messages after).map e.start.publisher.type.bodyOf) := by
  refine ⟨by rw [offered_eq, List.map_map]; rfl, fun body there => ?_⟩
  obtain ⟨m, member, rfl⟩ := List.mem_map.mp there
  have short := small (Frame.framed (e.start.publisher.type.bodyOf m)) (e.offered_subset after (by
    rw [offered_eq]
    exact List.mem_map_of_mem member))
  rw [Frame.length_framed] at short
  omega

end Encounter

end TopicWire

import TopicWire.Proofs.Session.Delivery

/-!
# When a subscriber is announced

A publisher tells that a link is connected exactly when the whole greeting is written, with the caller
id that it has read on the link.
-/

namespace TopicWire

/-- A link is connected for the listeners of the publisher if its greeting is written. -/
structure Link.Announced (greeting : Bytes) (welcomed : Header → Prop) (told : List PublisherEvent)
    (l : Link) : Prop where
  greeted : ∀ callerId left, l.stage = .greeting callerId left →
    left ≠ [] ∧ ∃ header, welcomed header ∧ header.callerId = callerId
  served : ∀ left, l.stage = .serving left → greeting <+: l.sent
  connected : greeting <+: l.sent → ∃ callerId, .connected l.id l.peer callerId ∈ told
  written : ∀ peer callerId, .connected l.id peer callerId ∈ told →
    greeting <+: l.sent ∧ ∃ header, welcomed header ∧ header.callerId = callerId

namespace Link

variable {p : Publisher} {l l' : Link} {greeting : Bytes} {welcomed welcomed' : Header → Prop}
  {told : List PublisherEvent}

theorem Announced.mono (announced : l.Announced greeting welcomed told)
    (more : ∀ header, welcomed header → welcomed' header) : l.Announced greeting welcomed' told := by
  refine ⟨fun callerId left stage => ?_, announced.served, announced.connected, fun peer callerId there => ?_⟩
  · obtain ⟨some, header, was, same⟩ := announced.greeted callerId left stage
    exact ⟨some, header, more header was, same⟩
  · obtain ⟨written, header, was, same⟩ := announced.written peer callerId there
    exact ⟨written, header, more header was, same⟩

theorem Announced.keep (announced : l.Announced greeting welcomed told) (sent : l'.sent = l.sent)
    (id : l'.id = l.id) (peer : l'.peer = l.peer)
    (stage : l'.stage = l.stage ∨ l'.stage.isOpen = false) : l'.Announced greeting welcomed told := by
  constructor
  · intro callerId left now
    rcases stage with same | closed
    · exact announced.greeted callerId left (same.symm.trans now)
    · rw [now] at closed
      cases closed
  · intro left now
    rw [sent]
    rcases stage with same | closed
    · exact announced.served left (same.symm.trans now)
    · rw [now] at closed
      cases closed
  · rw [sent, id, peer]
    exact announced.connected
  · rw [sent, id]
    exact announced.written

theorem Announced.others (announced : l.Announced greeting welcomed told) {events : List PublisherEvent}
    (other : ∀ peer callerId, .connected l.id peer callerId ∉ events) :
    l.Announced greeting welcomed (told ++ events) := by
  refine ⟨announced.greeted, announced.served, fun written => ?_, fun peer callerId there => ?_⟩
  · obtain ⟨callerId, there⟩ := announced.connected written
    exact ⟨callerId, List.mem_append_left _ there⟩
  · rcases List.mem_append.mp there with before | now
    · exact announced.written peer callerId before
    · exact absurd now (other peer callerId)

theorem not_greeted {left : Bytes} (more : left ≠ []) (sent : l.sent ++ left = greeting) :
    ¬ greeting <+: l.sent := by
  intro whole
  have := whole.length_le
  rw [← sent, List.length_append] at this
  exact more (List.length_eq_zero_iff.mp (by omega))

theorem Announced.own (announced : l.Announced p.greeting.encode welcomed told)
    (writing : ∀ callerId left, l.stage = .greeting callerId left → l.sent ++ left = p.greeting.encode)
    {move : Publisher.LinkMove} (own : l.Own p move l')
    (reads : ∀ header, move = .readHeader → l.stage = .handshake → l.header = .ok header →
      header.agrees p.type.digest = true → welcomed header) :
    l'.Announced p.greeting.encode welcomed (told ++ l.tells move) := by
  have quiet (silent : l.tells move = []) (announced : l'.Announced p.greeting.encode welcomed told) :
      l'.Announced p.greeting.encode welcomed (told ++ l.tells move) := by
    rw [silent, List.append_nil]
    exact announced
  cases own with
  | rests still silent => exact quiet silent announced
  | greets stage ready read agrees =>
    refine quiet rfl ⟨?_, fun _ no => (by cases no), ?_, ?_⟩
    · intro callerId left now
      cases now
      exact ⟨Frame.framed_ne_nil _, _, reads _ rfl stage read agrees, rfl⟩
    · exact announced.connected
    · exact announced.written
  | refuses stage ready wrong => exact quiet rfl (announced.keep rfl rfl rfl (.inr rfl))
  | @greetsOn count callerId left stage more =>
    have rest : l.tells (.write count) = [] := by simp only [tells, stage, if_neg more]
    have together : (l.sent ++ left.take count) ++ left.drop count = p.greeting.encode := by
      rw [List.append_assoc, List.take_append_drop]
      exact writing callerId left stage
    refine quiet rest ⟨?_, fun _ no => (by cases no), ?_, ?_⟩
    · intro _ _ now
      cases now
      exact ⟨more, (announced.greeted callerId left stage).2⟩
    · intro written
      exact absurd written (not_greeted (l := { l with sent := l.sent ++ left.take count }) more together)
    · intro peer callerId there
      obtain ⟨written, known⟩ := announced.written peer callerId there
      exact ⟨written.trans (List.prefix_append _ _), known⟩
  | @connects count callerId left stage all =>
    have event : l.tells (.write count) = [.connected l.id l.peer callerId] := by
      simp only [tells, stage, if_pos all]
    have whole := List.take_of_length_le (List.drop_eq_nil_iff.mp all)
    have complete : p.greeting.encode <+: l.sent ++ left.take count := by
      exact whole.symm ▸ writing callerId left stage ▸ List.prefix_rfl
    rw [event]
    refine ⟨fun _ _ no => (by cases no), fun _ _ => complete, fun _ => ⟨callerId, ?_⟩,
      fun peer other there => ⟨complete, ?_⟩⟩
    · exact List.mem_append_right _ (.head _)
    · rcases List.mem_append.mp there with before | now
      · exact (announced.written peer other before).2
      · obtain ⟨-, -, rfl⟩ := PublisherEvent.connected.inj (List.mem_singleton.mp now)
        exact (announced.greeted _ left stage).2
  | @serves count left stage =>
    have rest : l.tells (.write count) = [] := by simp only [tells, stage]
    have complete := (announced.served left stage).trans (List.prefix_append l.sent (left.take count))
    refine quiet rest ⟨fun _ _ no => (by cases no), fun _ _ => complete, fun _ => ?_,
      fun peer callerId there => ?_⟩
    · exact announced.connected (announced.served left stage)
    · exact ⟨complete, (announced.written peer callerId there).2⟩
  | takes stage opened first =>
    have complete := announced.served [] stage
    exact quiet rfl
      ⟨fun _ _ no => (by cases no), fun _ _ => complete, announced.connected, announced.written⟩
  | stops working still silent reason => exact quiet silent (announced.keep rfl rfl rfl (.inr rfl))
  | fails working still silent reason => exact quiet silent (announced.keep rfl rfl rfl (.inr rfl))
  | judges stage =>
    exact quiet (by simp only [tells, stage]) (announced.keep rfl rfl rfl (.inr rfl))
  | deregisters stage =>
    exact quiet (by simp only [tells, stage]) (announced.keep rfl rfl rfl (.inr rfl))
  | shuts stage =>
    exact quiet (by simp only [tells, stage]) (announced.keep rfl rfl rfl (.inr rfl))
  | @reports cause stage =>
    have kept : { l with stage := .reported }.Announced p.greeting.encode welcomed told :=
      announced.keep rfl rfl rfl (.inr rfl)
    refine kept.others fun peer callerId there => ?_
    simp only [tells, stage] at there
    cases cause <;> simp at there
  | finishes stage =>
    have kept : { l with stage := .done }.Announced p.greeting.encode welcomed told :=
      announced.keep rfl rfl rfl (.inr rfl)
    refine kept.others fun peer callerId there => ?_
    simp only [tells, stage] at there
    simp at there

theorem id_of_tells {move : Publisher.LinkMove} {id : Nat} {peer : Endpoint} {callerId : Option String}
    (there : .connected id peer callerId ∈ l.tells move) : id = l.id := by
  unfold tells at there
  split at there
  · split at there
    · split at there
      · obtain ⟨rfl, -, -⟩ := PublisherEvent.connected.inj (List.mem_singleton.mp there)
        rfl
      · cases there
    · cases there
  · split at there
    · cases List.mem_singleton.mp there
    · cases List.mem_singleton.mp there
    · cases there
  · cases there

theorem not_mem_emits {move : Publisher.Move} (other : ∀ own, move ≠ .link l.id own) (peer : Endpoint)
    (callerId : Option String) : .connected l.id peer callerId ∉ p.emits move := by
  intro there
  cases move with
  | finishStart found =>
    simp only [Publisher.emits] at there
    split at there
    · cases there
    · cases found <;> cases List.mem_singleton.mp there
  | failToAccept listener cause =>
    simp only [Publisher.emits] at there
    split at there
    · cases List.mem_singleton.mp there
    · cases there
  | link acting own =>
    simp only [Publisher.emits] at there
    cases who : p.link? acting with
    | none =>
      rw [who] at there
      cases there
    | some l₀ =>
      rw [who] at there
      have same := id_of_tells there
      rw [Publisher.id_of_link? who] at same
      exact other own (by rw [same])
  | _ => cases there

theorem Announced.change (announced : l.Announced p.greeting.encode welcomed told)
    (writing : ∀ callerId left, l.stage = .greeting callerId left → l.sent ++ left = p.greeting.encode)
    (found : p.link? l.id = some l) {move : Publisher.Move} (change : l.Change p move l')
    (reads : ∀ header, move = .link l.id .readHeader → l.stage = .handshake → l.header = .ok header →
      header.agrees p.type.digest = true → welcomed header) :
    l'.Announced p.greeting.encode welcomed (told ++ p.emits move) := by
  rcases change.own_or_kept with ⟨own, rfl, moved⟩ | ⟨other, id, peer, stage, sent⟩
  · have told : p.emits (.link l.id own) = l.tells own := by
      simp only [Publisher.emits, found, Option.map_some, Option.getD_some]
    rw [told]
    exact announced.own writing moved fun header same => reads header (by rw [same])
  · have kept := announced.keep sent id peer (.inl stage)
    exact kept.others fun peer callerId => id ▸ not_mem_emits other peer callerId

end Link

namespace Publisher

theorem announced_run {p : Publisher} (numbered : p.Numbered) {listener : Nat} {peer : Endpoint}
    (taken : p.taken? listener = some peer) (after : List Move) :
    ∃ l, ((p.step (.register listener)).run after).link? p.nextLink = some l ∧
      l.Announced p.greeting.encode ((p.step (.register listener)).Welcomed p.nextLink after)
        ((p.step (.register listener)).emittedIn after) := by
  have accounts := account_run numbered taken
  have registered := link?_register numbered taken
  have alike := p.step_alike (.register listener)
  generalize p.step (.register listener) = q at accounts registered alike ⊢
  refine run_induction (motive := fun after (r : Publisher) => ∃ l, r.link? p.nextLink = some l ∧
    l.Announced p.greeting.encode (q.Welcomed p.nextLink after) (q.emittedIn after))
    ⟨_, registered, ?_⟩ (fun moves move held => ?_) after
  · have unwritten : ¬ p.greeting.encode <+: ([] : Bytes) := fun written =>
      Frame.framed_ne_nil _ (List.prefix_nil.mp written)
    exact ⟨fun _ _ no => (by cases no), fun _ no => (by cases no), fun written => absurd written unwritten,
      fun _ _ no => absurd no List.not_mem_nil⟩
  · obtain ⟨l, found, announced⟩ := held
    change (q.run moves).link? p.nextLink = some l at found
    obtain ⟨l₀, same, account, -⟩ := accounts moves
    obtain rfl : l = l₀ := Option.some.inj (found.symm.trans same)
    have id := id_of_link? found
    obtain ⟨l', found', change⟩ := link?_step found move
    refine ⟨l', found', ?_⟩
    have greeting := (alike.trans (q.run_alike moves)).greeting
    rw [emittedIn_snoc]
    rw [← greeting] at announced account ⊢
    refine (announced.mono fun header known => known.snoc move).change ?_ (by rw [id]; exact found)
      change ?_
    · intro callerId left stage
      have written := account.written
      simp only [Link.Written, stage] at written
      exact written.1
    · rintro header rfl stage read agrees
      rw [id]
      exact welcomed_of_read found account stage read agrees

end Publisher

end TopicWire

import TopicWire.Proofs.Session.Meeting

/-!
# What flows through a pipe

What has arrived at one end of a pipe is the beginning of what was sent at the other, and the end of one
side arrives after everything else. `Meeting.Flow.change` keeps this over every move.
-/

namespace TopicWire

/-! ### What is sent stays sent -/

namespace Link

variable {p : Publisher} {l l' : Link} {move : Publisher.Move}

theorem Change.sent (change : l.Change p move l') : l.sent <+: l'.sent := by
  rcases change.own_or_kept with ⟨own, -, moved⟩ | ⟨-, -, -, -, same⟩
  · cases moved with
    | greetsOn => exact List.prefix_append _ _
    | connects => exact List.prefix_append _ _
    | serves => exact List.prefix_append _ _
    | _ => exact List.prefix_rfl
  · exact same ▸ List.prefix_rfl

theorem Change.over (change : l.Change p move l') (past : l.stage.isOpen = false) :
    l'.stage.isOpen = false ∧ l'.sent = l.sent := by
  have working {stage : LinkStage} (same : l.stage = stage) (opened : stage.isOpen = true) :
      l'.stage.isOpen = false ∧ l'.sent = l.sent := by
    rw [← same, past] at opened
    cases opened
  rcases change.own_or_kept with ⟨own, -, moved⟩ | ⟨-, -, -, same, sent⟩
  · cases moved with
    | rests => exact ⟨past, rfl⟩
    | greets stage => exact working stage rfl
    | greetsOn stage => exact working stage rfl
    | connects stage => exact working stage rfl
    | serves stage => exact working stage rfl
    | takes stage => exact working stage rfl
    | _ => exact ⟨rfl, rfl⟩
  · exact ⟨same ▸ past, sent⟩

theorem Change.inboxEnded (change : l.Change p move l') (own : Exchange.isOwn move = true) :
    l'.inboxEnded = l.inboxEnded := by
  cases change with
  | pushed made =>
    obtain ⟨queue, eq⟩ := Publisher.pushTo_eq _ l
    rw [eq]
  | dismissed =>
    obtain ⟨queue, registered, eq⟩ := Publisher.dismiss_eq l
    rw [eq]
  | hangsUp => cases own
  | own moved => cases moved <;> rfl
  | _ => rfl

end Link

namespace Connection

variable {s : Subscriber} {c c' : Connection} {move : Subscriber.Move}

theorem Change.sent (change : c.Change s move c') : c.sent <+: c'.sent := by
  cases change with
  | own moved =>
    cases moved with
    | requests => exact List.prefix_append _ _
    | requested => exact List.prefix_append _ _
    | _ => exact List.prefix_rfl
  | _ => exact List.prefix_rfl

theorem Change.over (change : c.Change s move c') (reached : c.stage ≠ .dialling)
    (past : c.isOpen = false) : c'.isOpen = false ∧ c'.sent = c.sent := by
  have working {stage : ConnectionStage} (same : c.stage = stage)
      (opened : { c with stage := stage }.isOpen = true) : c'.isOpen = false ∧ c'.sent = c.sent := by
    rw [← same, past] at opened
    cases opened
  cases change with
  | own moved =>
    cases moved with
    | rests => exact ⟨past, rfl⟩
    | dials stage => exact absurd stage reached
    | requests stage => exact working stage rfl
    | requested stage => exact working stage rfl
    | accepts stage => exact working stage rfl
    | connects stage => exact working stage rfl
    | delivers stage => exact working stage rfl
    | reads stage => exact working stage rfl
    | _ => exact ⟨rfl, rfl⟩
  | _ => exact ⟨past, rfl⟩

theorem Change.inboxEnded (change : c.Change s move c') (own : Exchange.isSubscribersOwn move = true) :
    c'.inboxEnded = c.inboxEnded := by
  cases change with
  | hangsUp => cases own
  | own moved => cases moved <;> rfl
  | _ => rfl

end Connection

/-! ### The flow through a pipe -/

namespace Meeting

/-- These bytes have arrived at the link and at the connection. -/
structure Flow (m : Meeting) (up down : Bytes) : Prop where
  reached : m.connection.stage ≠ .dialling
  upAlong : up <+: m.connection.sent
  upLength : up.length = m.pipe.up
  downAlong : down <+: m.link.sent
  downLength : down.length = m.pipe.down
  endUp : m.link.inboxEnded = true → m.connection.isOpen = false ∧ up = m.connection.sent
  endDown : m.connection.inboxEnded = true → m.link.stage.isOpen = false ∧ down = m.link.sent

theorem prefix_of_take {arrived sent more : Bytes} {count : Nat} (along : arrived <+: sent)
    (some : (sent.drop arrived.length).take count = more) : arrived ++ more <+: sent := by
  obtain ⟨rest, rfl⟩ := along
  rw [List.drop_left] at some
  rw [← some, List.prefix_append_right_inj]
  exact List.take_prefix _ _

theorem eq_of_length_le {arrived sent : Bytes} (along : arrived <+: sent)
    (all : sent.length ≤ arrived.length) : arrived = sent :=
  along.eq_of_length (Nat.le_antisymm along.length_le all)

theorem Flow.change {x : Exchange} {place : Nat} {m m' : Meeting} {move : Exchange.Move}
    {up down more less : Bytes} (flow : m.Flow up down)
    (change : m.Change x place move more less m') : m'.Flow (up ++ more) (down ++ less) := by
  obtain ⟨reached, upAlong, upLength, downAlong, downLength, endUp, endDown⟩ := flow
  cases change with
  | apart =>
    rw [List.append_nil, List.append_nil]
    exact ⟨reached, upAlong, upLength, downAlong, downLength, endUp, endDown⟩
  | publisher own change =>
    rw [List.append_nil, List.append_nil]
    refine ⟨reached, upAlong, upLength, downAlong.trans change.sent, downLength, fun ended => ?_,
      fun ended => ?_⟩
    · rw [change.inboxEnded own] at ended
      exact endUp ended
    · obtain ⟨past, all⟩ := endDown ended
      obtain ⟨past', same⟩ := change.over past
      exact ⟨past', all.trans same.symm⟩
  | subscriber own change =>
    rw [List.append_nil, List.append_nil]
    refine ⟨change.reached reached, upAlong.trans change.sent, upLength, downAlong, downLength,
      fun ended => ?_, fun ended => ?_⟩
    · obtain ⟨past, all⟩ := endUp ended
      obtain ⟨past', same⟩ := change.over reached past
      exact ⟨past', all.trans same.symm⟩
    · rw [change.inboxEnded own] at ended
      exact endDown ended
  | up some =>
    rw [← upLength] at some
    have along := prefix_of_take upAlong some
    rw [List.append_nil]
    refine ⟨reached, along, by rw [List.length_append, upLength], downAlong, downLength,
      fun ended => ?_, endDown⟩
    obtain ⟨past, all⟩ := endUp ended
    exact ⟨past, eq_of_length_le along (by rw [← all, List.length_append]; omega)⟩
  | down some =>
    rw [← downLength] at some
    have along := prefix_of_take downAlong some
    rw [List.append_nil]
    refine ⟨reached, upAlong, upLength, along, by rw [List.length_append, downLength],
      endUp, fun ended => ?_⟩
    obtain ⟨past, all⟩ := endDown ended
    exact ⟨past, eq_of_length_le along (by rw [← all, List.length_append]; omega)⟩
  | endUp past all =>
    rw [List.append_nil, List.append_nil]
    exact ⟨reached, upAlong, upLength, downAlong, downLength,
      fun _ => ⟨past, eq_of_length_le upAlong (upLength ▸ all)⟩, endDown⟩
  | endDown past all =>
    rw [List.append_nil, List.append_nil]
    exact ⟨reached, upAlong, upLength, downAlong, downLength, endUp,
      fun _ => ⟨past, eq_of_length_le downAlong (downLength ▸ all)⟩⟩

end Meeting

end TopicWire

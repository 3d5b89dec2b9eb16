import Mathlib.Data.Fintype.EquivFin
import Mathlib.Data.List.Chain
import Mathlib.Order.WellFounded
import TopicWire.Loader.Tasks
import TopicWire.Proofs.History
import TopicWire.Proofs.Loader.References

/-!
# Loads that wait for each other

A load looks for recursion among the types that it makes itself, but it waits for types that other loads
make. `Loads.Change` says once what a step does to a load. In every state that a run can come to, some load
can go on or all are over, unless loads wait for each other in a ring, which none of them ever leaves
(`Loads.goes_on`); `Loads.locked` is a run that ends so.
-/

namespace TopicWire

/-! ### What a load holds -/

namespace LoadTask

/-- The ids that a load holds, the innermost first. -/
def owned (t : LoadTask) : List String :=
  match t.state with
  | .reads id => id :: t.stack.map (·.id)
  | _ => t.stack.map (·.id)

/-- The ids that a load has come through, from the one that it is at to the one that it was asked for. -/
def path (t : LoadTask) : List String :=
  match t.state with
  | .wants id => id :: t.stack.map (·.id)
  | .reads id => id :: t.stack.map (·.id)
  | _ => t.stack.map (·.id)

/-- A load that has got a type inside of these others. -/
def given (stack : List Making) (id : String) (type : MessageType) : LoadTask :=
  match stack with
  | [] => { state := .finished (.ok type) }
  | making :: outer =>
    { state := .making
      stack := { making with
        todo := making.todo.tail, nested := making.nested ++ [(id, type)] } :: outer }

theorem owned_given (stack : List Making) (id : String) (type : MessageType) :
    (given stack id type).owned = stack.map (·.id) := by
  cases stack <;> rfl

end LoadTask

namespace Loads

variable {l l' : Loads} {k : Nat} {t : LoadTask} {id : String}

/-! ### What a step does -/

/-- What a step makes of a load, of the catalog and of the ids that are held. -/
inductive Change (l : Loads) (t : LoadTask) : LoadTask → Catalog → List String → Prop
  | gets {id : String} {type} (state : t.state = .wants id) (there : l.catalog.get? id = some type) :
      Change l t (.given t.stack id type) l.catalog l.held
  | fails {e} :
      Change l t { state := .finished (.error e) } l.catalog (l.held.filter (!t.owned.contains ·))
  | takes {id : String} (state : t.state = .wants id) (outside : id ∉ t.stack.map (·.id)) (free : id ∉ l.held) :
      Change l t { state := .reads id, stack := t.stack } l.catalog (id :: l.held)
  | reads {id text : String} {names} (state : t.state = .reads id) (read : l.loader.schemaText id = .ok text)
      (refers : Loader.wanted id text = .ok names) :
      Change l t { state := .making, stack := { id := id, text := text, todo := names } :: t.stack }
        l.catalog l.held
  | asks {making outer} {id : String} {rest} (state : t.state = .making) (stack : t.stack = making :: outer)
      (next : making.todo = id :: rest) :
      Change l t { state := .wants id, stack := t.stack } l.catalog l.held
  | makes {making outer type} (state : t.state = .making) (stack : t.stack = making :: outer) :
      Change l t (.given outer making.id type) (l.catalog.insert making.id type)
        (l.held.filter (· != making.id))

/-- A step of a load leaves the other loads alone. -/
def Becomes (l : Loads) (k : Nat) (t : LoadTask) (l' : Loads) : Prop :=
  ∃ t' catalog held, l.Change t t' catalog held ∧
    l' = { l with catalog := catalog, tasks := l.tasks.set k t', held := held }

theorem deliver_eq (l : Loads) (k : Nat) (stack : List Making) (id : String) (type : MessageType) :
    l.deliver k stack id type = l.put k (.given stack id type) := by
  cases stack <;> rfl

theorem becomes_failed (l : Loads) (k : Nat) (t : LoadTask) (e : SchemaError) :
    l.Becomes k t (l.fail k t.owned e) :=
  ⟨_, _, _, .fails, rfl⟩

theorem want_none_iff {stack : List Making} : l.want k stack id = none ↔
    l.catalog.get? id = none ∧ id ∉ stack.map (·.id) ∧ (∃ path, l.loader.schemaPath id = .ok path) ∧
      id ∈ l.held := by
  unfold want
  cases l.catalog.get? id with
  | some type => simp
  | none =>
    by_cases within : id ∈ stack.map (·.id)
    · simp [within]
    · cases located : l.loader.schemaPath id with
      | error e => simp [within]
      | ok path => by_cases held : id ∈ l.held <;> simp [within, held]

theorem want_becomes (state : t.state = .wants id) (wants : l.want k t.stack id = some l') :
    l.Becomes k t l' := by
  have owned : t.owned = t.stack.map (·.id) := by simp only [LoadTask.owned, state]
  unfold want at wants
  split at wants
  · rename_i type there
    cases wants
    rw [deliver_eq]
    exact ⟨_, _, _, .gets state there, rfl⟩
  · split at wants
    · cases wants
      rw [← owned]
      exact becomes_failed l k t _
    · rename_i outside
      rw [List.contains_iff_mem] at outside
      split at wants
      · cases wants
        rw [← owned]
        exact becomes_failed l k t _
      · split at wants
        · cases wants
        · rename_i free
          rw [List.contains_iff_mem] at free
          cases wants
          exact ⟨_, _, _, .takes state outside free, rfl⟩

theorem readText_becomes (state : t.state = .reads id) : l.Becomes k t (l.readText k t.stack id) := by
  have owned : t.owned = id :: t.stack.map (·.id) := by simp only [LoadTask.owned, state]
  unfold readText
  dsimp only
  split
  · rw [← owned]
    exact becomes_failed l k t _
  · rename_i making parsed
    obtain ⟨text, read, parsed⟩ := Result.bind_ok_iff.mp parsed
    obtain ⟨lines, parse, parsed⟩ := Result.bind_ok_iff.mp parsed
    obtain ⟨⟨package, name⟩, split, made⟩ := Result.bind_ok_iff.mp parsed
    cases made
    have wanted : Loader.wanted id text = .ok (nestedIds lines package) :=
      Result.bind_ok_iff.mpr ⟨lines, parse, Result.bind_ok_iff.mpr ⟨(package, name), split, rfl⟩⟩
    exact ⟨_, _, _, .reads state read wanted, rfl⟩

theorem make_ne_none {stack : List Making} (working : stack ≠ []) : l.make k stack ≠ none := by
  unfold make
  split
  · exact absurd rfl working
  · split
    · exact Option.some_ne_none _
    · split <;> exact Option.some_ne_none _

theorem make_becomes (state : t.state = .making) (makes : l.make k t.stack = some l') :
    l.Becomes k t l' := by
  have owned : t.owned = t.stack.map (·.id) := by simp only [LoadTask.owned, state]
  unfold make at makes
  split at makes
  · cases makes
  · rename_i making outer stack
    split at makes
    · rename_i id rest next
      cases makes
      exact ⟨_, _, _, .asks state stack next, rfl⟩
    · split at makes
      · cases makes
        rw [← owned]
        exact becomes_failed l k t _
      · rename_i type made
        cases makes
        rw [deliver_eq]
        exact ⟨.given outer making.id type, _, _, .makes state stack, rfl⟩

theorem step_eq (task : l.tasks[k]? = some t) : l.step k =
    match t.state with
    | .wants id => l.want k t.stack id
    | .reads id => some (l.readText k t.stack id)
    | .making => l.make k t.stack
    | .finished _ => none := by
  unfold step
  rw [task]
  rfl

theorem step_becomes (task : l.tasks[k]? = some t) (stepped : l.step k = some l') :
    l.Becomes k t l' := by
  rw [step_eq task] at stepped
  cases state : t.state with
  | wants id =>
    simp only [state] at stepped
    exact want_becomes state stepped
  | reads id =>
    simp only [state] at stepped
    cases stepped
    exact readText_becomes state
  | making =>
    simp only [state] at stepped
    exact make_becomes state stepped
  | finished outcome =>
    simp only [state] at stepped
    cases stepped

/-! ### What runs keep -/

end Loads

/-- A load that was asked for this id has come from each type to the next by what the schemas say, and
holds no id twice. -/
structure LoadTask.Sound (loader : Loader) (root : String) (t : LoadTask) : Prop where
  linked : t.path.IsChain fun inner outer => loader.Refers outer inner
  rooted : (∀ outcome, t.state ≠ .finished outcome) → t.path.getLast? = some root
  named : ∀ making ∈ t.stack, ∀ name ∈ making.todo, loader.Refers making.id name
  distinct : t.owned.Nodup
  working : t.state = .making → t.stack ≠ []
  past : ∀ outcome, t.state = .finished outcome → t.stack = []

namespace LoadTask

variable {loader : Loader} {root : String} {l : Loads} {t t' : LoadTask}

theorem sound_given {stack : List Making} {id : String} (type : MessageType)
    (linked : (id :: stack.map (·.id)).IsChain fun inner outer => loader.Refers outer inner)
    (rooted : (id :: stack.map (·.id)).getLast? = some root)
    (named : ∀ making ∈ stack, ∀ name ∈ making.todo, loader.Refers making.id name)
    (distinct : (stack.map (·.id)).Nodup) : (given stack id type).Sound loader root := by
  cases stack with
  | nil => exact ⟨.nil, fun busy => (busy _ rfl).elim, nofun, .nil, nofun, fun _ _ => rfl⟩
  | cons making outer =>
    refine ⟨linked.tail, fun _ => rooted, ?_, distinct, fun _ => List.cons_ne_nil _ _, nofun⟩
    intro other member name todo
    rcases List.mem_cons.mp member with rfl | member
    · exact named making (.head outer) name (List.mem_of_mem_tail todo)
    · exact named other (.tail making member) name todo

theorem Sound.change {catalog : Catalog} {held : List String} (sound : t.Sound l.loader root)
    (change : l.Change t t' catalog held) : t'.Sound l.loader root := by
  obtain ⟨linked, rooted, named, distinct, working, past⟩ := sound
  unfold path at linked rooted
  unfold owned at distinct
  cases change with
  | gets state there =>
    simp only [state] at linked rooted distinct
    exact sound_given _ linked (rooted nofun) named distinct
  | fails => exact ⟨.nil, fun busy => (busy _ rfl).elim, nofun, .nil, nofun, fun _ _ => rfl⟩
  | takes state outside free =>
    simp only [state] at linked rooted distinct
    exact ⟨linked, fun _ => rooted nofun, named, List.nodup_cons.mpr ⟨outside, distinct⟩, nofun, nofun⟩
  | @reads id text names state read refers =>
    simp only [state] at linked rooted distinct
    refine ⟨linked, fun _ => rooted nofun, ?_, distinct, fun _ => List.cons_ne_nil _ _, nofun⟩
    intro making member name todo
    rcases List.mem_cons.mp member with rfl | member
    · exact ⟨text, names, read, refers, todo⟩
    · exact named making member name todo
  | @asks making outer id rest state stack next =>
    simp only [state, stack, List.map_cons] at linked rooted distinct
    have refers : l.loader.Refers making.id id :=
      named making (stack ▸ .head outer) id (next ▸ .head rest)
    refine ⟨?_, fun _ => ?_, named, ?_, nofun, nofun⟩
    · simp only [path, stack, List.map_cons]
      exact .cons_cons refers linked
    · simp only [path, stack, List.map_cons]
      rw [List.getLast?_cons_cons]
      exact rooted nofun
    · simp only [owned, stack, List.map_cons]
      exact distinct
  | @makes making outer type state stack =>
    simp only [state, stack, List.map_cons] at linked rooted distinct
    refine sound_given type linked (rooted nofun) ?_ (List.nodup_cons.mp distinct).2
    exact fun other member => named other (stack ▸ .tail making member)

end LoadTask

namespace Loads

variable {l l' : Loads} {loader : Loader} {ids : List String} {k : Nat} {t t' : LoadTask} {id : String}

/-- An id is held exactly while one of the loads holds it, and only one does. -/
structure Tidy (loader : Loader) (ids : List String) (l : Loads) : Prop where
  same : l.loader = loader
  sound : ∀ (k : Nat) (t : LoadTask), l.tasks[k]? = some t → ∃ root, ids[k]? = some root ∧ t.Sound loader root
  held : ∀ id, id ∈ l.held ↔ ∃ (k : Nat) (t : LoadTask), l.tasks[k]? = some t ∧ id ∈ t.owned
  apart : ∀ {j k : Nat} {t u : LoadTask} {id : String}, l.tasks[j]? = some t → l.tasks[k]? = some u → id ∈ t.owned →
    id ∈ u.owned → j = k

theorem Change.held_iff {catalog : Catalog} {held : List String} (change : l.Change t t' catalog held)
    (distinct : t.owned.Nodup) (within : ∀ id ∈ t.owned, id ∈ l.held) (id : String) :
    (id ∈ held ↔ id ∈ l.held ∧ id ∉ t.owned ∨ id ∈ t'.owned) ∧
      (id ∈ t'.owned → id ∈ t.owned ∨ id ∉ l.held) := by
  have kept (same : t'.owned = t.owned) :
      (id ∈ l.held ↔ id ∈ l.held ∧ id ∉ t.owned ∨ id ∈ t'.owned) ∧
        (id ∈ t'.owned → id ∈ t.owned ∨ id ∉ l.held) := by
    rw [same]
    refine ⟨?_, .inl⟩
    by_cases own : id ∈ t.owned
    · simp [own, within id own]
    · simp [own]
  cases change with
  | gets state there =>
    refine kept ?_
    rw [LoadTask.owned_given]
    simp only [LoadTask.owned, state]
  | fails => simp [LoadTask.owned]
  | @takes taken state outside free =>
    have before : t.owned = t.stack.map (·.id) := by simp only [LoadTask.owned, state]
    have inside := before ▸ within id
    rw [before]
    simp only [LoadTask.owned, List.mem_cons]
    by_cases same : id = taken
    · subst same
      simp [free]
    · by_cases own : id ∈ t.stack.map (·.id)
      · simp [own, inside own]
      · simp [same, own]
  | reads state read refers =>
    refine kept ?_
    simp only [LoadTask.owned, state, List.map_cons]
  | asks state stack next =>
    refine kept ?_
    simp only [LoadTask.owned, state]
  | @makes making outer type state stack =>
    have before : t.owned = making.id :: outer.map (·.id) := by
      simp only [LoadTask.owned, state, stack, List.map_cons]
    have fresh := (List.nodup_cons.mp (before ▸ distinct)).1
    have inside := before ▸ within id
    rw [LoadTask.owned_given, before]
    simp only [List.mem_filter, List.mem_cons, bne_iff_ne] at inside ⊢
    by_cases own : id ∈ outer.map (·.id)
    · have different : id ≠ making.id := by
        rintro rfl
        exact fresh own
      simp [own, different, inside (.inr own)]
    · simp [own]

theorem tidy_start (loader : Loader) (ids : List String) : (start loader ids).Tidy loader ids := by
  have wants {k : Nat} {t : LoadTask} (task : (start loader ids).tasks[k]? = some t) :
      ∃ root, ids[k]? = some root ∧ t = { state := .wants root } := by
    obtain ⟨root, there, same⟩ := Option.map_eq_some_iff.mp (List.getElem?_map ▸ task)
    exact ⟨root, there, same.symm⟩
  have free {k : Nat} {t : LoadTask} (task : (start loader ids).tasks[k]? = some t) : t.owned = [] := by
    obtain ⟨root, -, rfl⟩ := wants task
    rfl
  refine ⟨rfl, fun k t task => ?_, fun id => ⟨nofun, ?_⟩, fun {j k t u id} task _ own => ?_⟩
  · obtain ⟨root, there, rfl⟩ := wants task
    exact ⟨root, there, .singleton _, fun _ => rfl, nofun, .nil, nofun, nofun⟩
  · rintro ⟨k, t, task, own⟩
    rw [free task] at own
    cases own
  · rw [free task] at own
    cases own

theorem Tidy.step (tidy : l.Tidy loader ids) (stepped : l.step k = some l') : l'.Tidy loader ids := by
  cases task : l.tasks[k]? with
  | none =>
    unfold Loads.step at stepped
    rw [task] at stepped
    cases stepped
  | some t =>
    obtain ⟨t', catalog, held, change, rfl⟩ := step_becomes task stepped
    obtain ⟨root, asked, sound⟩ := tidy.sound k t task
    have owns := change.held_iff sound.distinct fun id own => (tidy.held id).mpr ⟨k, t, task, own⟩
    have here : (l.tasks.set k t')[k]? = some t' :=
      List.getElem?_set_self (List.getElem?_eq_some_iff.mp task).1
    have there {j : Nat} (other : j ≠ k) : (l.tasks.set k t')[j]? = l.tasks[j]? :=
      List.getElem?_set_ne (Ne.symm other)
    have alone {j : Nat} {u : LoadTask} {id : String} (other : j ≠ k) (task' : l.tasks[j]? = some u)
        (own : id ∈ u.owned) : id ∉ t.owned ∧ id ∉ t'.owned := by
      have before : id ∉ t.owned := fun shared => other (tidy.apart task' task own shared)
      refine ⟨before, fun after => ?_⟩
      rcases (owns id).2 after with shared | free
      · exact before shared
      · exact free ((tidy.held id).mpr ⟨j, u, task', own⟩)
    refine ⟨tidy.same, fun j u got => ?_, fun id => ?_, fun {i j u v id} got got' own own' => ?_⟩
    · by_cases same : j = k
      · subst same
        obtain rfl := Option.some.inj (here.symm.trans got)
        refine ⟨root, asked, ?_⟩
        rw [← tidy.same] at sound ⊢
        exact sound.change change
      · exact tidy.sound j u (there same ▸ got)
    · rw [(owns id).1, tidy.held]
      constructor
      · rintro (⟨⟨j, u, task', own⟩, foreign⟩ | own)
        · have other : j ≠ k := by
            rintro rfl
            obtain rfl := Option.some.inj (task.symm.trans task')
            exact foreign own
          exact ⟨j, u, (there other).trans task', own⟩
        · exact ⟨k, t', here, own⟩
      · rintro ⟨j, u, got, own⟩
        by_cases same : j = k
        · subst same
          obtain rfl := Option.some.inj (here.symm.trans got)
          exact .inr own
        · have task' := there same ▸ got
          exact .inl ⟨⟨j, u, task', own⟩, (alone same task' own).1⟩
    · by_cases first : i = k <;> by_cases second : j = k
      · exact first.trans second.symm
      · subst first
        obtain rfl := Option.some.inj (here.symm.trans got)
        exact absurd own (alone second (there second ▸ got') own').2
      · subst second
        obtain rfl := Option.some.inj (here.symm.trans got')
        exact absurd own' (alone first (there first ▸ got) own).2
      · exact tidy.apart (there first ▸ got) (there second ▸ got') own own'

theorem Tidy.run (tidy : l.Tidy loader ids) (order : List Nat) : (l.run order).Tidy loader ids := by
  induction order generalizing l with
  | nil => exact tidy
  | cons k order ih =>
    refine ih (l := (l.step k).getD l) ?_
    cases stepped : l.step k with
    | none => exact tidy
    | some l' => exact tidy.step stepped

/-! ### Waiting -/

/-- A load waits for a type that another load makes. -/
structure Awaits (l : Loads) (k : Nat) (id : String) : Prop where
  wants : ∃ t : LoadTask, l.tasks[k]? = some t ∧ t.state = .wants id
  stuck : l.step k = none

/-- A load waits for a type that the other load holds. -/
def WaitsFor (l : Loads) (k other : Nat) : Prop :=
  ∃ id, l.Awaits k id ∧ ∃ t : LoadTask, l.tasks[other]? = some t ∧ id ∈ t.owned

/-- The load waits for others of which one, in the end, waits for it. -/
def InRing (l : Loads) (k : Nat) : Prop :=
  Relation.TransGen l.WaitsFor k k

/-- The load is not over. -/
def Busy (l : Loads) (k : Nat) : Prop :=
  ∃ t : LoadTask, l.tasks[k]? = some t ∧ ∀ outcome, t.state ≠ .finished outcome

theorem Busy.lt (busy : l.Busy k) : k < l.tasks.length := by
  obtain ⟨t, task, -⟩ := busy
  exact (List.getElem?_eq_some_iff.mp task).1

theorem finished_eq_false_iff : l.finished = false ↔ ∃ k, l.Busy k := by
  unfold finished
  rw [List.all_eq_false]
  constructor
  · rintro ⟨t, member, busy⟩
    obtain ⟨k, task⟩ := List.mem_iff_getElem?.mp member
    refine ⟨k, t, task, fun outcome past => busy ?_⟩
    rw [past]
  · rintro ⟨k, t, task, busy⟩
    refine ⟨t, List.mem_of_getElem? task, fun past => ?_⟩
    split at past
    · rename_i outcome state
      exact busy outcome state
    · cases past

theorem awaits_iff (task : l.tasks[k]? = some t) (state : t.state = .wants id) : l.Awaits k id ↔
    l.catalog.get? id = none ∧ id ∉ t.stack.map (·.id) ∧ (∃ path, l.loader.schemaPath id = .ok path) ∧
      id ∈ l.held := by
  have stepped : l.step k = l.want k t.stack id := by
    rw [step_eq task]
    simp only [state]
  rw [← want_none_iff (k := k), ← stepped]
  exact ⟨fun waits => waits.stuck, fun stuck => ⟨⟨t, task, state⟩, stuck⟩⟩

theorem Awaits.unique {other : String} (one : l.Awaits k id) (two : l.Awaits k other) : id = other := by
  obtain ⟨t, task, state⟩ := one.wants
  obtain ⟨u, task', state'⟩ := two.wants
  obtain rfl := Option.some.inj (task.symm.trans task')
  exact LoadState.wants.inj (state.symm.trans state')

theorem Awaits.busy (awaits : l.Awaits k id) : l.Busy k := by
  obtain ⟨t, task, state⟩ := awaits.wants
  refine ⟨t, task, fun outcome past => ?_⟩
  rw [state] at past
  cases past

/-- A load that is not over and cannot go on waits for another one, which is not over either. -/
theorem Tidy.waits (tidy : l.Tidy loader ids) (busy : l.Busy k) (stuck : l.step k = none) :
    ∃ other, l.WaitsFor k other ∧ l.Busy other := by
  obtain ⟨t, task, busy⟩ := busy
  obtain ⟨root, -, sound⟩ := tidy.sound k t task
  have stepped := step_eq task
  rw [stuck] at stepped
  cases state : t.state with
  | finished outcome => exact absurd state (busy outcome)
  | reads id =>
    simp only [state] at stepped
    cases stepped
  | making =>
    simp only [state] at stepped
    exact absurd stepped.symm (make_ne_none (sound.working state))
  | wants id =>
    have awaits : l.Awaits k id := ⟨⟨t, task, state⟩, stuck⟩
    obtain ⟨-, -, -, held⟩ := (awaits_iff task state).mp awaits
    obtain ⟨other, u, task', own⟩ := (tidy.held id).mp held
    refine ⟨other, ⟨id, awaits, u, task', own⟩, u, task', fun outcome past => ?_⟩
    obtain ⟨_, -, sound'⟩ := tidy.sound other u task'
    simp only [LoadTask.owned, past, sound'.past outcome past] at own
    cases own

/-! ### Rings -/

theorem exists_cycle {r : Nat → Nat → Prop} {busy : Nat → Prop} {n k : Nat} (start : busy k)
    (below : ∀ k, busy k → k < n) (next : ∀ k, busy k → ∃ other, r k other ∧ busy other) :
    ∃ k, Relation.TransGen r k k := by
  by_contra none
  -- Without a cycle one of the finitely many comes last.
  have acyclic : WellFounded fun i j : Fin n => Relation.TransGen r j i :=
    @Finite.wellFounded_of_trans_of_irrefl _ _ _ ⟨fun _ _ _ one two => two.trans one⟩
      ⟨fun i cycle => none ⟨i, cycle⟩⟩
  obtain ⟨last, busy_last, least⟩ := acyclic.has_min {i | busy i} ⟨⟨k, below k start⟩, start⟩
  obtain ⟨other, after, busy_other⟩ := next last busy_last
  exact least ⟨other, below other busy_other⟩ busy_other (.single after)

theorem Tidy.ring_of_stuck (tidy : l.Tidy loader ids) (unfinished : l.finished = false)
    (stuck : ∀ k, l.step k = none) : ∃ k, l.InRing k := by
  obtain ⟨k, busy⟩ := finished_eq_false_iff.mp unfinished
  exact exists_cycle busy (fun _ busy => busy.lt) fun k busy => tidy.waits busy (stuck k)

theorem WaitsFor.stuck {other : Nat} (waits : l.WaitsFor k other) : l.step k = none := by
  obtain ⟨id, awaits, -⟩ := waits
  exact awaits.stuck

theorem Change.catalog {catalog : Catalog} {held : List String} (change : l.Change t t' catalog held)
    (foreign : id ∉ t.owned) : catalog.get? id = l.catalog.get? id := by
  cases change with
  | @makes making outer type state stack =>
    have different : id ≠ making.id := by
      rintro rfl
      refine foreign ?_
      simp only [LoadTask.owned, state, stack, List.map_cons]
      exact .head _
    rw [Catalog.get?_insert, if_neg different]
  | _ => rfl

theorem Tidy.waitsFor_step {j other : Nat} (tidy : l.Tidy loader ids) (stepped : l.step j = some l')
    (waits : l.WaitsFor k other) (stuck : l.step other = none) : l'.WaitsFor k other := by
  have tidy' := tidy.step stepped
  have apart {i : Nat} (stuck : l.step i = none) : j ≠ i := by
    rintro rfl
    rw [stepped] at stuck
    cases stuck
  obtain ⟨id, awaits, u, task', own⟩ := waits
  obtain ⟨t, task, state⟩ := awaits.wants
  obtain ⟨fresh, outside, located, -⟩ := (awaits_iff task state).mp awaits
  cases acting : l.tasks[j]? with
  | none =>
    unfold Loads.step at stepped
    rw [acting] at stepped
    cases stepped
  | some v =>
    obtain ⟨v', catalog, held, change, rfl⟩ := step_becomes acting stepped
    have task₁ : (l.tasks.set j v')[k]? = some t := by
      rw [List.getElem?_set_ne (apart awaits.stuck), task]
    have task₂ : (l.tasks.set j v')[other]? = some u := by
      rw [List.getElem?_set_ne (apart stuck), task']
    have foreign : id ∉ v.owned := fun shared => apart stuck (tidy.apart acting task' shared own)
    refine ⟨id, (awaits_iff task₁ state).mpr ⟨?_, outside, located, ?_⟩, u, task₂, own⟩
    · exact (change.catalog foreign).trans fresh
    · exact (tidy'.held id).mpr ⟨other, u, task₂, own⟩

theorem InRing.waits (ring : l.InRing k) : ∃ other, l.WaitsFor k other := by
  obtain ⟨other, waits, -⟩ := Relation.TransGen.head'_iff.mp ring
  exact ⟨other, waits⟩

theorem InRing.step {j : Nat} (ring : l.InRing k) (tidy : l.Tidy loader ids)
    (stepped : l.step j = some l') : l'.InRing k := by
  suffices h : ∀ {i m}, Relation.TransGen l.WaitsFor i m → (∃ other, l.WaitsFor m other) →
      Relation.TransGen l'.WaitsFor i m from h ring ring.waits
  intro i m path
  induction path with
  | single waits =>
    rintro ⟨other, after⟩
    exact .single (tidy.waitsFor_step stepped waits after.stuck)
  | tail path waits ih =>
    rintro ⟨other, after⟩
    exact (ih ⟨_, waits⟩).tail (tidy.waitsFor_step stepped waits after.stuck)

theorem InRing.run (ring : l.InRing k) (tidy : l.Tidy loader ids) (order : List Nat) :
    (l.run order).InRing k := by
  induction order generalizing l with
  | nil => exact ring
  | cons j order ih =>
    show (((l.step j).getD l).run order).InRing k
    cases stepped : l.step j with
    | none => exact ih ring tidy
    | some l' => exact ih (ring.step tidy stepped) (tidy.step stepped)

/-! ### Rings and references -/

theorem refers_of_path {r : String → String → Prop} {path : List String}
    (linked : (id :: path).IsChain fun inner outer => r outer inner) :
    (∀ outer ∈ path, Relation.TransGen r outer id) ∧
      ∀ root, (id :: path).getLast? = some root → Relation.ReflTransGen r root id := by
  induction path generalizing id with
  | nil =>
    refine ⟨nofun, fun root last => ?_⟩
    obtain rfl := Option.some.inj last
    exact .refl
  | cons next path ih =>
    obtain ⟨refers, linked⟩ := List.isChain_cons_cons.mp linked
    obtain ⟨within, whole⟩ := ih linked
    refine ⟨fun outer member => ?_, fun root last => ?_⟩
    · rcases List.mem_cons.mp member with rfl | member
      · exact .single refers
      · exact (within outer member).tail refers
    · rw [List.getLast?_cons_cons] at last
      exact (whole root last).tail refers

theorem Tidy.refers_of_waitsFor {other : Nat} {next : String} (tidy : l.Tidy loader ids)
    (waits : l.WaitsFor k other) (first : l.Awaits k id) (second : l.Awaits other next) :
    Relation.TransGen loader.Refers id next := by
  obtain ⟨id', awaits, u, task, own⟩ := waits
  obtain rfl := first.unique awaits
  obtain ⟨u', task', state⟩ := second.wants
  obtain rfl := Option.some.inj (task.symm.trans task')
  obtain ⟨root, -, sound⟩ := tidy.sound other u task
  have linked := sound.linked
  simp only [LoadTask.path, state] at linked
  simp only [LoadTask.owned, state] at own
  exact (refers_of_path linked).1 id own

theorem Tidy.cyclic_of_ring (tidy : l.Tidy loader ids) (ring : l.InRing k) : ∃ root id,
    ids[k]? = some root ∧ l.Awaits k id ∧ loader.Reaches root id ∧ loader.Cyclic id := by
  have along : ∀ {i m id next}, Relation.TransGen l.WaitsFor i m → l.Awaits i id → l.Awaits m next →
      Relation.TransGen loader.Refers id next := by
    intro i m id next path first last
    induction path generalizing next with
    | single waits => exact tidy.refers_of_waitsFor waits first last
    | tail path waits ih =>
      obtain ⟨middle, awaits, held⟩ := waits
      exact (ih awaits).trans (tidy.refers_of_waitsFor ⟨middle, awaits, held⟩ awaits last)
  obtain ⟨other, id, awaits, -⟩ := ring.waits
  obtain ⟨t, task, state⟩ := awaits.wants
  obtain ⟨root, asked, sound⟩ := tidy.sound k t task
  refine ⟨root, id, asked, awaits, ?_, along ring awaits awaits⟩
  have linked := sound.linked
  have rooted := sound.rooted fun outcome past => by
    rw [state] at past
    cases past
  simp only [LoadTask.path, state] at linked rooted
  exact (refers_of_path linked).2 root rooted

theorem WaitsFor.ne {other : Nat} (waits : l.WaitsFor k other) : other ≠ k := by
  rintro rfl
  obtain ⟨id, awaits, u, task, own⟩ := waits
  obtain ⟨t, task', state⟩ := awaits.wants
  obtain rfl := Option.some.inj (task.symm.trans task')
  obtain ⟨-, outside, -, -⟩ := (awaits_iff task state).mp awaits
  simp only [LoadTask.owned, state] at own
  exact outside own

theorem Tidy.two_of_ring (tidy : l.Tidy loader ids) (ring : l.InRing k) : 1 < ids.length := by
  obtain ⟨other, waits⟩ := ring.waits
  have apart := waits.ne
  obtain ⟨id, awaits, u, task', -⟩ := waits
  obtain ⟨t, task, -⟩ := awaits.wants
  obtain ⟨_, asked, -⟩ := tidy.sound k t task
  obtain ⟨_, asked', -⟩ := tidy.sound other u task'
  have first := (List.getElem?_eq_some_iff.mp asked).1
  have second := (List.getElem?_eq_some_iff.mp asked').1
  omega

/-- Loads of any types, in any order of their steps: all are over, or one can go on, or some wait for each
other in a ring. A ring is there for good and keeps its loads from coming to an end. The type that a load
in a ring waits for refers to itself, so that there is no ring where no type that is asked for reaches such
a type; and there is none with a single load. -/
theorem goes_on (loader : Loader) (ids : List String) (order : List Nat) :
    let l := (start loader ids).run order
    (l.finished = true ∨ (∃ k, (l.step k).isSome = true) ∨ ∃ k, l.InRing k) ∧
      (∀ k, l.InRing k →
        (∀ later, (l.run later).InRing k ∧ (l.run later).finished = false) ∧
        ∃ root id, ids[k]? = some root ∧ l.Awaits k id ∧ loader.Reaches root id ∧ loader.Cyclic id) ∧
      (ids.length ≤ 1 → ∀ k, ¬ l.InRing k) := by
  intro l
  have tidy : l.Tidy loader ids := (tidy_start loader ids).run order
  refine ⟨?_, fun k ring => ⟨fun later => ?_, tidy.cyclic_of_ring ring⟩, fun few k ring => ?_⟩
  · by_cases past : l.finished = true
    · exact .inl past
    · by_cases moves : ∃ k, (l.step k).isSome = true
      · exact .inr (.inl moves)
      · refine .inr (.inr (tidy.ring_of_stuck (Bool.eq_false_iff.mpr past) fun k => ?_))
        exact Option.not_isSome_iff_eq_none.mp fun some => moves ⟨k, some⟩
  · have kept := ring.run tidy later
    obtain ⟨other, id, awaits, -⟩ := kept.waits
    exact ⟨kept, finished_eq_false_iff.mpr ⟨k, awaits.busy⟩⟩
  · have two := tidy.two_of_ring ring
    omega

/-- Two types that refer to each other. -/
def twins : Loader :=
  { files := [("A.msg", "B b"), ("B.msg", "A[] a")].foldl (fun (files : Files) (name, text) =>
      files.add ["loop", "msg", name] (.file (Bytes.ofText text))) {}
    packages := .listed [("loop", "/loop")] }

/-- Two loads hold one of the types each, and wait for the other one. -/
theorem locked :
    let l := (start twins ["loop/A", "loop/B"]).run [0, 0, 0, 1, 1, 1]
    l.finished = false ∧ ∀ k, l.step k = none := by
  refine ⟨rfl, fun k => ?_⟩
  match k with
  | 0 => rfl
  | 1 => rfl
  | k + 2 => rfl

end Loads

end TopicWire

import TopicWire.Proofs.Loader.Cache

/-!
# Loading without fuel

`Loader.Runs` says by rules what a load does, and has no fuel. A load follows these rules
(`Loader.runs_iff`), so its fuel never runs out, and it comes to an end whatever the schemas say.
-/

namespace TopicWire.Loader

mutual

/-- Loading a type inside others, from one catalog to a result that holds the next. -/
inductive Runs (l : Loader) :
    List String → String → Catalog → EStateM.Result SchemaError Catalog MessageType → Prop
  | known {inside id before type} (there : before.get? id = some type) :
      Runs l inside id before (.ok type before)
  | again {inside id before} (fresh : before.get? id = none) (within : id ∈ inside) :
      Runs l inside id before (.error (.recursive id) before)
  | unread {inside id before e} (fresh : before.get? id = none) (outside : id ∉ inside)
      (failed : l.schemaText id = .error e) : Runs l inside id before (.error e before)
  | read {inside id before text result} (fresh : before.get? id = none) (outside : id ∉ inside)
      (read : l.schemaText id = .ok text) (ran : RunsText l (id :: inside) id text before result) :
      Runs l inside id before result

/-- Compiling a schema text after loading what it refers to. -/
inductive RunsText (l : Loader) :
    List String → String → String → Catalog → EStateM.Result SchemaError Catalog MessageType → Prop
  | unparsed {inside id text before e} (failed : wanted id text = .error e) :
      RunsText l inside id text before (.error e before)
  | broken {inside id text before names e after} (refers : wanted id text = .ok names)
      (ran : RunsAll l inside names before (.error e after)) :
      RunsText l inside id text before (.error e after)
  | refused {inside id text before names nested e after} (refers : wanted id text = .ok names)
      (ran : RunsAll l inside names before (.ok nested after))
      (failed : MessageType.ofText id text (nested.lookup ·) = .error e) :
      RunsText l inside id text before (.error e after)
  | compiled {inside id text before names nested type after} (refers : wanted id text = .ok names)
      (ran : RunsAll l inside names before (.ok nested after))
      (made : MessageType.ofText id text (nested.lookup ·) = .ok type) :
      RunsText l inside id text before (.ok type (after.insert id type))

/-- Loading types one after the other, up to the first that fails. -/
inductive RunsAll (l : Loader) : List String → List String → Catalog →
    EStateM.Result SchemaError Catalog (List (String × MessageType)) → Prop
  | nil {inside before} : RunsAll l inside [] before (.ok [] before)
  | failed {inside id ids before e after} (first : Runs l inside id before (.error e after)) :
      RunsAll l inside (id :: ids) before (.error e after)
  | broken {inside id ids before type middle e after}
      (first : Runs l inside id before (.ok type middle))
      (rest : RunsAll l inside ids middle (.error e after)) :
      RunsAll l inside (id :: ids) before (.error e after)
  | cons {inside id ids before type middle nested after}
      (first : Runs l inside id before (.ok type middle))
      (rest : RunsAll l inside ids middle (.ok nested after)) :
      RunsAll l inside (id :: ids) before (.ok ((id, type) :: nested) after)

end

variable {l : Loader} {inside ids : List String} {before : Catalog} {id root text : String}
  {load : String → Loading MessageType} {fuel : Nat}

/-- Loading these ids inside others does what the rules say. -/
def Follows (l : Loader) (inside : List String) (load : String → Loading MessageType)
    (ids : List String) : Prop :=
  ∀ id ∈ ids, ∀ before result, l.Runs inside id before result ↔ load id before = result

theorem runsAll_iff (follows : l.Follows inside load ids)
    {result : EStateM.Result SchemaError Catalog (List (String × MessageType))} :
    l.RunsAll inside ids before result ↔ loadAll load ids before = result := by
  induction ids generalizing before result with
  | nil =>
    constructor
    · intro ran
      cases ran
      rfl
    · rintro rfl
      exact .nil
  | cons id ids ih =>
    have one {result} : l.Runs inside id before result ↔ load id before = result :=
      follows id (.head ids) before result
    have others {middle result} :
        l.RunsAll inside ids middle result ↔ loadAll load ids middle = result :=
      ih fun other there => follows other (.tail id there)
    constructor
    · intro ran
      cases ran with
      | failed first => exact loadAll_failed (one.mp first)
      | broken first rest => exact loadAll_broken (one.mp first) (others.mp rest)
      | cons first rest => exact loadAll_cons (one.mp first) (others.mp rest)
    · rintro rfl
      cases first : load id before with
      | error e after =>
        rw [loadAll_failed first]
        exact .failed (one.mpr first)
      | ok type middle =>
        cases rest : loadAll load ids middle with
        | error e after =>
          rw [loadAll_broken first rest]
          exact .broken (one.mpr first) (others.mpr rest)
        | ok nested after =>
          rw [loadAll_cons first rest]
          exact .cons (one.mpr first) (others.mpr rest)

theorem runsText_iff (follows : ∀ names, wanted id text = .ok names → l.Follows inside load names)
    {result : EStateM.Result SchemaError Catalog MessageType} :
    l.RunsText inside id text before result ↔ compileWith load id text before = result := by
  constructor
  · intro ran
    cases ran with
    | unparsed failed => exact compileWith_unparsed failed
    | broken refers ran =>
      exact compileWith_broken refers ((runsAll_iff (follows _ refers)).mp ran)
    | refused refers ran failed =>
      rw [compileWith_loaded refers ((runsAll_iff (follows _ refers)).mp ran), failed]
      rfl
    | compiled refers ran made =>
      rw [compileWith_loaded refers ((runsAll_iff (follows _ refers)).mp ran), made]
      rfl
  · rintro rfl
    cases refers : wanted id text with
    | error e =>
      rw [compileWith_unparsed refers]
      exact .unparsed refers
    | ok names =>
      cases all : loadAll load names before with
      | error e after =>
        rw [compileWith_broken refers all]
        exact .broken refers ((runsAll_iff (follows _ refers)).mpr all)
      | ok nested after =>
        have ran := (runsAll_iff (follows _ refers)).mpr all
        rw [compileWith_loaded refers all]
        cases made : MessageType.ofText id text (nested.lookup ·) with
        | error e => exact .refused refers ran made
        | ok type => exact .compiled refers ran made

theorem runs_iff (ample : l.Ample root fuel inside) :
    l.Follows inside (l.loadInside fuel inside) (l.ids root) := by
  induction fuel generalizing inside with
  | zero => exact (Nat.lt_irrefl 0 ample.pos).elim
  | succ fuel ih =>
    intro id member before result
    have follows {text} (outside : id ∉ inside) (read : l.schemaText id = .ok text) names
        (refers : wanted id text = .ok names) :
        l.Follows (id :: inside) (l.loadInside fuel (id :: inside)) names :=
      fun name named => ih (ample.more member outside) name (wanted_among member read refers named)
    constructor
    · intro ran
      cases ran with
      | known there => exact loadInside_known there
      | again fresh within => rw [loadInside_new fresh, if_pos within]
      | unread fresh outside failed => rw [loadInside_new fresh, if_neg outside, failed]
      | read fresh outside read ran =>
        rw [loadInside_new fresh, if_neg outside, read]
        exact (runsText_iff (follows outside read)).mp ran
    · rintro rfl
      cases there : before.get? id with
      | some type =>
        rw [loadInside_known there]
        exact .known there
      | none =>
        rw [loadInside_new there]
        split
        · exact .again there ‹_›
        · rename_i outside
          cases read : l.schemaText id with
          | error e => exact .unread there outside read
          | ok text => exact .read there outside read ((runsText_iff (follows outside read)).mpr rfl)

theorem load_runs (l : Loader) (id : String) (before : Catalog)
    (result : EStateM.Result SchemaError Catalog MessageType) :
    l.Runs [] id before result ↔ l.load id before = result :=
  runs_iff (.start l id) id (l.root_mem id) before result

end TopicWire.Loader

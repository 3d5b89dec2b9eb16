import TopicWire.Session.Port

/-!
# Which port a search decides on

A search comes to a port if every port before it, from the first one on, is taken (`SearchReaches`). It
ends at the first port that is not taken, with what that port says, or after the last one. It asks for no
other port, so that nothing else can matter (`bindFirstFree_exact`).
-/

namespace TopicWire

variable {bind other : Nat → Binding} {count first port : Nat}

/-- Another listener has the port, or it may not be used. -/
def Taken (bind : Nat → Binding) (port : Nat) : Prop :=
  ∃ cause, bind port = .taken cause

/-- A search from the first port on comes to this one. -/
def SearchReaches (bind : Nat → Binding) (first port : Nat) : Prop :=
  first ≤ port ∧ ∀ before, first ≤ before → before < port → Taken bind before

namespace Binding

/-- What a search comes to at a port, unless the port is taken. -/
def answer? : Binding → Option PortSearch
  | .bound endpoint => some (.bound endpoint)
  | .failed cause => some (.failed cause)
  | .taken _ => none

theorem answer?_eq_bound_iff {b : Binding} {endpoint : Endpoint} :
    b.answer? = some (.bound endpoint) ↔ b = .bound endpoint := by
  cases b <;> simp [answer?]

theorem answer?_eq_failed_iff {b : Binding} {cause : String} :
    b.answer? = some (.failed cause) ↔ b = .failed cause := by
  cases b <;> simp [answer?]

theorem answer?_ne_exhausted (b : Binding) : b.answer? ≠ some .exhausted := by
  cases b <;> simp [answer?]

end Binding

theorem answer?_of_taken (taken : Taken bind port) : (bind port).answer? = none := by
  obtain ⟨cause, eq⟩ := taken
  rw [eq, Binding.answer?]

theorem searchReaches_self (bind : Nat → Binding) (first : Nat) : SearchReaches bind first first :=
  ⟨Nat.le_refl first, fun _ lower upper => absurd upper (Nat.not_lt.mpr lower)⟩

/-- To come to a port other than the first is to find the first one taken and to go on behind it. -/
theorem searchReaches_iff_succ (ne : first ≠ port) :
    SearchReaches bind first port ↔ Taken bind first ∧ SearchReaches bind (first + 1) port := by
  constructor
  · rintro ⟨le, taken⟩
    have lt : first < port := Nat.lt_of_le_of_ne le ne
    refine ⟨taken first (Nat.le_refl first) lt, lt, fun before lower upper => ?_⟩
    exact taken before (Nat.le_of_succ_le lower) upper
  · rintro ⟨here, lt, taken⟩
    refine ⟨Nat.le_of_succ_le lt, fun before lower upper => ?_⟩
    rcases Nat.eq_or_lt_of_le lower with rfl | lower
    · exact here
    · exact taken before lower upper

theorem searchReaches_iff_self (free : ¬ Taken bind first) :
    SearchReaches bind first port ↔ port = first := by
  constructor
  · intro reached
    by_cases eq : first = port
    · exact eq.symm
    · exact absurd ((searchReaches_iff_succ eq).mp reached).1 free
  · rintro rfl
    exact searchReaches_self bind port

/-! ### One search -/

theorem searchPorts_of_taken (taken : Taken bind first) :
    searchPorts bind (count + 1) first =
      ((searchPorts bind count (first + 1)).1, first :: (searchPorts bind count (first + 1)).2) := by
  obtain ⟨cause, eq⟩ := taken
  rw [searchPorts, eq]

theorem searchPorts_of_answer {found : PortSearch} (answer : (bind first).answer? = some found) :
    searchPorts bind (count + 1) first = (found, [first]) := by
  rw [searchPorts]
  cases eq : bind first with
  | bound endpoint => rw [eq] at answer; cases answer; rfl
  | taken cause => rw [eq] at answer; cases answer
  | failed cause => rw [eq] at answer; cases answer; rfl

theorem taken_or_answer (bind : Nat → Binding) (port : Nat) :
    Taken bind port ∨ ∃ found, (bind port).answer? = some found := by
  cases eq : bind port with
  | bound endpoint => exact .inr ⟨_, rfl⟩
  | taken cause => exact .inl ⟨cause, eq⟩
  | failed cause => exact .inr ⟨_, rfl⟩

theorem not_taken_of_answer {found : PortSearch} (answer : (bind port).answer? = some found) :
    ¬ Taken bind port := by
  intro taken
  rw [answer?_of_taken taken] at answer
  cases answer

theorem searchPorts_eq_iff {found : PortSearch} :
    (searchPorts bind count first).1 = found ↔
      (∃ port, SearchReaches bind first port ∧ port < first + count ∧ (bind port).answer? = some found) ∨
      (∀ port, first ≤ port → port < first + count → Taken bind port) ∧ found = .exhausted := by
  induction count generalizing first with
  | zero =>
    constructor
    · rintro rfl
      exact .inr ⟨fun port lower upper => absurd upper (Nat.not_lt.mpr lower), rfl⟩
    · rintro (⟨port, ⟨lower, _⟩, upper, _⟩ | ⟨_, rfl⟩)
      · exact absurd upper (Nat.not_lt.mpr lower)
      · rfl
  | succ count ih =>
    have shifted : first + 1 + count = first + (count + 1) := by omega
    rcases taken_or_answer bind first with taken | ⟨answer, answers⟩
    · rw [searchPorts_of_taken taken, ih, shifted]
      refine or_congr (exists_congr fun port => ?_) (and_congr_left fun _ => ?_)
      · by_cases ne : first = port
        · subst ne
          -- The first port is no answer, and a search that starts behind it does not come to it.
          simp [answer?_of_taken taken]
        · rw [searchReaches_iff_succ ne, and_iff_right taken]
      · constructor
        · intro all port lower upper
          rcases Nat.eq_or_lt_of_le lower with rfl | lower
          · exact taken
          · exact all port lower upper
        · exact fun all port lower => all port (Nat.le_of_succ_le lower)
    · have free := not_taken_of_answer answers
      rw [searchPorts_of_answer answers]
      constructor
      · rintro rfl
        exact .inl ⟨first, searchReaches_self bind first, by omega, answers⟩
      · rintro (⟨port, reached, _, answer⟩ | ⟨all, _⟩)
        · rw [searchReaches_iff_self free] at reached
          subst reached
          exact Option.some.inj (answers.symm.trans answer)
        · exact absurd (all first (Nat.le_refl first) (by omega)) free

theorem mem_tried_iff :
    port ∈ (searchPorts bind count first).2 ↔ SearchReaches bind first port ∧ port < first + count := by
  induction count generalizing first with
  | zero =>
    constructor
    · intro mem
      cases mem
    · rintro ⟨⟨lower, _⟩, upper⟩
      exact absurd upper (Nat.not_lt.mpr lower)
  | succ count ih =>
    have shifted : first + 1 + count = first + (count + 1) := by omega
    by_cases ne : first = port
    · subst ne
      rcases taken_or_answer bind first with taken | ⟨answer, answers⟩
      · simp [searchPorts_of_taken taken, searchReaches_self bind first]
      · simp [searchPorts_of_answer answers, searchReaches_self bind first]
    · rcases taken_or_answer bind first with taken | ⟨answer, answers⟩
      · rw [searchPorts_of_taken taken, List.mem_cons, or_iff_right fun eq => ne eq.symm, ih, shifted,
          searchReaches_iff_succ ne, and_iff_right taken]
      · rw [searchPorts_of_answer answers, searchReaches_iff_self (not_taken_of_answer answers),
          List.mem_singleton]
        exact ⟨fun eq => absurd eq.symm ne, fun both => absurd both.1.symm ne⟩

/-- The ports are tried one after the other, each once. -/
theorem tried_eq_range' :
    (searchPorts bind count first).2 = List.range' first (searchPorts bind count first).2.length := by
  induction count generalizing first with
  | zero => rfl
  | succ count ih =>
    rcases taken_or_answer bind first with taken | ⟨answer, answers⟩
    · rw [searchPorts_of_taken taken, List.length_cons, List.range'_succ, ← ih]
    · rw [searchPorts_of_answer answers]
      rfl

theorem searchPorts_congr
    (same : ∀ port ∈ (searchPorts bind count first).2, other port = bind port) :
    searchPorts other count first = searchPorts bind count first := by
  induction count generalizing first with
  | zero => rfl
  | succ count ih =>
    rcases taken_or_answer bind first with taken | ⟨answer, answers⟩
    · rw [searchPorts_of_taken taken] at same ⊢
      have here : other first = bind first := same first List.mem_cons_self
      have alsoTaken : Taken other first := by
        obtain ⟨cause, eq⟩ := taken
        exact ⟨cause, here.trans eq⟩
      rw [searchPorts_of_taken alsoTaken, ih fun port mem => same port (List.mem_cons_of_mem first mem)]
    · rw [searchPorts_of_answer answers] at same ⊢
      have here : other first = bind first := same first List.mem_cons_self
      rw [searchPorts_of_answer (here ▸ answers)]

/-! ### The search of a publisher -/

def triedPorts (bind : Nat → Binding) (base attempts : Nat) : List Nat :=
  (searchPorts bind (lastPort base attempts + 1 - base) base).2

theorem lastPort_eq (base attempts : Nat) :
    lastPort base attempts = min (base + max attempts 1 - 1) 65535 := by
  rw [lastPort]
  omega

section

variable {host : String} {base attempts : Nat} {endpoint : Endpoint} {cause : String}

theorem bindFirstFree_of_pos (positive : 0 < base) :
    bindFirstFree bind host base attempts =
      match (searchPorts bind (lastPort base attempts + 1 - base) base).1 with
      | .bound endpoint => .ok endpoint
      | .failed cause => .error (.failed cause)
      | .exhausted => .error (.noFreePort host base attempts) := by
  exact if_neg (Nat.ne_of_gt positive)

theorem bindFirstFree_eq_ok_iff (positive : 0 < base) :
    bindFirstFree bind host base attempts = .ok endpoint ↔
      (searchPorts bind (lastPort base attempts + 1 - base) base).1 = .bound endpoint := by
  rw [bindFirstFree_of_pos positive]
  cases (searchPorts bind (lastPort base attempts + 1 - base) base).1 <;> simp

theorem bindFirstFree_eq_failed_iff (positive : 0 < base) :
    bindFirstFree bind host base attempts = .error (.failed cause) ↔
      (searchPorts bind (lastPort base attempts + 1 - base) base).1 = .failed cause := by
  rw [bindFirstFree_of_pos positive]
  cases (searchPorts bind (lastPort base attempts + 1 - base) base).1 <;> simp

theorem bindFirstFree_eq_noFreePort_iff (positive : 0 < base) :
    bindFirstFree bind host base attempts = .error (.noFreePort host base attempts) ↔
      (searchPorts bind (lastPort base attempts + 1 - base) base).1 = .exhausted := by
  rw [bindFirstFree_of_pos positive]
  cases (searchPorts bind (lastPort base attempts + 1 - base) base).1 <;> simp

theorem bindFirstFree_congr (positive : 0 < base)
    (same : ∀ port ∈ triedPorts bind base attempts, other port = bind port) :
    bindFirstFree other host base attempts = bindFirstFree bind host base attempts := by
  rw [bindFirstFree_of_pos positive, bindFirstFree_of_pos positive, searchPorts_congr same]

end

/-- The first port that is not taken decides, if there is one up to the last, and what the ports behind
it would say makes no difference. -/
theorem bindFirstFree_exact (bind : Nat → Binding) (host : String) (base attempts : Nat)
    (positive : 0 < base) :
    let last := min (base + max attempts 1 - 1) 65535
    (∀ endpoint, bindFirstFree bind host base attempts = .ok endpoint ↔
      ∃ port, SearchReaches bind base port ∧ port ≤ last ∧ bind port = .bound endpoint) ∧
    (∀ cause, bindFirstFree bind host base attempts = .error (.failed cause) ↔
      ∃ port, SearchReaches bind base port ∧ port ≤ last ∧ bind port = .failed cause) ∧
    (bindFirstFree bind host base attempts = .error (.noFreePort host base attempts) ↔
      ∀ port, base ≤ port → port ≤ last → Taken bind port) ∧
    (∀ port, port ∈ triedPorts bind base attempts ↔ SearchReaches bind base port ∧ port ≤ last) ∧
    (∃ tries, triedPorts bind base attempts = List.range' base tries) ∧
    ∀ other : Nat → Binding, (∀ port ∈ triedPorts bind base attempts, other port = bind port) →
      bindFirstFree other host base attempts = bindFirstFree bind host base attempts := by
  intro last
  have lastEq : lastPort base attempts = last := lastPort_eq base attempts
  -- The ports from `base` on that are counted are those up to `last`, also if `base` is beyond it.
  have upTo (port : Nat) (lower : base ≤ port) :
      port < base + (lastPort base attempts + 1 - base) ↔ port ≤ last := by
    rw [lastEq]
    omega
  refine ⟨fun endpoint => ?_, fun cause => ?_, ?_, fun port => ?_, ⟨_, tried_eq_range'⟩,
    fun other same => bindFirstFree_congr positive same⟩
  · rw [bindFirstFree_eq_ok_iff positive, searchPorts_eq_iff, or_iff_left (by simp)]
    refine exists_congr fun port => and_congr_right fun reached => ?_
    rw [upTo port reached.1, Binding.answer?_eq_bound_iff]
  · rw [bindFirstFree_eq_failed_iff positive, searchPorts_eq_iff, or_iff_left (by simp)]
    refine exists_congr fun port => and_congr_right fun reached => ?_
    rw [upTo port reached.1, Binding.answer?_eq_failed_iff]
  · rw [bindFirstFree_eq_noFreePort_iff positive, searchPorts_eq_iff, or_iff_right, and_iff_left rfl]
    · refine forall_congr' fun port => forall_congr' fun lower => ?_
      rw [upTo port lower]
    · rintro ⟨port, _, _, answer⟩
      exact Binding.answer?_ne_exhausted (bind port) answer
  · rw [triedPorts, mem_tried_iff]
    exact and_congr_right fun reached => upTo port reached.1

/-- The greatest port but one is taken: the search ends with the greatest, however many are allowed. -/
theorem bindFirstFree_at_greatest :
    0 < 65534 ∧
      bindFirstFree (fun port => if port = 65534 then .taken "in use" else .bound ⟨"localhost", port⟩)
        "localhost" 65534 50 = .ok ⟨"localhost", 65535⟩ := by
  refine ⟨by decide, ((bindFirstFree_exact _ "localhost" 65534 50 (by decide)).1 _).mpr ?_⟩
  refine ⟨65535, ⟨by decide, fun before lower upper => ⟨"in use", if_pos ?_⟩⟩, by decide, rfl⟩
  omega

end TopicWire

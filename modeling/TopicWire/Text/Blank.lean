/-!
# Blank characters

`isBlank` holds of the characters with the White_Space property and `isAsciiBlank` of the five
ASCII ones that separate two words of a line. `trim` removes blanks from both ends of a text, and
nothing else (`exists_blanks_trim`), so a trimmed text neither starts nor ends with one
(`trimmed_trim`) and stays as it is when it is trimmed again (`Trimmed.trim_eq`). Blanks in front make
no difference (`trim_blanks_append`) and a visible character in front stays there (`exists_trim_cons`).
-/

namespace TopicWire.Text

/-- Has the White_Space property. -/
def isBlank (c : Char) : Bool :=
  ('\t' ≤ c && c ≤ '\r') || c == ' ' || c == '\u0085' || c == '\u00a0' || c == '\u1680' ||
    ('\u2000' ≤ c && c ≤ '\u200a') || c == '\u2028' || c == '\u2029' || c == '\u202f' ||
    c == '\u205f' || c == '\u3000'

/-- A space, a tab, a line feed, a form feed or a carriage return. -/
def isAsciiBlank (c : Char) : Bool :=
  c == ' ' || c == '\t' || c == '\n' || c == '\x0c' || c == '\r'

theorem isBlank_of_isAsciiBlank {c : Char} (h : isAsciiBlank c = true) : isBlank c = true := by
  simp only [isAsciiBlank, Bool.or_eq_true, beq_iff_eq] at h
  rcases h with (((h | h) | h) | h) | h <;> subst h <;> decide

def trimStart (cs : List Char) : List Char :=
  cs.dropWhile isBlank

def trimEnd (cs : List Char) : List Char :=
  (cs.reverse.dropWhile isBlank).reverse

def trim (cs : List Char) : List Char :=
  trimEnd (trimStart cs)

theorem trim_blanks_append {blanks rest : List Char} (blank : ∀ c ∈ blanks, isBlank c = true) :
    trim (blanks ++ rest) = trim rest := by
  have front : trimStart (blanks ++ rest) = trimStart rest := by
    unfold trimStart
    induction blanks with
    | nil => rfl
    | cons c blanks ih =>
      rw [List.cons_append, List.dropWhile_cons_of_pos (blank c (.head _))]
      exact ih fun b there => blank b (.tail _ there)
  rw [trim, front, trim]

theorem exists_trim_cons {c : Char} {cs : List Char} (visible : isBlank c = false) :
    ∃ rest, trim (c :: cs) = c :: rest := by
  have stays (cs : List Char) : (c :: cs).dropWhile isBlank = c :: cs :=
    List.dropWhile_cons_of_neg (by rw [visible]; decide)
  rw [trim, trimStart, stays, trimEnd, List.reverse_cons, List.dropWhile_append, stays]
  split
  · exact ⟨[], rfl⟩
  · rw [List.reverse_append]
    exact ⟨_, rfl⟩

/-- Neither the first nor the last character is a blank. -/
structure Trimmed (cs : List Char) : Prop where
  front : ∀ c ∈ cs.head?, isBlank c = false
  back : ∀ c ∈ cs.getLast?, isBlank c = false

theorem dropWhile_eq_self {cs : List Char} (visible : ∀ c ∈ cs.head?, isBlank c = false) :
    cs.dropWhile isBlank = cs := by
  cases cs with
  | nil => rfl
  | cons c cs => exact List.dropWhile_cons_of_neg (by rw [visible c rfl]; decide)

theorem head?_dropWhile_visible (cs : List Char) :
    ∀ c ∈ (cs.dropWhile isBlank).head?, isBlank c = false := by
  intro c first
  have visible := List.head?_dropWhile_not isBlank cs
  rwa [first] at visible

theorem Trimmed.trim_eq {cs : List Char} (trimmed : Trimmed cs) : trim cs = cs := by
  have back : ∀ c ∈ cs.reverse.head?, isBlank c = false := by
    rw [List.head?_reverse]
    exact trimmed.back
  rw [trim, trimStart, dropWhile_eq_self trimmed.front, trimEnd, dropWhile_eq_self back,
    List.reverse_reverse]

theorem trim_of_none_blank {cs : List Char} (none : ∀ c ∈ cs, isBlank c = false) : trim cs = cs :=
  Trimmed.trim_eq ⟨fun c first => none c (List.mem_of_mem_head? first),
    fun c last => none c (List.mem_of_getLast? last)⟩

theorem trimStart_eq_trim_append (cs : List Char) :
    ∃ back, trimStart cs = trim cs ++ back ∧ ∀ c ∈ back, isBlank c = true := by
  refine ⟨((trimStart cs).reverse.takeWhile isBlank).reverse, ?_, ?_⟩
  · rw [trim, trimEnd, ← List.reverse_append, List.takeWhile_append_dropWhile, List.reverse_reverse]
  · intro c there
    exact List.all_eq_true.mp List.all_takeWhile c (List.mem_reverse.mp there)

theorem exists_blanks_trim (cs : List Char) : ∃ front back, cs = front ++ (trim cs ++ back) ∧
    (∀ c ∈ front, isBlank c = true) ∧ ∀ c ∈ back, isBlank c = true := by
  obtain ⟨back, rest, blank⟩ := trimStart_eq_trim_append cs
  refine ⟨cs.takeWhile isBlank, back, ?_, List.all_eq_true.mp List.all_takeWhile, blank⟩
  rw [← rest, trimStart, List.takeWhile_append_dropWhile]

theorem trimmed_trim (cs : List Char) : Trimmed (trim cs) := by
  constructor
  · intro c first
    obtain ⟨back, rest, -⟩ := trimStart_eq_trim_append cs
    apply head?_dropWhile_visible cs
    show c ∈ (trimStart cs).head?
    rw [rest, List.head?_append, first]
    rfl
  · rw [trim, trimEnd, List.getLast?_reverse]
    exact head?_dropWhile_visible _

theorem mem_of_mem_trim {c : Char} {cs : List Char} (there : c ∈ trim cs) : c ∈ cs := by
  obtain ⟨front, back, whole, -⟩ := exists_blanks_trim cs
  rw [whole]
  exact List.mem_append_right _ (List.mem_append_left _ there)

end TopicWire.Text

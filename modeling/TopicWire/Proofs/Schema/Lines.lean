import Mathlib.Data.List.Forall2
import TopicWire.Proofs.Result
import TopicWire.Schema.FieldLine

/-!
# Schemas line by line

Reading lines after others is reading them alone with later numbers: `readLines_append` and
`readLines_later` say so for lists of lines and `parse_append` for texts. Lines are counted whatever
they hold, fields only where there are some, so that the two counts move apart at silent lines, those
of blanks and comments (`ofLine_eq_blank_iff`). `readLines_ok_iff` says what the fields of a schema are.
-/

namespace TopicWire

namespace FieldLine

variable {number count : Nat} {line : List Char} {texts xs ys : List (List Char)}
  {field : FieldLine} {fields : List FieldLine} {e : SchemaError} {a text : String}
  {typeName name : List Char} {literal : Option (List Char)}

/-! ### Later lines and fields -/

/-- The field as it is read after `count` others. -/
def after (count : Nat) (field : FieldLine) : FieldLine :=
  { field with ordinal := count + field.ordinal }

/-- What is read after `lines` other lines, in which there are `count` fields. -/
def later (lines count : Nat) : Except SchemaError (List FieldLine) → Except SchemaError (List FieldLine)
  | .ok fields => .ok (fields.map (after count))
  | .error (.missingName number content) => .error (.missingName (lines + number) content)
  | .error e => .error e

theorem readLines_error (failed : readLines number count texts = .error e) :
    ∃ line content, e = .missingName line content := by
  induction texts generalizing number count with
  | nil => cases failed
  | cons text texts ih =>
    unfold readLines at failed
    split at failed
    · exact ih failed
    · cases failed
      exact ⟨number, _, rfl⟩
    · rcases Result.bind_error_iff.mp failed with rest | ⟨_, _, done⟩
      · exact ih rest
      · cases done

theorem readLines_later (lines before : Nat) : readLines (lines + number) (before + count) texts =
    later lines before (readLines number count texts) := by
  induction texts generalizing number count with
  | nil => rfl
  | cons text texts ih =>
    unfold readLines
    split
    · rw [Nat.add_assoc, ih]
    · rfl
    · rw [Nat.add_assoc, Nat.add_assoc, ih]
      cases rest : readLines (number + 1) (count + 1) texts with
      | ok fields => rfl
      | error e =>
        obtain ⟨line, content, rfl⟩ := readLines_error rest
        rfl

theorem readLines_append : readLines number count (xs ++ ys) = do
    let first ← readLines number count xs
    let rest ← readLines (number + xs.length) (count + first.length) ys
    return first ++ rest := by
  induction xs generalizing number count with
  | nil =>
    show readLines number count ys = (readLines number count ys >>= fun rest => .ok rest)
    cases readLines number count ys <;> rfl
  | cons x xs ih =>
    have next (m n : Nat) : m + 1 + n = m + (n + 1) := by omega
    simp only [List.cons_append, List.length_cons, readLines]
    cases Reading.ofLine x with
    | blank =>
      show readLines (number + 1) count (xs ++ ys) = _
      rw [ih, next]
    | missingName content => rfl
    | field typeName name literal =>
      show (readLines (number + 1) (count + 1) (xs ++ ys) >>= _) = _
      rw [ih, next]
      cases readLines (number + 1) (count + 1) xs with
      | error e => rfl
      | ok first =>
        show ((readLines (number + (xs.length + 1)) (count + 1 + first.length) ys >>= _) >>= _) =
          (readLines (number + (xs.length + 1)) (count + (first.length + 1)) ys >>= _)
        rw [next]
        cases readLines (number + (xs.length + 1)) (count + (first.length + 1)) ys <;> rfl

theorem readLines_concat_nil :
    readLines number count (xs ++ [[]]) = readLines number count xs := by
  rw [readLines_append]
  cases readLines number count xs with
  | error e => rfl
  | ok first =>
    show Except.ok (first ++ []) = .ok first
    rw [List.append_nil]

/-! ### Silent lines -/

/-- The line has blanks only, before a comment or the end of the line. -/
def Silent (line : List Char) : Prop :=
  ∃ blanks rest, line = blanks ++ rest ∧ (∀ c ∈ blanks, Text.isBlank c = true) ∧
    (rest = [] ∨ ∃ comment, rest = '#' :: comment)

theorem Silent.ofLine (silent : Silent line) : Reading.ofLine line = .blank := by
  obtain ⟨blanks, rest, rfl, blank, comment⟩ := silent
  rw [Reading.ofLine, Text.trim_blanks_append blank]
  rcases comment with rfl | ⟨comment, rfl⟩
  · rfl
  · obtain ⟨more, trimmed⟩ : ∃ more, Text.trim ('#' :: comment) = '#' :: more :=
      Text.exists_trim_cons rfl
    have nothing : withoutComment ('#' :: more) = [] := rfl
    rw [trimmed, nothing]
    rfl

theorem exists_withoutComment_cons {c : Char} (other : c ≠ '#') (cs : List Char) :
    ∃ rest, withoutComment (c :: cs) = c :: rest := by
  have stays : (c :: cs).takeWhile (· != '#') = c :: cs.takeWhile (· != '#') :=
    List.takeWhile_cons_of_pos (bne_iff_ne.mpr other)
  rw [withoutComment, stays]
  split
  · exact ⟨cs, rfl⟩
  · exact ⟨_, rfl⟩

theorem ofContent_cons_ne_blank (c : Char) (cs : List Char) : Reading.ofContent (c :: cs) ≠ .blank := by
  unfold Reading.ofContent
  rw [if_neg (by simp)]
  split
  · nofun
  · dsimp only
    split <;> split <;> nofun

/-- The first visible character decides. Unless it starts a comment, nothing takes it away. -/
theorem ofLine_eq_blank_iff : Reading.ofLine line = .blank ↔ Silent line := by
  constructor
  · intro blank
    have together := List.takeWhile_append_dropWhile (p := Text.isBlank) (l := line)
    have blanks : ∀ c ∈ line.takeWhile Text.isBlank, Text.isBlank c = true :=
      List.all_eq_true.mp List.all_takeWhile
    cases rest : line.dropWhile Text.isBlank with
    | nil => exact ⟨_, _, together.symm, blanks, .inl rest⟩
    | cons c cs =>
      by_cases comment : c = '#'
      · exact ⟨_, _, together.symm, blanks, .inr ⟨cs, comment ▸ rest⟩⟩
      · have visible : Text.isBlank c = false := by
          have first := List.head?_dropWhile_not Text.isBlank line
          rwa [rest] at first
        obtain ⟨trimmed, front⟩ : ∃ trimmed, Text.trim (c :: cs) = c :: trimmed :=
          Text.exists_trim_cons visible
        obtain ⟨uncut, kept⟩ := exists_withoutComment_cons comment trimmed
        obtain ⟨content, held⟩ : ∃ content, Text.trim (c :: uncut) = c :: content :=
          Text.exists_trim_cons visible
        rw [← together, rest, Reading.ofLine, Text.trim_blanks_append blanks, front, kept, held] at blank
        exact (ofContent_cons_ne_blank c content blank).elim
  · exact Silent.ofLine

instance : DecidablePred Silent := fun line =>
  decidable_of_iff (Reading.ofLine line = .blank) ofLine_eq_blank_iff

theorem filter_silent (silent : Silent line) :
    (line :: texts).filter (¬ Silent ·) = texts.filter (¬ Silent ·) :=
  List.filter_cons_of_neg (by simpa using silent)

theorem filter_filled (filled : ¬ Silent line) :
    (line :: texts).filter (¬ Silent ·) = line :: texts.filter (¬ Silent ·) :=
  List.filter_cons_of_pos (by simpa using filled)

/-! ### The fields that lines make -/

/-- The field is what the line says. -/
def Tells (line : List Char) (field : FieldLine) : Prop :=
  Reading.ofLine line =
    .field field.typeName.toList field.name.toList (field.literal.map String.toList)

theorem tells_iff (read : Reading.ofLine line = .field typeName name literal) : Tells line field ↔
    field.name = String.ofList name ∧ field.typeName = String.ofList typeName ∧
      field.literal = literal.map String.ofList := by
  rw [Tells, read, Reading.field.injEq]
  constructor
  · rintro ⟨rfl, rfl, rfl⟩
    refine ⟨String.ofList_toList.symm, String.ofList_toList.symm, ?_⟩
    cases field.literal with
    | none => rfl
    | some literal => exact congrArg some String.ofList_toList.symm
  · rintro ⟨sameName, sameType, sameLiteral⟩
    rw [sameName, sameType, sameLiteral]
    refine ⟨String.toList_ofList.symm, String.toList_ofList.symm, ?_⟩
    cases literal with
    | none => rfl
    | some literal => exact congrArg some String.toList_ofList.symm

/-- The fields are numbered without gaps, in the order of the lines that hold something. -/
theorem readLines_ok_iff : readLines number count texts = .ok fields ↔
    fields.map ordinal = List.range' (count + 1) fields.length ∧
      List.Forall₂ Tells (texts.filter (¬ Silent ·)) fields := by
  induction texts generalizing number count fields with
  | nil =>
    rw [List.filter_nil, List.forall₂_nil_left_iff]
    constructor
    · rintro ⟨⟩
      exact ⟨rfl, rfl⟩
    · rintro ⟨-, rfl⟩
      rfl
  | cons text texts ih =>
    cases read : Reading.ofLine text with
    | blank => rw [filter_silent (ofLine_eq_blank_iff.mp read), ← ih, readLines, read]
    | missingName content =>
      have filled : ¬ Silent text := fun silent => by cases read.symm.trans silent.ofLine
      rw [filter_filled filled, List.forall₂_cons_left_iff]
      constructor
      · intro parsed
        rw [readLines, read] at parsed
        cases parsed
      · rintro ⟨-, field, _, tells, -, rfl⟩
        cases read.symm.trans tells
    | field typeName name literal =>
      have filled : ¬ Silent text := fun silent => by cases read.symm.trans silent.ofLine
      rw [filter_filled filled, List.forall₂_cons_left_iff, readLines, read]
      constructor
      · intro parsed
        obtain ⟨rest, rest_ok, made⟩ := Result.bind_ok_iff.mp parsed
        obtain ⟨ordinals, tell⟩ := ih.mp rest_ok
        obtain rfl := Except.ok.inj made
        refine ⟨?_, _, rest, (tells_iff read).mpr ⟨rfl, rfl, rfl⟩, tell, rfl⟩
        rw [List.map_cons, ordinals, List.length_cons, List.range'_succ]
      · rintro ⟨ordinals, field, rest, tells, tell, rfl⟩
        obtain ⟨fieldName, fieldType, fieldLiteral, position⟩ := field
        obtain ⟨rfl, rfl, rfl⟩ := (tells_iff read).mp tells
        rw [List.map_cons, List.length_cons, List.range'_succ, List.cons.injEq] at ordinals
        obtain ⟨rfl, ordinals⟩ := ordinals
        exact Result.bind_ok_iff.mpr ⟨rest, ih.mpr ⟨ordinals, tell⟩, rfl⟩

/-! ### The lines of a text -/

/-- The lines of a text, the empty one after the last line feed included. -/
def linesOf (text : String) : List (List Char) :=
  text.toList.splitOn '\n'

def filledLines (text : String) : List (List Char) :=
  (linesOf text).filter (¬ Silent ·)

/-- How many lines of a text are ended. -/
def lineCount (text : String) : Nat :=
  text.toList.count '\n'

/-- No line of the text is left open. -/
def EndsLine (text : String) : Prop :=
  text = "" ∨ ∃ front, text = front ++ "\n"

theorem length_splitOn (c : Char) (cs : List Char) : (cs.splitOn c).length = cs.count c + 1 := by
  unfold List.splitOn
  induction cs with
  | nil => rfl
  | cons d cs ih =>
    rw [List.splitOnP_cons_eq_if_modifyHead, List.count_cons]
    split
    · rw [List.length_cons, ih]
    · rw [List.length_modifyHead, ih]

/-- The ended lines of a text come before the lines of any text after it. -/
theorem EndsLine.exists_lines (ended : EndsLine a) : ∃ whole, whole.length = lineCount a ∧
    linesOf a = whole ++ [[]] ∧ ∀ b, linesOf (a ++ b) = whole ++ linesOf b := by
  rcases ended with rfl | ⟨front, rfl⟩
  · refine ⟨[], rfl, rfl, ?_⟩
    intro b
    rw [String.empty_append, List.nil_append]
  · refine ⟨front.toList.splitOn '\n', ?_, ?_, ?_⟩
    · rw [length_splitOn, lineCount, String.toList_append, List.count_append]
      rfl
    · rw [linesOf, String.toList_append]
      exact List.splitOn_append_cons_self _ _
    · intro b
      rw [linesOf, String.toList_append, String.toList_append, List.append_assoc]
      exact List.splitOn_append_cons_self _ _

theorem parse_append (ended : EndsLine a) (b : String) : parse (a ++ b) = do
    let first ← parse a
    let rest ← later (lineCount a) first.length (parse b)
    return first ++ rest := by
  obtain ⟨whole, length, alone, together⟩ := ended.exists_lines
  have first : parse a = readLines 1 0 whole := by
    show readLines 1 0 (linesOf a) = _
    rw [alone, readLines_concat_nil]
  show readLines 1 0 (linesOf (a ++ b)) = _
  rw [together, readLines_append, first, length]
  cases readLines 1 0 whole with
  | error e => rfl
  | ok fields =>
    have rest : readLines (lineCount a + 1) (fields.length + 0) (linesOf b) =
      later (lineCount a) fields.length (parse b) := readLines_later _ _
    show (readLines (1 + lineCount a) (0 + fields.length) (linesOf b) >>= _) =
      (later (lineCount a) fields.length (parse b) >>= _)
    rw [Nat.add_comm 1, Nat.add_comm 0, rest]

theorem filledLines_append (ended : EndsLine a) (b : String) :
    filledLines (a ++ b) = filledLines a ++ filledLines b := by
  obtain ⟨whole, -, alone, together⟩ := ended.exists_lines
  rw [filledLines, filledLines, together, alone, List.filter_append, List.filter_append]
  show _ = (_ ++ []) ++ _
  rw [List.append_nil]
  rfl

theorem filledLines_silent (silent : ∀ line ∈ linesOf text, Silent line) : filledLines text = [] := by
  apply List.filter_eq_nil_iff.mpr
  intro line there
  simpa using silent line there

/-- Schemas are parsed line by line. After a text whose last line is ended, nothing changes what is
wrong with it; what is wrong with a text after it stays so, that many lines later; and the fields of
both are those of the one and then those of the other, that many fields later. Lines with blanks and
comments only change no field, and the fields are numbered from 1 on in the order of the lines that
hold one. The numbers are those of the program for fewer than 2 ^ 32 fields. -/
theorem parse_lines {a b : String} (ended : EndsLine a) :
    (∀ e, parse a = .error e → parse (a ++ b) = .error e) ∧
    (∀ first, parse a = .ok first →
      (∀ e, parse b = .error e → ∃ line content, e = .missingName line content ∧
        parse (a ++ b) = .error (.missingName (lineCount a + line) content)) ∧
      (∀ rest, parse b = .ok rest →
        parse (a ++ b) = .ok (first ++ rest.map (after first.length)))) ∧
    (∀ between, EndsLine between → (∀ line ∈ linesOf between, Silent line) →
      ∀ fields, parse (a ++ between ++ b) = .ok fields ↔ parse (a ++ b) = .ok fields) ∧
    (∀ text fields, parse text = .ok fields ↔
      fields.map ordinal = List.range' 1 fields.length ∧
        List.Forall₂ Tells (filledLines text) fields) := by
  refine ⟨?_, ?_, ?_, ?_⟩
  · intro e failed
    rw [parse_append ended, failed]
    rfl
  · intro first parsed
    constructor
    · intro e failed
      obtain ⟨line, content, rfl⟩ := readLines_error failed
      refine ⟨line, content, rfl, ?_⟩
      rw [parse_append ended, parsed, failed]
      rfl
    · intro rest restParsed
      rw [parse_append ended, parsed, restParsed]
      rfl
  · intro between betweenEnded silent fields
    have same : filledLines (a ++ between ++ b) = filledLines (a ++ b) := by
      rw [String.append_assoc, filledLines_append ended, filledLines_append betweenEnded,
        filledLines_silent silent, List.nil_append, filledLines_append ended]
    unfold parse
    rw [readLines_ok_iff, readLines_ok_iff]
    show (_ ∧ List.Forall₂ Tells (filledLines _) _) ↔ (_ ∧ List.Forall₂ Tells (filledLines _) _)
    rw [same]
  · intro text fields
    exact readLines_ok_iff

/-- The fourth line names no field, whatever the three before it hold. -/
theorem parse_lines_bogus : EndsLine "\n# c = 1\nint32 a\r\n" ∧
    parse ("\n# c = 1\nint32 a\r\n" ++ "bogus\n") = .error (.missingName 4 "bogus") := by
  have ended : EndsLine "\n# c = 1\nint32 a\r\n" := .inr ⟨"\n# c = 1\nint32 a\r", rfl⟩
  obtain ⟨-, together, -⟩ := parse_lines (b := "bogus\n") ended
  obtain ⟨later, -⟩ := together [⟨"a", "int32", none, 1⟩] (by rfl)
  obtain ⟨line, content, same, failed⟩ := later (.missingName 1 "bogus") (by rfl)
  cases same
  exact ⟨ended, failed⟩

end FieldLine

end TopicWire

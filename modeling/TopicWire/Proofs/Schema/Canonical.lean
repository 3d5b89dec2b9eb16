import TopicWire.Proofs.Schema.Lines

/-!
# Schemas that are written back

What a line says is canonical (`canonical_of_ofLine`): the type, the name and the literal have no
blanks at their ends that would be trimmed off and no sign that would divide them or start a comment
if they were put together again. A line of canonical parts is read as these parts
(`Canonical.ofLine_lineOf`), and so the fields of a schema, written one on a line, make a schema with
the same fields (`parse_spelled`).
-/

namespace TopicWire

namespace FieldLine

variable {cs xs ys line content typeName name : List Char} {literal : Option (List Char)}
  {text : String} {fields : List FieldLine}

/-! ### Lines without a comment -/

/-- Every number sign stands behind an equals sign. -/
def Uncommented (cs : List Char) : Prop :=
  ∀ front rest, cs = front ++ '#' :: rest → '=' ∈ front

theorem uncommented_of_not_mem (absent : '#' ∉ cs) : Uncommented cs := by
  rintro front rest rfl
  exact (absent (List.mem_append_right _ (.head _))).elim

theorem uncommented_append :
    Uncommented (xs ++ ys) ↔ Uncommented xs ∧ ('=' ∈ xs ∨ Uncommented ys) := by
  constructor
  · intro whole
    refine ⟨?_, ?_⟩
    · rintro front rest rfl
      exact whole front (rest ++ ys) (by simp)
    · by_cases before : '=' ∈ xs
      · exact .inl before
      · right
        rintro front rest rfl
        have behind := whole (xs ++ front) rest (by simp)
        exact (List.mem_append.mp behind).resolve_left before
  · rintro ⟨first, later⟩ front rest divided
    rcases List.append_eq_append_iff.mp divided with ⟨middle, rfl, second⟩ | ⟨middle, rfl, second⟩
    · rcases later with before | later
      · exact List.mem_append_left _ before
      · exact List.mem_append_right _ (later middle rest second)
    · cases middle with
      | nil =>
        rw [List.append_nil] at later
        rcases later with before | later
        · exact before
        · exact (List.not_mem_nil (later [] rest second.symm)).elim
      | cons c middle =>
        obtain ⟨rfl, -⟩ := List.cons.inj second
        exact first front middle rfl

theorem uncommented_withoutComment (cs : List Char) : Uncommented (withoutComment cs) := by
  have plain : '#' ∉ cs.takeWhile (· != '#') := by
    intro there
    have := List.all_eq_true.mp List.all_takeWhile _ there
    simp at this
  unfold withoutComment
  dsimp only
  split
  · rename_i before
    rw [← List.takeWhile_append_dropWhile (p := (· != '#')) (l := cs)]
    exact uncommented_append.mpr ⟨uncommented_of_not_mem plain, .inl (List.contains_iff_mem.mp before)⟩
  · exact uncommented_of_not_mem plain

theorem Uncommented.withoutComment_eq (uncommented : Uncommented cs) : withoutComment cs = cs := by
  have whole := List.takeWhile_append_dropWhile (p := (· != '#')) (l := cs)
  unfold withoutComment
  dsimp only
  split
  · rfl
  · rename_i before
    cases rest : cs.dropWhile (· != '#') with
    | nil => rwa [rest, List.append_nil] at whole
    | cons c rest' =>
      have sign : c = '#' := by
        have first := List.head?_dropWhile_not (· != '#') cs
        rw [rest] at first
        simpa using first
      rw [rest, sign] at whole
      exact (before (List.contains_iff_mem.mpr (uncommented _ _ whole.symm))).elim

theorem mem_of_mem_withoutComment {c : Char} (there : c ∈ withoutComment cs) : c ∈ cs := by
  unfold withoutComment at there
  dsimp only at there
  split at there
  · exact there
  · exact (List.takeWhile_prefix _).subset there

theorem uncommented_trim (uncommented : Uncommented cs) : Uncommented (Text.trim cs) := by
  obtain ⟨front, back, whole, blank, -⟩ := Text.exists_blanks_trim cs
  rw [whole] at uncommented
  rcases (uncommented_append.mp uncommented).2 with sign | rest
  · cases blank _ sign
  · exact (uncommented_append.mp rest).1

/-! ### The parts of a line -/

/-- What stands behind the name: nothing, or an equals sign and the literal. -/
def assigned : Option (List Char) → List Char
  | none => []
  | some literal => '=' :: literal

/-- The line that consists of these parts. -/
def lineOf (typeName name : List Char) (literal : Option (List Char)) : List Char :=
  typeName ++ ' ' :: (name ++ assigned literal)

/-- Nothing of the parts is lost if they are put together: no blank at the ends of one, no separator
too many, and no number sign that starts a comment. -/
structure Canonical (typeName name : List Char) (literal : Option (List Char)) : Prop where
  typed : ∃ c rest, typeName = c :: rest ∧ Text.isBlank c = false
  solid : ∀ c ∈ typeName, Text.isAsciiBlank c = false
  named : name ≠ []
  trimmed : Text.Trimmed name
  plain : '=' ∉ name
  uncommented : Uncommented (typeName ++ name)
  literal : ∀ cs ∈ literal, Text.Trimmed cs

theorem ofContent_eq_field (read : Reading.ofContent content = .field typeName name literal) :
    name ≠ [] ∧ ∃ blank rest, Text.isAsciiBlank blank = true ∧ content = typeName ++ blank :: rest ∧
      (∀ c ∈ typeName, Text.isAsciiBlank c = false) ∧
      ((literal = none ∧ '=' ∉ rest ∧ name = Text.trim rest) ∨
        ∃ before after, rest = before ++ '=' :: after ∧ '=' ∉ before ∧ name = Text.trim before ∧
          literal = some (Text.trim after)) := by
  unfold Reading.ofContent at read
  split at read
  · cases read
  · split at read
    · cases read
    · rename_i divided
      obtain ⟨blank, separates, whole, solid⟩ := Text.append_of_cut divided
      dsimp only at read
      cases equals : Text.cut (· == '=') _ with
      | none =>
        rw [equals] at read
        dsimp only at read
        split at read
        · cases read
        · rename_i filled
          cases read
          refine ⟨mt List.isEmpty_iff.mpr filled, blank, _, separates, whole, solid, .inl ⟨rfl, ?_, rfl⟩⟩
          exact Text.cut_char_eq_none_iff.mp equals
      | some parts =>
        obtain ⟨before, after⟩ := parts
        rw [equals] at read
        dsimp only at read
        split at read
        · cases read
        · rename_i filled
          cases read
          obtain ⟨together, plain⟩ := Text.cut_char_eq_some_iff.mp equals
          exact ⟨mt List.isEmpty_iff.mpr filled, blank, _, separates, whole, solid,
            .inr ⟨before, after, together, plain, rfl, rfl⟩⟩

/-- What a line without a comment says has canonical parts. -/
theorem canonical_of_ofContent (trimmed : Text.Trimmed content) (uncommented : Uncommented content)
    (read : Reading.ofContent content = .field typeName name literal) :
    Canonical typeName name literal := by
  obtain ⟨named, blank, rest, separates, rfl, solid, parts⟩ := ofContent_eq_field read
  have typed : ∃ c more, typeName = c :: more ∧ Text.isBlank c = false := by
    cases typeName with
    | nil =>
      have visible := trimmed.front blank rfl
      rw [Text.isBlank_of_isAsciiBlank separates] at visible
      cases visible
    | cons c more => exact ⟨c, more, rfl, trimmed.front c rfl⟩
  -- The name stands alone between the type and the first equals sign after it.
  obtain ⟨before, after, rfl, plain, rfl⟩ :
      ∃ before after, rest = before ++ after ∧ '=' ∉ before ∧ name = Text.trim before := by
    rcases parts with ⟨-, plain, named⟩ | ⟨before, after, together, plain, named, -⟩
    · exact ⟨rest, [], (List.append_nil rest).symm, plain, named⟩
    · exact ⟨before, '=' :: after, together, plain, named⟩
  have literals : ∀ cs ∈ literal, Text.Trimmed cs := by
    rcases parts with ⟨rfl, -⟩ | ⟨_, after, -, -, -, rfl⟩
    · nofun
    · rintro _ ⟨⟩
      exact Text.trimmed_trim after
  obtain ⟨first, later⟩ := uncommented_append.mp uncommented
  refine ⟨typed, solid, named, Text.trimmed_trim before, ?_, ?_, literals⟩
  · exact fun sign => plain (Text.mem_of_mem_trim sign)
  · refine uncommented_append.mpr ⟨first, later.imp_right fun uncommented => ?_⟩
    have separated : Uncommented ([blank] ++ (before ++ after)) := uncommented
    rcases (uncommented_append.mp separated).2 with sign | uncommented
    · obtain rfl := List.mem_singleton.mp sign
      cases separates
    · exact uncommented_trim (uncommented_append.mp uncommented).1

theorem canonical_of_ofLine (read : Reading.ofLine line = .field typeName name literal) :
    Canonical typeName name literal :=
  canonical_of_ofContent (Text.trimmed_trim _) (uncommented_trim (uncommented_withoutComment _)) read

namespace Canonical

variable (canonical : Canonical typeName name literal)
include canonical

theorem trimmed_lineOf : Text.Trimmed (lineOf typeName name literal) := by
  obtain ⟨c, rest, rfl, visible⟩ := canonical.typed
  constructor
  · rintro _ ⟨⟩
    exact visible
  · -- The last character is that of the literal, the equals sign or that of the name.
    have filled : name ++ assigned literal ≠ [] :=
      List.append_ne_nil_of_left_ne_nil canonical.named _
    rw [lineOf, List.getLast?_append_cons, List.getLast?_cons_of_ne_nil filled]
    cases literal with
    | none =>
      rw [assigned, List.append_nil]
      exact canonical.trimmed.back
    | some cs =>
      rw [assigned, List.getLast?_append_cons]
      cases cs with
      | nil =>
        rintro _ ⟨⟩
        rfl
      | cons d cs =>
        rw [List.getLast?_cons_of_ne_nil (List.cons_ne_nil d cs)]
        exact (canonical.literal _ rfl).back

theorem uncommented_lineOf : Uncommented (lineOf typeName name literal) := by
  have space : Uncommented [' '] := uncommented_of_not_mem (by decide)
  have sign : Uncommented ['='] := uncommented_of_not_mem (by decide)
  obtain ⟨first, later⟩ := uncommented_append.mp canonical.uncommented
  refine uncommented_append.mpr ⟨first, later.imp_right fun uncommented => ?_⟩
  refine uncommented_append.mpr ⟨space, .inr (uncommented_append.mpr ⟨uncommented, .inr ?_⟩)⟩
  cases literal with
  | none => exact uncommented_of_not_mem List.not_mem_nil
  | some cs => exact uncommented_append.mpr ⟨sign, .inl (.head _)⟩

theorem ofContent_lineOf :
    Reading.ofContent (lineOf typeName name literal) = .field typeName name literal := by
  have filled : ¬ (lineOf typeName name literal).isEmpty = true := by
    obtain ⟨c, rest, rfl, -⟩ := canonical.typed
    exact Bool.false_ne_true
  have named : ¬ name.isEmpty = true := mt List.isEmpty_iff.mp canonical.named
  unfold Reading.ofContent
  rw [if_neg filled, lineOf, Text.cut_append canonical.solid (by decide)]
  cases literal with
  | none =>
    have whole : Text.cut (· == '=') (name ++ assigned none) = none := by
      rw [assigned, List.append_nil]
      exact Text.cut_char_eq_none_iff.mpr canonical.plain
    have kept : Text.trim (name ++ assigned none) = name := by
      rw [assigned, List.append_nil, canonical.trimmed.trim_eq]
    simp only [whole, kept, if_neg named]
  | some cs =>
    have divided : Text.cut (· == '=') (name ++ assigned (some cs)) = some (name, cs) :=
      Text.cut_char_eq_some_iff.mpr ⟨rfl, canonical.plain⟩
    simp only [divided, canonical.trimmed.trim_eq, (canonical.literal cs rfl).trim_eq, if_neg named]

theorem ofLine_lineOf :
    Reading.ofLine (lineOf typeName name literal) = .field typeName name literal := by
  have trimmed := canonical.trimmed_lineOf.trim_eq
  rw [Reading.ofLine, trimmed, canonical.uncommented_lineOf.withoutComment_eq, trimmed]
  exact canonical.ofContent_lineOf

end Canonical

/-- The parts of a line are made of its characters. -/
theorem mem_of_mem_lineOf (read : Reading.ofLine line = .field typeName name literal) {c : Char}
    (there : c ∈ lineOf typeName name literal) : c = ' ' ∨ c = '=' ∨ c ∈ line := by
  obtain ⟨-, blank, rest, -, whole, -, parts⟩ := ofContent_eq_field read
  have held : ∀ d ∈ typeName ++ blank :: rest, d ∈ line := by
    rw [← whole]
    intro d there
    exact Text.mem_of_mem_trim (mem_of_mem_withoutComment (Text.mem_of_mem_trim there))
  have inside : ∀ d ∈ rest, d ∈ line := fun d there => held d (List.mem_append_right _ (.tail _ there))
  rcases List.mem_append.mp there with inType | there
  · exact .inr (.inr (held c (List.mem_append_left _ inType)))
  rcases List.mem_cons.mp there with space | there
  · exact .inl space
  rcases parts with ⟨rfl, -, rfl⟩ | ⟨before, after, rfl, -, rfl, rfl⟩
  · rw [assigned, List.append_nil] at there
    exact .inr (.inr (inside c (Text.mem_of_mem_trim there)))
  · rcases List.mem_append.mp there with inName | there
    · exact .inr (.inr (inside c (List.mem_append_left _ (Text.mem_of_mem_trim inName))))
    rcases List.mem_cons.mp there with sign | inLiteral
    · exact .inr (.inl sign)
    · exact .inr (.inr (inside c (List.mem_append_right _ (.tail _ (Text.mem_of_mem_trim inLiteral)))))

/-! ### Whole schemas -/

/-- The field as a line of a schema. -/
def spelled (field : FieldLine) : String :=
  match field.literal with
  | none => field.typeName ++ " " ++ field.name
  | some literal => field.typeName ++ " " ++ field.name ++ "=" ++ literal

theorem toList_spelled (field : FieldLine) : field.spelled.toList =
    lineOf field.typeName.toList field.name.toList (field.literal.map String.toList) := by
  unfold spelled lineOf
  cases field.literal <;> simp [assigned]

theorem Tells.spelled {field : FieldLine} (tells : Tells line field) :
    Tells field.spelled.toList field := by
  unfold Tells
  rw [toList_spelled]
  exact (canonical_of_ofLine tells).ofLine_lineOf

theorem Tells.single_line {field : FieldLine} (tells : Tells line field) (single : '\n' ∉ line) :
    '\n' ∉ field.spelled.toList := by
  intro there
  rw [toList_spelled] at there
  rcases mem_of_mem_lineOf tells there with space | sign | inside
  · cases space
  · cases sign
  · exact single inside

theorem not_mem_of_mem_splitOn {c : Char} {piece : List Char} (there : piece ∈ cs.splitOn c) :
    c ∉ piece := by
  unfold List.splitOn at there
  induction cs generalizing piece with
  | nil =>
    obtain rfl := List.mem_singleton.mp there
    exact List.not_mem_nil
  | cons d cs ih =>
    rw [List.splitOnP_cons_eq_if_modifyHead] at there
    split at there
    · rcases List.mem_cons.mp there with rfl | later
      · exact List.not_mem_nil
      · exact ih later
    · rename_i different
      cases pieces : cs.splitOnP (· == c) with
      | nil => exact (List.splitOnP_ne_nil _ _ pieces).elim
      | cons first others =>
        rw [pieces] at there ih
        rcases List.mem_cons.mp there with rfl | later
        · rintro (_ | ⟨_, inside⟩)
          · exact different (beq_self_eq_true c)
          · exact ih (.head _) inside
        · exact ih (.tail _ later)

theorem spelled_of_parse (parsed : parse text = .ok fields) :
    ∀ field ∈ fields, '\n' ∉ field.spelled.toList ∧ Tells field.spelled.toList field := by
  have tell : List.Forall₂ Tells (filledLines text) fields := (readLines_ok_iff.mp parsed).2
  have single : ∀ line ∈ filledLines text, '\n' ∉ line :=
    fun line there => not_mem_of_mem_splitOn (List.mem_of_mem_filter there)
  clear parsed
  generalize filledLines text = lines at tell single
  induction tell with
  | nil => nofun
  | cons tells _ ih =>
    obtain ⟨here, later⟩ := List.forall_mem_cons.mp single
    exact List.forall_mem_cons.mpr ⟨⟨tells.single_line here, tells.spelled⟩, ih later⟩

theorem readLines_spelled (ordinals : fields.map ordinal = List.range' 1 fields.length)
    (tell : ∀ field ∈ fields, Tells field.spelled.toList field) :
    readLines 1 0 (fields.map (·.spelled.toList)) = .ok fields := by
  have filled : (fields.map (·.spelled.toList)).filter (¬ Silent ·) = fields.map (·.spelled.toList) := by
    apply List.filter_eq_self.mpr
    intro line there
    obtain ⟨field, member, rfl⟩ := List.mem_map.mp there
    have read : Reading.ofLine _ = .field .. := tell field member
    have held : ¬ Silent field.spelled.toList := fun silent => by cases read.symm.trans silent.ofLine
    simpa using held
  refine readLines_ok_iff.mpr ⟨ordinals, ?_⟩
  rw [filled, List.forall₂_map_left_iff, List.forall₂_same]
  exact tell

theorem linesOf_join (single : ∀ field ∈ fields, '\n' ∉ field.spelled.toList) :
    linesOf (String.join (fields.map (·.spelled ++ "\n"))) = fields.map (·.spelled.toList) ++ [[]] := by
  induction fields with
  | nil => rfl
  | cons field fields ih =>
    obtain ⟨here, later⟩ := List.forall_mem_cons.mp single
    have front : (String.join ((field :: fields).map (·.spelled ++ "\n"))).toList =
        field.spelled.toList ++ '\n' :: (String.join (fields.map (·.spelled ++ "\n"))).toList := by
      simp
    have rest : (String.join (fields.map (·.spelled ++ "\n"))).toList.splitOn '\n' = _ := ih later
    rw [linesOf, front, List.splitOn_append_cons_self_of_not_mem here, rest]
    rfl

theorem linesOf_intercalate (filled : fields ≠ [])
    (single : ∀ field ∈ fields, '\n' ∉ field.spelled.toList) :
    linesOf ("\n".intercalate (fields.map spelled)) = fields.map (·.spelled.toList) := by
  have lines : ∀ line ∈ fields.map (·.spelled.toList), '\n' ∉ line :=
    List.forall_mem_map.mpr single
  rw [linesOf, String.toList_intercalate, List.map_map]
  exact List.splitOn_intercalate '\n' lines (by simpa using filled)

/-- The fields of a schema can be written as lines, one for each: every line is divided into the type,
the name and the literal that the field has, and the lines make the same fields, whether the last of
them is ended or not. -/
theorem parse_spelled (parsed : parse text = .ok fields) :
    (∀ field ∈ fields, '\n' ∉ field.spelled.toList ∧ Tells field.spelled.toList field) ∧
    parse (String.join (fields.map (·.spelled ++ "\n"))) = .ok fields ∧
    parse ("\n".intercalate (fields.map spelled)) = .ok fields := by
  obtain ⟨ordinals, -⟩ := readLines_ok_iff.mp parsed
  have spelled := spelled_of_parse parsed
  have single := fun field member => (spelled field member).1
  have again := readLines_spelled ordinals fun field member => (spelled field member).2
  refine ⟨spelled, ?_, ?_⟩
  · show readLines 1 0 (linesOf _) = _
    rw [linesOf_join single, readLines_concat_nil, again]
  · show readLines 1 0 (linesOf _) = _
    cases fields with
    | nil => rfl
    | cons field fields => rw [linesOf_intercalate (List.cons_ne_nil _ _) single, again]

/-- Signs in types, names and literals, blanks of several kinds, a comment and a line without an end. -/
def signText : String :=
  "\u00a0a=#\x0b\t b #c \r\n\nint32 x = =#1  # 2 \n s[]\u3000 y  z#w =\x0c"

def signFields : List FieldLine :=
  [⟨"b #c", "a=#\x0b", none, 1⟩, ⟨"x", "int32", some "=#1  # 2", 2⟩, ⟨"y  z", "s[]\u3000", none, 3⟩]

theorem parse_spelled_signs : parse signText = .ok signFields ∧
    parse "a=#\x0b b #c\nint32 x==#1  # 2\ns[]\u3000 y  z\n" = .ok signFields := by
  have parsed : parse signText = .ok signFields := by rfl
  have written : String.join (signFields.map (·.spelled ++ "\n")) =
      "a=#\x0b b #c\nint32 x==#1  # 2\ns[]\u3000 y  z\n" := by rfl
  obtain ⟨-, again, -⟩ := parse_spelled parsed
  exact ⟨parsed, written ▸ again⟩

end FieldLine

end TopicWire

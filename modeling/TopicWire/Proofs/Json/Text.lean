import TopicWire.Json.Write
import TopicWire.Number.Literal

/-!
# Compact JSON text

The compact text of a JSON value stands on one line: control characters inside strings are escaped, and
nothing else of the text is one (`Json.singleLine_compact`).
-/

namespace TopicWire

/-- No control characters, line breaks among them. -/
def Printable (cs : List Char) : Prop :=
  ∀ c ∈ cs, 0x20 ≤ c.toNat

instance (cs : List Char) : Decidable (Printable cs) :=
  List.decidableBAll (fun c : Char => 0x20 ≤ c.toNat) cs

namespace Printable

variable {c : Char} {cs ds : List Char}

theorem append (left : Printable cs) (right : Printable ds) : Printable (cs ++ ds) := fun c mem =>
  (List.mem_append.mp mem).elim (left c) (right c)

theorem cons (first : 0x20 ≤ c.toNat) (rest : Printable cs) : Printable (c :: cs) :=
  List.forall_mem_cons.mpr ⟨first, rest⟩

theorem take (all : Printable cs) (n : Nat) : Printable (cs.take n) := fun c mem =>
  all c (List.mem_of_mem_take mem)

theorem drop (all : Printable cs) (n : Nat) : Printable (cs.drop n) := fun c mem =>
  all c (List.mem_of_mem_drop mem)

theorem of_isDigit (digit : Number.isDigit c = true) : 0x20 ≤ c.toNat := by
  simp only [Number.isDigit, Bool.and_eq_true, decide_eq_true_eq] at digit
  exact Nat.le_trans (by decide) digit.1

theorem toDigits (n : Nat) : Printable (Nat.toDigits 10 n) := fun _ mem =>
  of_isDigit (Nat.isDigit_of_mem_toDigits (by decide) (by decide) mem)

theorem zeros (n : Nat) : Printable (List.replicate n '0') := by
  intro c mem
  rw [List.eq_of_mem_replicate mem]
  decide

end Printable

/-- A text without control characters. -/
def SingleLine (s : String) : Prop :=
  Printable s.toList

instance (s : String) : Decidable (SingleLine s) :=
  inferInstanceAs (Decidable (Printable s.toList))

namespace SingleLine

variable {s t : String}

theorem append (left : SingleLine s) (right : SingleLine t) : SingleLine (s ++ t) := by
  rw [SingleLine, String.toList_append]
  exact Printable.append left right

theorem not_mem_newline (single : SingleLine s) : '\n' ∉ s.toList := fun mem =>
  absurd (single '\n' mem) (by decide)

end SingleLine

/-! ### Numbers and strings -/

namespace Number

theorem Layout.printable_digits (layout : Layout) (d : Decimal) : Printable (layout.digits d) := by
  have digits := Printable.toDigits d.coefficient
  unfold Layout.digits
  dsimp only
  split
  · split
    · refine (digits.append (Printable.zeros _)).append ?_
      split <;> decide
    · split
      · exact (digits.take _).append (.cons (by decide) (digits.drop _))
      · exact (Printable.append (by decide) (Printable.zeros _)).append digits
  · refine (((digits.take 1).append ?_).append ?_).append (Printable.toDigits _)
    · split
      · decide
      · exact .cons (by decide) (digits.drop 1)
    · split <;> decide

theorem singleLine_jsonText (bits : UInt64) : SingleLine (jsonText bits) := by
  rw [SingleLine, jsonText, Layout.text, String.toList_ofList]
  split
  · exact .cons (by decide) (Layout.printable_digits _ _)
  · exact Layout.printable_digits _ _

theorem singleLine_toString (n : Int) : SingleLine (toString n) := by
  intro c mem
  rcases sign_or_digit_of_mem_toString mem with rfl | digit
  · decide
  · exact Printable.of_isDigit digit

end Number

theorem Text.Hex.printable_digit {n : Nat} (lt : n < 16) : 0x20 ≤ (Text.Hex.digit n).toNat := by
  have all : ∀ m : Fin 16, 0x20 ≤ (Text.Hex.digit m).toNat := by decide
  exact all ⟨n, lt⟩

namespace Json

theorem printable_escaped (c : Char) : Printable (escaped c) := by
  unfold escaped
  split
  case h_8 =>
    split
    · next control =>
      have high := Text.Hex.printable_digit (n := c.toNat / 16) (by omega)
      have low := Text.Hex.printable_digit (n := c.toNat % 16) (by omega)
      have opening : Printable ['\\', 'u', '0', '0'] := by decide
      exact opening.append (.cons high (.cons low (by decide)))
    · next printable => exact .cons (Nat.not_lt.mp printable) (by decide)
  all_goals decide

theorem singleLine_quoted (s : String) : SingleLine (quoted s) := by
  rw [SingleLine, quoted, String.toList_ofList]
  refine .append (.cons (by decide) fun d mem => ?_) (by decide)
  obtain ⟨c, _, mem⟩ := List.mem_flatMap.mp mem
  exact printable_escaped c d mem

theorem singleLine_floatText (bits : UInt64) : SingleLine (floatText bits) := by
  unfold floatText
  split
  · exact Number.singleLine_jsonText bits
  · decide

/-! ### Values -/

mutual

theorem singleLine_write (level : Nat) : (j : Json) → SingleLine (j.write .compact level)
  | .null => (by decide : SingleLine "null")
  | .bool b => by
    rw [write]
    split <;> decide
  | .integer n => Number.singleLine_toString n
  | .float bits => singleLine_floatText bits
  | .string s => singleLine_quoted s
  | .array [] => (by decide : SingleLine "[]")
  | .array (item :: items) => by
    have blank : SingleLine (Spacing.compact.line level) := (by decide : SingleLine "")
    have opened : SingleLine ("[" ++ Spacing.compact.line (level + 1)) := (by decide : SingleLine "[")
    have first := singleLine_write (level + 1) item
    have rest := singleLine_writeItems (level + 1) items
    exact (((opened.append first).append rest).append blank).append (by decide)
  | .object [] => (by decide : SingleLine "\x7b\x7d")
  | .object ((key, value) :: members) => by
    have blank : SingleLine (Spacing.compact.line level) := (by decide : SingleLine "")
    have opened : SingleLine ("\x7b" ++ Spacing.compact.line (level + 1)) :=
      (by decide : SingleLine "\x7b")
    have named := (opened.append (singleLine_quoted key)).append (by decide : SingleLine ":")
    have first := singleLine_write (level + 1) value
    have rest := singleLine_writeMembers (level + 1) members
    exact (((named.append first).append rest).append blank).append (by decide)

theorem singleLine_writeItems (level : Nat) : (items : List Json) →
    SingleLine (writeItems .compact level items)
  | [] => (by decide : SingleLine "")
  | item :: items => by
    have comma : SingleLine ("," ++ Spacing.compact.line level) := (by decide : SingleLine ",")
    have first := singleLine_write level item
    exact (comma.append first).append (singleLine_writeItems level items)

theorem singleLine_writeMembers (level : Nat) : (members : List (String × Json)) →
    SingleLine (writeMembers .compact level members)
  | [] => (by decide : SingleLine "")
  | (key, value) :: members => by
    have comma : SingleLine ("," ++ Spacing.compact.line level) := (by decide : SingleLine ",")
    have named := (comma.append (singleLine_quoted key)).append (by decide : SingleLine ":")
    have first := singleLine_write level value
    exact (named.append first).append (singleLine_writeMembers level members)

end

theorem singleLine_compact (j : Json) : SingleLine j.compact :=
  singleLine_write 0 j

end Json

end TopicWire

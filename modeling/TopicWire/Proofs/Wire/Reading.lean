import TopicWire.Proofs.Result
import TopicWire.Wire.Cursor

/-!
# What a decoder consumes

`Cursor.Passed c bytes c'` says that `bytes` lie between two cursors. Each step of a decoder has an
equivalence that says when it succeeds and which bytes it passes, so that a decoder made of such
steps is taken apart by rewriting.
-/

namespace TopicWire

/-- The second cursor stands behind the bytes that follow the first one. -/
structure Cursor.Passed (c : Cursor) (bytes : Bytes) (c' : Cursor) : Prop where
  rest : c.rest = bytes ++ c'.rest
  position : c'.position = c.position + bytes.length

namespace Cursor

variable {c c' : Cursor} {xs ys : Bytes}

theorem passed_start (xs ys : Bytes) : (start (xs ++ ys)).Passed xs ⟨xs.length, ys⟩ :=
  ⟨rfl, by simp [start]⟩

@[simp] theorem passed_nil_iff : c.Passed [] c' ↔ c = c' := by
  constructor
  · rintro ⟨rest, position⟩
    obtain ⟨before, left⟩ := c
    obtain ⟨before', left'⟩ := c'
    simp only [List.nil_append] at rest
    simp only [List.length_nil, Nat.add_zero] at position
    rw [rest, position]
  · rintro rfl
    exact ⟨rfl, rfl⟩

theorem passed_append_iff :
    c.Passed (xs ++ ys) c' ↔ ∃ middle, c.Passed xs middle ∧ middle.Passed ys c' := by
  constructor
  · rintro ⟨rest, position⟩
    refine ⟨⟨c.position + xs.length, ys ++ c'.rest⟩, ⟨by rw [rest, List.append_assoc], rfl⟩, rfl, ?_⟩
    rw [position, List.length_append, Nat.add_assoc]
  · rintro ⟨middle, first, second⟩
    refine ⟨by rw [first.rest, second.rest, List.append_assoc], ?_⟩
    rw [second.position, first.position, List.length_append, Nat.add_assoc]

theorem Passed.remaining (h : c.Passed xs c') : c.remaining = xs.length + c'.remaining := by
  rw [Cursor.remaining, Cursor.remaining, h.rest, List.length_append]

theorem Passed.unique {c₁ c₂ : Cursor} (first : c.Passed xs c₁) (second : c.Passed ys c₂)
    (same : xs.length = ys.length) : xs = ys ∧ c₁ = c₂ := by
  obtain ⟨equal, rest⟩ := List.append_inj (first.rest.symm.trans second.rest) same
  obtain ⟨position, left⟩ := c₁
  obtain ⟨position', left'⟩ := c₂
  have here : position = c.position + xs.length := first.position
  have there : position' = c.position + ys.length := second.position
  obtain rfl : position = position' := by rw [here, there, same]
  obtain rfl : left = left' := rest
  exact ⟨equal, rfl⟩

end Cursor

namespace Decoder

variable {c c' : Cursor}

theorem remaining_ok_iff {n : Nat} : remaining c = .ok n c' ↔ c.remaining = n ∧ c = c' := by
  show EStateM.Result.ok c.remaining c = .ok n c' ↔ _
  simp

theorem take_ok_iff {n : Nat} {bytes : Bytes} :
    take n c = .ok bytes c' ↔ bytes.length = n ∧ c.Passed bytes c' := by
  unfold take
  split
  · rename_i enough
    have length : (c.rest.take n).length = n := List.length_take_of_le enough
    have passed : c.Passed (c.rest.take n) ⟨c.position + n, c.rest.drop n⟩ :=
      ⟨(List.take_append_drop ..).symm, by rw [length]⟩
    constructor
    · intro h
      cases h
      exact ⟨length, passed⟩
    · rintro ⟨same, read⟩
      obtain ⟨rfl, rfl⟩ := passed.unique read (length.trans same.symm)
      rfl
  · rename_i short
    constructor
    · intro h
      cases h
    · rintro ⟨rfl, read⟩
      have := read.remaining
      omega

theorem take_error_iff {n : Nat} {e : WireError} :
    take n c = .error e c' ↔
      c.remaining < n ∧ e = .truncated n c.remaining c.position ∧ c' = c := by
  unfold take
  split
  · rename_i enough
    constructor
    · intro h
      cases h
    · rintro ⟨missing, -⟩
      omega
  · rename_i missing
    constructor
    · intro h
      cases h
      exact ⟨Nat.not_le.mp missing, rfl, rfl⟩
    · rintro ⟨-, rfl, rfl⟩
      rfl

/-- A word is read where its bytes stand, the least significant one first. -/
theorem word_ok_iff {width n : Nat} :
    word width c = .ok n c' ↔ n < Nat.pow 256 width ∧ c.Passed (Bytes.littleEndian width n) c' := by
  unfold word
  simp only [Stateful.bind_ok_iff, Stateful.pure_ok_iff, take_ok_iff]
  constructor
  · rintro ⟨bytes, middle, ⟨rfl, read⟩, rfl, rfl⟩
    exact ⟨Bytes.ofLittleEndian_lt bytes, by rwa [Bytes.littleEndian_ofLittleEndian]⟩
  · rintro ⟨small, read⟩
    refine ⟨_, _, ⟨Bytes.length_littleEndian .., read⟩, ?_, rfl⟩
    rw [Bytes.ofLittleEndian_littleEndian, Nat.mod_eq_of_lt small]

theorem word_append {width n : Nat} (small : n < Nat.pow 256 width) (position : Nat) (rest : Bytes) :
    word width ⟨position, Bytes.littleEndian width n ++ rest⟩ = .ok n ⟨position + width, rest⟩ :=
  word_ok_iff.mpr ⟨small, rfl, by rw [Bytes.length_littleEndian]⟩

theorem take_append (bytes : Bytes) (position : Nat) (rest : Bytes) :
    take bytes.length ⟨position, bytes ++ rest⟩ = .ok bytes ⟨position + bytes.length, rest⟩ :=
  take_ok_iff.mpr ⟨rfl, rfl, rfl⟩

theorem take_short {n : Nat} {rest : Bytes} (short : rest.length < n) (position : Nat) :
    take n ⟨position, rest⟩ = .error (.truncated n rest.length position) ⟨position, rest⟩ :=
  if_neg (Nat.not_le.mpr short)

theorem word_short {width : Nat} {rest : Bytes} (short : rest.length < width) (position : Nat) :
    word width ⟨position, rest⟩ = .error (.truncated width rest.length position) ⟨position, rest⟩ :=
  Stateful.bind_of_error (take_short short position)

theorem run_ok_iff {d : Decoder α} {bytes : Bytes} {a : α} :
    run d bytes = .ok a ↔ ∃ last, d (.start bytes) = .ok a last := by
  unfold run
  cases d (.start bytes) with
  | ok b last => simp
  | error e last => simp

end Decoder

end TopicWire

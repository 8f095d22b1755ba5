import Mathlib.Data.List.DropRight
import Mathlib.Data.List.TakeWhile
import Mathlib.Data.Nat.Digits.Lemmas
import Mathlib.Tactic.Ring

/-!
Contract: conversion of a number between two bases in a buffer of fixed size.

Owns: the multiply-and-add loop over the used part of a little-endian buffer, its
value, the bound under which no carry leaves the buffer, and the digit strings of one
number in two bases.
-/

namespace BlackRaven.Lib

/-- Multiply the digits not reached yet by `factor` and add the carry; past the used
digits stop once the carry is gone. The result is the new digits, the carry that is
left and the number of digits used. -/
def radixLoop (base factor length : Nat) : Nat → Nat → List Nat → List Nat × Nat × Nat
  | carry, used, [] => ([], carry, used)
  | carry, used, digit :: digits =>
    if carry ≠ 0 ∨ used < length then
      let sum := carry + factor * digit
      let rest := radixLoop base factor length (sum / base) (used + 1) digits
      (sum % base :: rest.1, rest.2)
    else (digit :: digits, carry, used)

/-- Feed the input digits, most significant first. `none` when a carry leaves the
buffer. -/
def radixConvert (base factor : Nat) : List Nat → List Nat × Nat → Option (List Nat × Nat)
  | [], state => some state
  | input :: inputs, (digits, length) =>
    let next := radixLoop base factor length input 0 digits
    if next.2.1 ≠ 0 then none else radixConvert base factor inputs (next.1, next.2.2)

/-- The used digits, most significant first, without leading zeroes. -/
def radixDigits (state : List Nat × Nat) : List Nat :=
  ((state.1.take state.2).reverse).dropWhile (· == 0)

/-- The number a big-endian digit string denotes, continued from `start`. -/
def bigEndian (factor start : Nat) (inputs : List Nat) : Nat :=
  inputs.foldl (fun value input => value * factor + input) start

def UnusedZero (used : Nat) (digits : List Nat) : Prop := ∀ digit ∈ digits.drop used, digit = 0

variable {base factor : Nat}

theorem ofDigits_eq_zero : ∀ {digits : List Nat},
    (∀ digit ∈ digits, digit = 0) → Nat.ofDigits base digits = 0
  | [], _ => rfl
  | digit :: digits, zero => by
      rw [Nat.ofDigits_cons, zero digit List.mem_cons_self, ofDigits_eq_zero (List.forall_mem_cons.mp zero).2]
      simp

/-- The loop computes `digits * factor + carry`, keeps the size of the buffer and says
how much of it is used. -/
theorem radixLoop_value (positive : 0 < base) (factor length : Nat) :
    ∀ (digits : List Nat) (carry used : Nat), UnusedZero (length - used) digits →
      let next := radixLoop base factor length carry used digits
      Nat.ofDigits base next.1 + base ^ digits.length * next.2.1
          = carry + factor * Nat.ofDigits base digits ∧
        next.1.length = digits.length ∧ used ≤ next.2.2 ∧ UnusedZero (next.2.2 - used) next.1 ∧
        ((∀ digit ∈ digits, digit < base) → ∀ digit ∈ next.1, digit < base)
  | [], carry, used, _ => by simp [radixLoop, UnusedZero]
  | digit :: digits, carry, used, unused => by
      unfold radixLoop
      by_cases continues : carry ≠ 0 ∨ used < length
      · rw [if_pos continues]
        have below : UnusedZero (length - (used + 1)) digits := by
          intro other member
          rw [Nat.sub_add_eq] at member
          apply unused
          revert member
          cases length - used with
          | zero => exact List.mem_cons_of_mem _
          | succ rest => exact id
        obtain ⟨value, sameLength, grows, unusedRest, smallRest⟩ :=
          radixLoop_value positive factor length digits ((carry + factor * digit) / base) (used + 1) below
        dsimp only
        generalize radixLoop base factor length ((carry + factor * digit) / base) (used + 1) digits = rest at *
        refine ⟨?_, by simp [sameLength], by omega, ?_, fun small => ?_⟩
        · have split := Nat.mod_add_div (carry + factor * digit) base
          calc (carry + factor * digit) % base + base * Nat.ofDigits base rest.1
                  + base ^ digits.length * base * rest.2.1
              = (carry + factor * digit) % base
                  + base * (Nat.ofDigits base rest.1 + base ^ digits.length * rest.2.1) := by ring
            _ = (carry + factor * digit) % base + base * ((carry + factor * digit) / base)
                  + base * (factor * Nat.ofDigits base digits) := by rw [value]; ring
            _ = carry + factor * (digit + base * Nat.ofDigits base digits) := by rw [split]; ring
        · rw [show rest.2.2 - used = (rest.2.2 - (used + 1)) + 1 by omega]
          exact unusedRest
        · exact List.forall_mem_cons.mpr ⟨Nat.mod_lt _ positive, smallRest (List.forall_mem_cons.mp small).2⟩
      · rw [if_neg continues]
        have zero : length - used = 0 := by omega
        have carryZero : carry = 0 := by omega
        rw [zero] at unused
        refine ⟨?_, rfl, le_rfl, ?_, id⟩
        · rw [show Nat.ofDigits base (digit :: digits) = 0 from ofDigits_eq_zero unused, carryZero]
          simp
        · rw [Nat.sub_self]
          exact unused

theorem bigEndian_start_le (positive : 0 < factor) :
    ∀ (inputs : List Nat) (start : Nat), start ≤ bigEndian factor start inputs
  | [], _ => le_rfl
  | input :: inputs, start => by
      calc start ≤ start * factor + input := by
            have := Nat.le_mul_of_pos_right start positive
            omega
        _ ≤ bigEndian factor start (input :: inputs) := bigEndian_start_le positive inputs _

/-- A buffer that can hold the number holds it: no carry is ever left. -/
theorem radixConvert_value (basePositive : 0 < base) (positive : 0 < factor) :
    ∀ (inputs digits : List Nat) (length : Nat), UnusedZero length digits →
      (∀ digit ∈ digits, digit < base) →
      bigEndian factor (Nat.ofDigits base digits) inputs < base ^ digits.length →
      ∃ next used, radixConvert base factor inputs (digits, length) = some (next, used) ∧
        Nat.ofDigits base next = bigEndian factor (Nat.ofDigits base digits) inputs ∧
        UnusedZero used next ∧ ∀ digit ∈ next, digit < base
  | [], digits, length, unused, small, _ => ⟨digits, length, rfl, rfl, unused, small⟩
  | input :: inputs, digits, length, unused, small, fits => by
      obtain ⟨value, sameLength, -, unusedNext, smallNext⟩ :=
        radixLoop_value basePositive factor length digits input 0 unused
      unfold radixConvert
      generalize radixLoop base factor length input 0 digits = next at *
      have started : bigEndian factor (Nat.ofDigits base digits) (input :: inputs)
          = bigEndian factor (input + factor * Nat.ofDigits base digits) inputs := by
        simp only [bigEndian, List.foldl_cons]
        ring_nf
      have noCarry : next.2.1 = 0 := by
        by_contra carry
        have := bigEndian_start_le positive inputs (input + factor * Nat.ofDigits base digits)
        have := Nat.le_mul_of_pos_right (base ^ digits.length) (Nat.pos_of_ne_zero carry)
        omega
      rw [noCarry, Nat.mul_zero, Nat.add_zero] at value
      rw [if_neg (by simp [noCarry]), started, ← value]
      rw [started, ← value, ← sameLength] at fits
      exact radixConvert_value basePositive positive inputs next.1 next.2.2 unusedNext (smallNext small) fits

/-- If one power of the input base is below one of the buffer's base, the buffer sizes
in that ratio hold every input. -/
theorem buffer_fits {denominator numerator : Nat} (positive : 0 < denominator) (large : 1 < base)
    (ratio : factor ^ denominator ≤ base ^ numerator) (count : Nat) :
    factor ^ count ≤ base ^ (count * numerator / denominator + 1) := by
  have scaled : (factor ^ count) ^ denominator
      ≤ (base ^ (count * numerator / denominator + 1)) ^ denominator := by
    calc (factor ^ count) ^ denominator = (factor ^ denominator) ^ count := by ring
      _ ≤ (base ^ numerator) ^ count := Nat.pow_le_pow_left ratio count
      _ = base ^ (count * numerator) := by ring
      _ ≤ base ^ ((count * numerator / denominator + 1) * denominator) := by
          apply Nat.pow_le_pow_right (by omega)
          have := Nat.div_add_mod (count * numerator) denominator
          have := Nat.mod_lt (count * numerator) positive
          rw [Nat.add_mul, Nat.one_mul, Nat.mul_comm (count * numerator / denominator)]
          omega
      _ = (base ^ (count * numerator / denominator + 1)) ^ denominator := by ring
  exact (Nat.pow_le_pow_iff_left (by omega)).mp scaled

/-! ## Digit strings -/

theorem bigEndian_eq (inputs : List Nat) : bigEndian factor 0 inputs = Nat.ofDigits factor inputs.reverse := by
  rw [Nat.ofDigits_eq_foldr, List.foldr_reverse]
  unfold bigEndian
  congr
  funext value input
  simp only [Nat.cast_id]
  ring

/-- The digits of a number are any digits of it without the zeroes on top. -/
theorem digits_ofDigits (large : 1 < base) {digits : List Nat} (small : ∀ digit ∈ digits, digit < base) :
    Nat.digits base (Nat.ofDigits base digits) = digits.rdropWhile (· == 0) := by
  induction digits using List.reverseRecOn with
  | nil => simp
  | append_singleton init last ih =>
    by_cases isZero : last = 0
    · rw [isZero, Nat.ofDigits_append_zero, List.rdropWhile_concat_pos _ _ _ rfl]
      exact ih (List.forall_mem_append.mp small).1
    · rw [List.rdropWhile_concat_neg _ _ _ (by simpa using isZero)]
      exact Nat.digits_ofDigits base large _ small (by simpa using isZero)

/-- A buffer that can hold the number gets its digits. -/
theorem radixConvert_digits (large : 1 < base) (largeFactor : 1 < factor) {size : Nat} {inputs : List Nat}
    (small : ∀ input ∈ inputs, input < factor) (fits : factor ^ inputs.length ≤ base ^ size) :
    ∃ state, radixConvert base factor inputs (List.replicate size 0, 0) = some state
      ∧ radixDigits state = (Nat.digits base (bigEndian factor 0 inputs)).reverse := by
  have bound := Nat.ofDigits_lt_base_pow_length largeFactor fun digit member =>
    small digit (List.mem_reverse.mp member)
  rw [← bigEndian_eq, List.length_reverse] at bound
  have noDigits : ∀ digit ∈ List.replicate size 0, digit = 0 := fun _ => List.eq_of_mem_replicate
  obtain ⟨next, used, converted, value, unused, below⟩ := @radixConvert_value base factor (by omega)
    (by omega) inputs (List.replicate size 0) 0 noDigits
    (fun digit member => by rw [noDigits digit member]; omega)
    (by rw [ofDigits_eq_zero noDigits, List.length_replicate]; omega)
  rw [ofDigits_eq_zero noDigits, ← List.take_append_drop used next, Nat.ofDigits_append,
    ofDigits_eq_zero unused, Nat.mul_zero, Nat.add_zero] at value
  refine ⟨_, converted, ?_⟩
  rw [← value, digits_ofDigits large fun digit member => below digit (List.mem_of_mem_take member),
    List.rdropWhile, List.reverse_reverse]
  rfl

/-- The digit string of the same number in another base, with as many leading zeroes. -/
def rebase (base factor : Nat) (inputs : List Nat) : List Nat :=
  List.replicate (inputs.takeWhile (· == 0)).length 0 ++ (Nat.digits base (bigEndian factor 0 inputs)).reverse

theorem rebase_small (large : 1 < base) {inputs : List Nat} : ∀ digit ∈ rebase base factor inputs, digit < base := by
  intro digit member
  rcases List.mem_append.mp member with zero | other
  · rw [List.eq_of_mem_replicate zero]
    omega
  · exact Nat.digits_lt_base large (List.mem_reverse.mp other)

theorem map_map_eq_self {α β : Type} {f : α → β} {g : β → α} {l : List α}
    (cancels : ∀ value ∈ l, g (f value) = value) : (l.map f).map g = l := by
  rw [List.map_map]
  exact (List.map_congr_left cancels).trans (List.map_id l)

section LeadingDigits

variable {α : Type} [DecidableEq α] {first : α} {rest : List α}

theorem exists_replicate_append (first : α) (string : List α) :
    ∃ count rest, string = List.replicate count first ++ rest ∧ rest.takeWhile (· == first) = [] := by
  induction string with
  | nil => exact ⟨0, [], rfl, rfl⟩
  | cons head tail ih =>
    by_cases isFirst : head = first
    · obtain ⟨count, rest, isTail, noMore⟩ := ih
      exact ⟨count + 1, rest, by rw [isFirst, isTail, List.replicate_succ, List.cons_append], noMore⟩
    · exact ⟨0, head :: tail, rfl, List.takeWhile_cons_of_neg (by simpa using isFirst)⟩

theorem takeWhile_replicate_append (count : Nat) (noMore : rest.takeWhile (· == first) = []) :
    (List.replicate count first ++ rest).takeWhile (· == first) = List.replicate count first := by
  rw [List.takeWhile_append_of_pos, noMore, List.append_nil]
  intro other member
  simpa using List.eq_of_mem_replicate member

/-- Leading zeroes are kept and the other characters are converted. -/
theorem rebase_map {value : α → Nat} (isZero : ∀ char, value char = 0 ↔ char = first) (count : Nat)
    (noMore : rest.takeWhile (· == first) = []) :
    rebase base factor ((List.replicate count first ++ rest).map value)
      = List.replicate count 0 ++ (Nat.digits base (bigEndian factor 0 (rest.map value))).reverse := by
  have sameTest : (· == 0) ∘ value = (· == first) := by
    funext char
    exact Bool.eq_iff_iff.mpr (by simpa using isZero char)
  rw [rebase, List.takeWhile_map, sameTest, takeWhile_replicate_append count noMore, List.length_map,
    List.length_replicate, List.map_append, List.map_replicate, (isZero first).mpr rfl, bigEndian_eq,
    List.reverse_append, List.reverse_replicate, Nat.ofDigits_append_replicate_zero, ← bigEndian_eq]

end LeadingDigits

/-- Writing a digit string in another base and back gives it again. -/
theorem rebase_rebase (large : 1 < factor) {inputs : List Nat} (small : ∀ input ∈ inputs, input < factor) :
    rebase factor base (rebase base factor inputs) = inputs := by
  obtain ⟨count, rest, rfl, noMore⟩ := exists_replicate_append 0 inputs
  have noZero : (Nat.digits base (bigEndian factor 0 rest)).reverse.takeWhile (· == 0) = [] := by
    refine List.takeWhile_eq_nil_iff.mpr fun nonempty => ?_
    have positive : bigEndian factor 0 rest ≠ 0 := fun isZero => by simp [isZero] at nonempty
    simpa [List.getLast_eq_getElem] using Nat.getLast_digit_ne_zero base positive
  have first := @rebase_map base factor Nat _ 0 rest id (fun _ => Iff.rfl) count noMore
  have second := @rebase_map factor base Nat _ 0 _ id (fun _ => Iff.rfl) count noZero
  rw [List.map_id, List.map_id] at first second
  rw [first, second, bigEndian_eq, List.reverse_reverse, Nat.ofDigits_digits, bigEndian_eq,
    digits_ofDigits large fun digit member =>
      small digit (List.mem_append_right _ (List.mem_reverse.mp member)),
    List.rdropWhile, List.reverse_reverse, List.reverse_reverse,
    List.dropWhile_eq_self_iff.mpr (List.takeWhile_eq_nil_iff.mp noMore)]

end BlackRaven.Lib

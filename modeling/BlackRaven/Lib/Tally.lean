import Mathlib.Data.List.Induction
import Mathlib.Data.List.Perm.Subperm
import Mathlib.Tactic.Ring

/-!
Contract: running totals by key, kept in a sorted map whose additions wrap.

Owns: what such a map holds after any list of credits, in terms of the exact totals,
and when two of them have the same keys.
-/

namespace BlackRaven.Lib

/-! ## Exact totals -/

section Totals

variable {α : Type} [DecidableEq α]

def keyTotal (credits : List (α × Int)) (key : α) : Int :=
  ((credits.filter fun entry => entry.1 = key).map Prod.snd).sum

theorem keyTotal_append (credits more : List (α × Int)) (key : α) :
    keyTotal (credits ++ more) key = keyTotal credits key + keyTotal more key := by
  simp [keyTotal]

theorem keyTotal_singleton (entry : α × Int) (key : α) :
    keyTotal [entry] key = if entry.1 = key then entry.2 else 0 := by
  by_cases same : entry.1 = key <;> simp [keyTotal, same]

theorem keyTotal_of_not_mem {credits : List (α × Int)} {key : α}
    (absent : key ∉ credits.map Prod.fst) : keyTotal credits key = 0 := by
  have none_ : credits.filter (fun entry => entry.1 = key) = [] := by
    rw [List.filter_eq_nil_iff]
    intro entry member isKey
    exact absent (List.mem_map.mpr ⟨entry, member, of_decide_eq_true isKey⟩)
  rw [keyTotal, none_]
  rfl

end Totals

/-! ## Wrapping totals -/

section Tallies

variable {α : Type} [Ord α]

abbrev Tally (α : Type) [Ord α] := Std.TreeMap α Int

variable (wrap : Int → Int) (credits : List (α × Int)) (tally : Tally α) (entry : α × Int)

/-- Add an amount to the total of a key. The first amount of a key is stored as it is;
later ones go through the wrapping addition. -/
def Tally.credit : Tally α :=
  match tally[entry.1]? with
  | none => tally.insert entry.1 entry.2
  | some total => tally.insert entry.1 (wrap (total + entry.2))

def Tally.ofCredits : Tally α :=
  credits.foldl (Tally.credit wrap) ∅

theorem Tally.ofCredits_append :
    Tally.ofCredits wrap (credits ++ [entry]) = (Tally.ofCredits wrap credits).credit wrap entry := by
  simp [Tally.ofCredits, List.foldl_append]

variable [Std.TransOrd α] [Std.LawfulEqOrd α]

theorem Tally.credit_getElem? [DecidableEq α] (wrap : Int → Int) (tally : Tally α) (entry : α × Int) (key : α) :
    (tally.credit wrap entry)[key]?
      = if entry.1 = key then
          some (match tally[key]? with
            | none => entry.2
            | some total => wrap (total + entry.2))
        else tally[key]? := by
  unfold Tally.credit
  by_cases same : entry.1 = key
  · subst same
    cases found : tally[entry.1]? <;> simp
  · have differs : ¬ compare entry.1 key = .eq := by
      rw [Std.LawfulEqOrd.compare_eq_iff_eq]
      exact same
    cases found : tally[entry.1]? <;> simp [Std.TreeMap.getElem?_insert, differs, same]

theorem Tally.ofCredits_of_not_mem [DecidableEq α] {wrap : Int → Int} {credits : List (α × Int)}
    {key : α} (absent : key ∉ credits.map Prod.fst) : (Tally.ofCredits wrap credits)[key]? = none := by
  induction credits using List.reverseRecOn with
  | nil => simp [Tally.ofCredits]
  | append_singleton credits entry ih =>
    simp only [List.map_append, List.map_cons, List.map_nil, List.mem_append, List.mem_singleton,
      not_or] at absent
    have differs : ¬ entry.1 = key := fun isKey => absent.2 isKey.symm
    rw [Tally.ofCredits_append, Tally.credit_getElem?, if_neg differs]
    exact ih absent.1

/-- A key that something was credited to holds the wrap of the exact total. -/
theorem Tally.ofCredits_of_mem [DecidableEq α] {wrap : Int → Int}
    (additive : ∀ a b, wrap (wrap a + b) = wrap (a + b)) {credits : List (α × Int)}
    (inRange : ∀ entry ∈ credits, wrap entry.2 = entry.2) {key : α} (member : key ∈ credits.map Prod.fst) :
    (Tally.ofCredits wrap credits)[key]? = some (wrap (keyTotal credits key)) := by
  -- Induction from the back: the last credit is the outermost addition.
  induction credits using List.reverseRecOn with
  | nil => cases member
  | append_singleton credits entry ih =>
    have before := ih fun other inFront =>
      inRange other (List.mem_append_left _ inFront)
    have amountInRange : wrap entry.2 = entry.2 := inRange entry (by simp)
    rw [Tally.ofCredits_append, Tally.credit_getElem?, keyTotal_append, keyTotal_singleton]
    by_cases same : entry.1 = key
    · rw [if_pos same, if_pos same]
      by_cases known : key ∈ credits.map Prod.fst
      · rw [before known]
        exact congrArg some (additive _ _)
      · rw [Tally.ofCredits_of_not_mem known, keyTotal_of_not_mem known, Int.zero_add]
        exact congrArg some amountInRange.symm
    · rw [if_neg same, if_neg same, Int.add_zero]
      apply before
      simp only [List.map_append, List.map_cons, List.map_nil, List.mem_append, List.mem_singleton] at member
      exact member.resolve_right fun isLast => same isLast.symm

/-- Of two maps of one size, if the first has no key the second lacks, the second has
none the first lacks. -/
theorem Tally.mem_of_size_eq {first second : Tally α}
    (included : ∀ key, key ∈ first → key ∈ second) (sameSize : first.size = second.size) {key : α}
    (member : key ∈ second) : key ∈ first := by
  have subset : first.keys ⊆ second.keys := by
    intro other isKey
    rw [Std.TreeMap.mem_keys] at isKey ⊢
    exact included other isKey
  have noDuplicates : first.keys.Nodup := Std.TreeMap.nodup_keys
  have permutation : first.keys.Perm second.keys := by
    apply (List.subperm_of_subset noDuplicates subset).perm_of_length_le
    rw [Std.TreeMap.length_keys, Std.TreeMap.length_keys, sameSize]
  rw [← Std.TreeMap.mem_keys, permutation.mem_iff, Std.TreeMap.mem_keys]
  exact member

end Tallies

end BlackRaven.Lib

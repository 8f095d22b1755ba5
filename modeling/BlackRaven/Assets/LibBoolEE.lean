import BlackRaven.Lib.Outcome
import BlackRaven.Primitives.Text
import Mathlib.Algebra.Order.BigOperators.Group.List
import Mathlib.Algebra.Order.Ring.Nat

/-!
Contract: `LibBoolEE.cpp`: the evaluation of a propositional formula given as text.

Owns: the split of a formula at one top-level operator, the recursive evaluation, and
that the evaluation always ends. Every exception of the source is a `runtime_error`;
its text is the error here.
-/

namespace BlackRaven.LibBoolEE

open Lib

/-- `Vals`: what a name stands for, if it is there at all. -/
abbrev Vals := Bytes → Option Bool

-- The characters of the grammar, by their ASCII codes.
def bang : UInt8 := 33
def conjunction : UInt8 := 38
def opening : UInt8 := 40
def closing : UInt8 := 41
def disjunction : UInt8 := 124

variable (source : Bytes) (ch : UInt8)

def belongsToName : Bool := Ascii.isAlnum ch || ch == 95 || ch == 35 || ch == 46

def removeWhitespaces : Bytes := source.filter fun ch => !Ascii.isSpace ch

def removeCharacter : Bytes := source.filter (· != ch)

/-! ## Splitting -/

/-- The state of the loop in `singleParse`. `start_pos` is kept as the text since that
position. -/
structure ParseState where
  started : Option Bytes
  parityCount : Int
  subexpressions : List Bytes

def ParseState.initial : ParseState := ⟨none, 0, []⟩

def unknownOperator (formula : Bytes) : String :=
  "Unknown operator '" ++ text [ch] ++ "' in the (sub)expression '" ++ text formula ++ "'."

def parseStep (formula : Bytes) (op : UInt8) (s : ParseState) (ch : UInt8) :
    Except String ParseState :=
  if ch = closing then
    .ok { s with parityCount := s.parityCount - 1, started := s.started.map (· ++ [ch]) }
  else if ch = opening then
    .ok { s with
      parityCount := s.parityCount + 1
      started := some (s.started.getD [] ++ [ch]) }
  else
    match s.started with
    | none =>
      -- Nothing but a name or a negation starts a subexpression.
      if s.parityCount = 0 ∧ (belongsToName ch || ch == bang) then .ok { s with started := some [ch] }
      else .ok s
    | some word =>
      if s.parityCount = 0 ∧ !(belongsToName ch || ch == bang) then
        if op = ch then
          .ok { s with started := some [], subexpressions := s.subexpressions ++ [word] }
        else if ch ≠ conjunction ∧ ch ≠ disjunction then .error (unknownOperator ch formula)
        else .ok { s with started := some (word ++ [ch]) }
      else .ok { s with started := some (word ++ [ch]) }

def singleParse (formula : Bytes) (op : UInt8) : Except String (List Bytes) :=
  formula.foldlM (parseStep formula op) .initial >>= fun s =>
    if s.parityCount ≠ 0 then
      .error ("Wrong parenthesis parity in the (sub)expression '" ++ text formula ++ "'.")
    else .ok (s.subexpressions ++ s.started.toList)

/-! ## Evaluation -/

/-- The subexpressions at the top level and the operator between them: `|` is tried
first. -/
def topLevel : Except String (UInt8 × List Bytes) :=
  singleParse source disjunction >>= fun parts =>
    if parts.length = 1 then (singleParse source conjunction).map fun parts => (conjunction, parts)
    else .ok (disjunction, parts)

/-- The body of `resolveRec` on a text without whitespace, over what it calls for its
parts. -/
def resolveLevel (recurse : Bytes → Except String Bool) (valuation : Vals) (source : Bytes) :
    Except String Bool :=
  if source.isEmpty then .error "An empty subexpression was encountered"
  else topLevel source >>= fun top =>
    match top.2 with
    | [] => .error ("The subexpression " ++ text source ++ " is not a valid formula.")
    | [_] =>
      if source.head? = some bang then (recurse (source.drop 1)).map not
      else if source.head? = some opening then recurse (source.drop 1).dropLast
      else if source = ascii "1" then .ok true
      else if source = ascii "0" then .ok false
      else
        match valuation source with
        | none => .error ("Variable '" ++ text source ++ "' not found in the interpretation.")
        | some value => .ok value
    | first :: second :: rest =>
      -- Every part is evaluated, also when the result is already known.
      ((first :: second :: rest).mapM recurse).map fun values =>
        if top.1 = disjunction then values.any id else values.all id

/-- `resolve` and `resolveRec`, which call each other; whitespace is removed at every
level. Each call is on a shorter text, so the length bounds the depth. -/
def resolveWithin : Nat → Vals → Bytes → Except String Bool
  | 0, _, _ => .error "An empty subexpression was encountered"
  | fuel + 1, valuation, source =>
    resolveLevel (resolveWithin fuel valuation) valuation (removeWhitespaces source)

def resolve (valuation : Vals) : Except String Bool :=
  resolveWithin (source.length + 1) valuation source

/-! ## The evaluation ends -/

/-- What the loop has stored so far: the finished parts with one operator each, and the
text since the last of them. -/
def ParseState.stored (s : ParseState) : Nat :=
  (s.subexpressions.map fun part => part.length + 1).sum + (s.started.getD []).length

variable {formula : Bytes} {op : UInt8}

theorem parseStep_stored {ch : UInt8} {s next : ParseState}
    (steps : parseStep formula op s ch = .ok next) : next.stored ≤ s.stored + 1 := by
  unfold parseStep at steps
  split at steps
  · cases steps
    cases started : s.started <;> simp [ParseState.stored, started]
    omega
  · split at steps
    · cases steps
      simp [ParseState.stored]
      omega
    · split at steps
      case h_1 started =>
        split at steps
        · cases steps
          simp [ParseState.stored, started]
        · cases steps
          omega
      case h_2 word started =>
        split at steps
        · split at steps
          · cases steps
            simp [ParseState.stored, started]
            omega
          · split at steps
            · cases steps
            · cases steps
              simp [ParseState.stored, started]
              omega
        · cases steps
          simp [ParseState.stored, started]
          omega

theorem parseSteps_stored (chars : Bytes) {s last : ParseState}
    (steps : chars.foldlM (parseStep formula op) s = .ok last) :
    last.stored ≤ s.stored + chars.length := by
  induction chars generalizing s with
  | nil =>
    cases steps
    exact Nat.le_refl _
  | cons ch rest ih =>
    obtain ⟨next, first, later⟩ := foldlM_cons_ok.mp steps
    have one := parseStep_stored first
    have more := ih later
    rw [List.length_cons]
    omega

/-- The parts, with an operator between any two, fit into the formula. -/
theorem singleParse_length {parts : List Bytes} (parsed : singleParse formula op = .ok parts) :
    (parts.map fun part => part.length + 1).sum ≤ formula.length + 1 := by
  obtain ⟨last, steps, ends⟩ := bind_eq_ok.mp parsed
  have stored := parseSteps_stored formula steps
  rw [ite_error_eq_ok] at ends
  obtain ⟨-, isParts⟩ := ends
  cases isParts
  unfold ParseState.stored at stored
  cases started : last.started with
  | none =>
    simp [started, ParseState.initial] at stored ⊢
    omega
  | some word =>
    simp [started, ParseState.initial] at stored ⊢
    omega

theorem removeWhitespaces_length (source : Bytes) :
    (removeWhitespaces source).length ≤ source.length := List.length_filter_le _ _

theorem topLevel_shorter {source : Bytes} {parts : List Bytes}
    (split_ : topLevel source = .ok (op, parts)) (several : 2 ≤ parts.length) :
    ∀ part ∈ parts, part.length < source.length := by
  have fits : (parts.map fun part => part.length + 1).sum ≤ source.length + 1 := by
    obtain ⟨first, parsed, chosen⟩ := bind_eq_ok.mp split_
    split at chosen
    · obtain ⟨second, again, isParts⟩ := map_eq_ok.mp chosen
      cases isParts
      exact singleParse_length again
    · cases chosen
      exact singleParse_length parsed
  rw [List.sum_map_add, List.map_const', List.sum_replicate_nat] at fits
  intro part member
  have part_le := List.le_sum_of_mem (List.mem_map_of_mem (f := List.length) member)
  omega

/-- The texts that `resolveRec` calls `resolve` on. -/
def calls (source : Bytes) : List Bytes :=
  if source.isEmpty then []
  else match topLevel source with
    | .error _ => []
    | .ok (_, [_]) =>
      if source.head? = some bang then [source.drop 1]
      else if source.head? = some opening then [(source.drop 1).dropLast]
      else []
    | .ok (_, parts) => parts

theorem calls_shorter {source : Bytes} : ∀ part ∈ calls source, part.length < source.length := by
  unfold calls
  by_cases isEmpty : source.isEmpty = true
  · simp [isEmpty]
  · have positive : 0 < source.length := List.length_pos_iff.mpr (by simpa using isEmpty)
    rw [if_neg isEmpty]
    cases top : topLevel source with
    | error message => simp
    | ok result =>
      obtain ⟨op, _ | ⟨first, _ | ⟨second, rest⟩⟩⟩ := result
      · simp
      · dsimp only
        split
        · simp
          omega
        · split
          · simp
            omega
          · simp
      · exact topLevel_shorter top (by simp)

theorem resolveLevel_congr {recurse other : Bytes → Except String Bool} (valuation : Vals) {source : Bytes}
    (agree : ∀ part ∈ calls source, recurse part = other part) :
    resolveLevel recurse valuation source = resolveLevel other valuation source := by
  unfold resolveLevel
  unfold calls at agree
  by_cases isEmpty : source.isEmpty = true
  · rw [if_pos isEmpty, if_pos isEmpty]
  · rw [if_neg isEmpty] at agree
    rw [if_neg isEmpty, if_neg isEmpty]
    cases top : topLevel source with
    | error message => rfl
    | ok result =>
      rw [top] at agree
      obtain ⟨op, _ | ⟨first, _ | ⟨second, rest⟩⟩⟩ := result
      · rfl
      · dsimp only [bind, Except.bind] at agree ⊢
        split
        case isTrue negated =>
          rw [if_pos negated] at agree
          rw [agree _ List.mem_cons_self]
        case isFalse notNegated =>
          rw [if_neg notNegated] at agree
          split
          case isTrue nested =>
            rw [if_pos nested] at agree
            rw [agree _ List.mem_cons_self]
          case isFalse => rfl
      · have all : (first :: second :: rest).mapM recurse = (first :: second :: rest).mapM other :=
          mapM_congr_of_mem agree
        simp only [bind, Except.bind, all]

/-- More fuel than the length of the text changes nothing: the bound is never met. -/
theorem resolveWithin_fuel (valuation : Vals) :
    ∀ (fuel other : Nat) (source : Bytes), source.length < fuel → source.length < other →
      resolveWithin fuel valuation source = resolveWithin other valuation source
  -- The recursive calls are on shorter texts.
  | fuel + 1, other + 1, source, enough, alsoEnough => by
      apply resolveLevel_congr
      intro part called
      have shorter := calls_shorter part called
      have bounded := removeWhitespaces_length source
      exact resolveWithin_fuel valuation fuel other part (by omega) (by omega)

theorem resolve_eq (valuation : Vals) (source : Bytes) :
    resolve source valuation = resolveLevel (resolve · valuation) valuation (removeWhitespaces source) := by
  apply resolveLevel_congr
  intro part called
  have shorter := calls_shorter part called
  have bounded := removeWhitespaces_length source
  exact resolveWithin_fuel valuation _ _ part (by omega) (by omega)

/-- The recursion of the source, which has no bound on its depth: a call has an outcome once the
calls it makes have theirs. -/
inductive Evaluates (valuation : Vals) : Bytes → Except String Bool → Prop
  | level {source : Bytes} (recurse : Bytes → Except String Bool)
      (called : ∀ part ∈ calls (removeWhitespaces source), Evaluates valuation part (recurse part)) :
      Evaluates valuation source (resolveLevel recurse valuation (removeWhitespaces source))

theorem evaluates_resolve (valuation : Vals) (source : Bytes) :
    Evaluates valuation source (resolve source valuation) := by
  induction length : source.length using Nat.strong_induction_on generalizing source with
  | _ length' ih =>
    rw [resolve_eq]
    refine .level _ fun part called => ih part.length ?_ part rfl
    have shorter := calls_shorter part called
    have bounded := removeWhitespaces_length source
    omega

/-- The evaluation of every formula ends, with the outcome of `resolve` and no other. -/
theorem resolve_recursion (valuation : Vals) (source : Bytes) (outcome : Except String Bool) :
    Evaluates valuation source outcome ↔ resolve source valuation = outcome := by
  constructor
  · intro evaluates
    induction evaluates with
    | level recurse called ih =>
      rw [resolve_eq]
      exact resolveLevel_congr valuation ih
  · rintro rfl
    exact evaluates_resolve valuation source

/-- A formula with every operator, and one that ends in an exception of an inner call. -/
theorem resolve_recursion_formulas :
    let valuation : Vals := fun name => if name = ascii "KYC" then some true else none
    Evaluates valuation (ascii "!(KYC & 0) | (1 & !KYC)") (.ok true)
      ∧ Evaluates valuation (ascii "KYC & !(TAG)") (.error "Variable 'TAG' not found in the interpretation.") :=
  ⟨(resolve_recursion _ _ _).mpr (by decide), (resolve_recursion _ _ _).mpr (by decide)⟩

end BlackRaven.LibBoolEE

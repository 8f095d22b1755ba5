import BlackRaven.Lib.Codec
import Mathlib.Data.List.Basic
import Mathlib.Data.List.Pairwise

/-!
Contract: differences of records, as a mask of the fields that changed and their new values.

Owns: fields of a record as pairs of a reader and a writer, the difference of two records,
its application, and its bytes.

Does not own: any record.
-/

namespace BlackRaven.Lib

/-- A field of a record, with the bit that stands for it in a mask. -/
structure RecordField (ρ : Type) where
  Value : Type
  [decEq : DecidableEq Value]
  flag : BitVec 32
  get : ρ → Value
  set : Value → ρ → ρ
  codec : Codec Value

instance {ρ : Type} (field : RecordField ρ) : DecidableEq field.Value := field.decEq

/-- A mask, and a record that counts only in the fields the mask names. -/
structure RecordDiff (ρ : Type) where
  fields : BitVec 32
  state : ρ

namespace RecordField

variable {ρ : Type}

structure Apart (left right : RecordField ρ) : Prop where
  flags : left.flag &&& right.flag = 0
  getRight : ∀ value record, right.get (left.set value record) = right.get record
  getLeft : ∀ value record, left.get (right.set value record) = left.get record

structure Complete (fields : List (RecordField ρ)) : Prop where
  get_set : ∀ field ∈ fields, ∀ value record, field.get (field.set value record) = value
  flag_ne_zero : ∀ field ∈ fields, field.flag ≠ 0
  apart : fields.Pairwise Apart
  ext : ∀ left right, (∀ field ∈ fields, field.get left = field.get right) → left = right

def assign (fields : List (RecordField ρ)) (choose : (field : RecordField ρ) → Option field.Value) (record : ρ) : ρ :=
  fields.foldl (fun record field => match choose field with
    | some value => field.set value record
    | none => record) record

theorem assign_cons (head : RecordField ρ) (tail : List (RecordField ρ))
    (choose : (field : RecordField ρ) → Option field.Value) (record : ρ) :
    assign (head :: tail) choose record = assign tail choose (match choose head with
      | some value => head.set value record
      | none => record) :=
  rfl

section Assign

variable {choose : (field : RecordField ρ) → Option field.Value} {fields : List (RecordField ρ)}
  {field : RecordField ρ}

theorem get_assign_apart (apart : ∀ other ∈ fields, Apart field other) (record : ρ) :
    field.get (assign fields choose record) = field.get record := by
  induction fields generalizing record with
  | nil => rfl
  | cons head tail ih =>
    rw [assign_cons, ih (List.forall_mem_cons.mp apart).2]
    cases choose head with
    | none => rfl
    | some value => exact (apart head List.mem_cons_self).getLeft value record

theorem get_assign (get_set : ∀ field ∈ fields, ∀ value record, field.get (field.set value record) = value)
    (apart : fields.Pairwise Apart) (member : field ∈ fields) (record : ρ) :
    field.get (assign fields choose record) = (choose field).getD (field.get record) := by
  induction fields generalizing record with
  | nil => cases member
  | cons head tail ih =>
    obtain ⟨headApart, tailApart⟩ := List.pairwise_cons.mp apart
    rw [assign_cons]
    rcases List.mem_cons.mp member with rfl | later
    · rw [get_assign_apart headApart]
      cases choose field with
      | none => rfl
      | some value => exact get_set field List.mem_cons_self value record
    · rw [ih (List.forall_mem_cons.mp get_set).2 tailApart later]
      cases choose head with
      | none => rfl
      | some value => exact congrArg _ ((headApart field later).getRight value record)

end Assign

end RecordField

namespace RecordDiff

variable {ρ : Type} {fields : List (RecordField ρ)}

def Marks (mask : BitVec 32) (field : RecordField ρ) : Prop := mask &&& field.flag ≠ 0

instance (mask : BitVec 32) (field : RecordField ρ) : Decidable (Marks mask field) :=
  inferInstanceAs (Decidable (_ ≠ _))

def compareField (old new : ρ) (diff : RecordDiff ρ) (field : RecordField ρ) : RecordDiff ρ :=
  if field.get old ≠ field.get new then
    ⟨diff.fields ||| field.flag, field.set (field.get new) diff.state⟩
  else diff

/-- The fields in which `new` differs from `old`, with their values in `new`. -/
def between (fields : List (RecordField ρ)) (blank old new : ρ) : RecordDiff ρ :=
  fields.foldl (compareField old new) ⟨0, blank⟩

def applyTo (fields : List (RecordField ρ)) (diff : RecordDiff ρ) (target : ρ) : ρ :=
  RecordField.assign fields
    (fun field => if Marks diff.fields field then some (field.get diff.state) else none) target

/-- The values of the marked fields, one after another. -/
def encodeFields (fields : List (RecordField ρ)) (diff : RecordDiff ρ) : List UInt8 :=
  fields.flatMap fun field =>
    if Marks diff.fields field then field.codec.encode (field.get diff.state) else []

def decodeFields (mask : BitVec 32) : List (RecordField ρ) → ρ → Decoder ρ
  | [], record => pure record
  | field :: rest, record =>
    if Marks mask field then do
      let value ← field.codec.decode
      decodeFields mask rest (field.set value record)
    else decodeFields mask rest record

/-! ## The difference -/

theorem between_state (blank old new : ρ) :
    (between fields blank old new).state
      = RecordField.assign fields
        (fun field => if field.get old ≠ field.get new then some (field.get new) else none) blank := by
  unfold between
  generalize (0 : BitVec 32) = mask
  induction fields generalizing mask blank with
  | nil => rfl
  | cons head tail ih =>
    rw [List.foldl_cons, RecordField.assign_cons, compareField]
    split <;> exact ih _ _

variable {field : RecordField ρ}

private theorem marks_or {left right : BitVec 32} :
    Marks (left ||| right) field ↔ Marks left field ∨ Marks right field := by
  have distributes : (left ||| right) &&& field.flag = left &&& field.flag ||| right &&& field.flag := by
    ext i bound
    simp [Bool.and_or_distrib_right]
  unfold Marks
  rw [distributes]
  exact (not_congr BitVec.or_eq_zero_iff).trans not_and_or

private theorem marks_foldl {old new : ρ} (diff : RecordDiff ρ) :
    Marks (fields.foldl (compareField old new) diff).fields field
      ↔ Marks diff.fields field ∨ ∃ other ∈ fields, other.get old ≠ other.get new ∧ Marks other.flag field := by
  induction fields generalizing diff with
  | nil => simp
  | cons head tail ih =>
    rw [List.foldl_cons, ih, compareField, List.exists_mem_cons_iff]
    by_cases differs : head.get old ≠ head.get new
    · rw [if_pos differs, marks_or, or_assoc]
      simp only [differs, ne_eq, not_false_eq_true, true_and]
    · rw [if_neg differs]
      simp only [differs, false_and, false_or]

theorem between_marks (complete : RecordField.Complete fields) (blank old new : ρ) (member : field ∈ fields) :
    Marks (between fields blank old new).fields field ↔ field.get old ≠ field.get new := by
  have apart : fields.Pairwise fun left right => left.flag &&& right.flag = 0 :=
    complete.apart.imp fun apart => apart.flags
  have symmetric : Std.Symm fun left right : RecordField ρ => left.flag &&& right.flag = 0 :=
    ⟨fun left right => (BitVec.and_comm right.flag left.flag).trans⟩
  unfold between
  rw [marks_foldl]
  constructor
  · rintro (fresh | ⟨other, isOther, differs, marks⟩)
    · simp [Marks] at fresh
    · by_cases same : other = field
      · exact same ▸ differs
      · exact absurd (apart.forall isOther member same) marks
  · intro differs
    refine .inr ⟨field, member, differs, ?_⟩
    rw [Marks, BitVec.and_self]
    exact complete.flag_ne_zero field member

theorem between_fields_eq_zero (complete : RecordField.Complete fields) (blank old new : ρ) :
    (between fields blank old new).fields = 0 ↔ old = new := by
  constructor
  · intro zero
    refine complete.ext old new fun field member => ?_
    by_contra differs
    have marks := (between_marks complete blank old new member).mpr differs
    rw [zero] at marks
    exact marks (BitVec.zero_and)
  · rintro rfl
    exact congrArg RecordDiff.fields (List.foldl_fixed' (fun field => if_neg (not_not_intro rfl)) fields)

section Complete

variable (complete : RecordField.Complete fields) {field : RecordField ρ} (member : field ∈ fields)

include complete member

theorem get_applyTo (diff : RecordDiff ρ) (target : ρ) :
    field.get (diff.applyTo fields target)
      = if Marks diff.fields field then field.get diff.state else field.get target := by
  unfold applyTo
  rw [RecordField.get_assign complete.get_set complete.apart member]
  split <;> rfl

theorem get_between (blank old new : ρ) :
    field.get (between fields blank old new).state
      = if field.get old ≠ field.get new then field.get new else field.get blank := by
  rw [between_state, RecordField.get_assign complete.get_set complete.apart member]
  split <;> rfl

end Complete

theorem applyTo_between (complete : RecordField.Complete fields) (blank old new : ρ) :
    (between fields blank old new).applyTo fields old = new := by
  refine complete.ext _ new fun field member => ?_
  rw [get_applyTo complete member, get_between complete member]
  by_cases differs : field.get old ≠ field.get new
  · rw [if_pos ((between_marks complete blank old new member).mpr differs), if_pos differs]
  · rw [if_neg (mt (between_marks complete blank old new member).mp differs)]
    exact not_not.mp differs

/-- Applied to the blank record the difference gives its own state. -/
theorem applyTo_blank (complete : RecordField.Complete fields) (blank old new : ρ) :
    (between fields blank old new).applyTo fields blank = (between fields blank old new).state := by
  refine complete.ext _ _ fun field member => ?_
  rw [get_applyTo complete member, ite_eq_left_iff, between_marks complete blank old new member]
  intro same
  rw [get_between complete member, if_neg same]

/-- With all fields marked a record is written and read as a whole. -/
theorem applyTo_allOnes (complete : RecordField.Complete fields) (record target : ρ) :
    (⟨BitVec.allOnes 32, record⟩ : RecordDiff ρ).applyTo fields target = record := by
  refine complete.ext _ _ fun field member => ?_
  have marked : Marks (BitVec.allOnes 32) field := by
    rw [Marks, BitVec.allOnes_and]
    exact complete.flag_ne_zero field member
  rw [get_applyTo complete member, if_pos marked]

/-! ## Its bytes -/

theorem decodeFields_run {diff : RecordDiff ρ} (admissible : ∀ field ∈ fields, Marks diff.fields field →
      field.codec.Admissible (field.get diff.state)) (record : ρ) (rest : List UInt8) :
    (decodeFields diff.fields fields record).run (encodeFields fields diff ++ rest)
      = some (diff.applyTo fields record, rest) := by
  induction fields generalizing record with
  | nil => rfl
  | cons head tail ih =>
    have later := ih (List.forall_mem_cons.mp admissible).2
    have encodes : encodeFields (head :: tail) diff
        = (if Marks diff.fields head then head.codec.encode (head.get diff.state) else [])
          ++ encodeFields tail diff := List.flatMap_cons
    rw [encodes, decodeFields]
    unfold applyTo
    rw [RecordField.assign_cons]
    by_cases marked : Marks diff.fields head
    · rw [if_pos marked, if_pos marked, if_pos marked, List.append_assoc,
        head.codec.run_bind_encode _ _ _ (admissible head List.mem_cons_self marked)]
      exact later _
    · rw [if_neg marked, if_neg marked, if_neg marked]
      exact later record

end RecordDiff

end BlackRaven.Lib

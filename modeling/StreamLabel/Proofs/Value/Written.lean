import StreamLabel.Condition
import StreamLabel.Context

/-!
# What is written

A whole number of too many digits is not written. Apart from that, what is made of a value is what is
made of it with every number in full: its text, its kind and what it is compared with
(`Resolved.written_eq`, `Value.classify_eq`, `Resolved.compare_eq`).
-/

namespace StreamLabel

/-- `x` gives `a`, unless a number is not written. -/
def Unwritable.Spares {α : Type} (x : Except Unwritable α) (a : α) : Prop := ∀ b, x = .ok b → b = a

namespace Resolved
variable {v : Resolved}

/-- The value is no whole number of too many digits. -/
def isWritable : Resolved → Bool
  | .number n => n.isWritable
  | _ => true

theorem written_eq (v : Resolved) :
    v.written = if v.isWritable then .ok v.asText else .error .tooManyDigits := by
  cases v <;> rfl

theorem written_of_isWritable (h : v.isWritable = true) : v.written = .ok v.asText := by
  rw [written_eq, if_pos h]

theorem spares_written (v : Resolved) : Unwritable.Spares v.written v.asText := by
  intro text h
  rw [written_eq] at h
  split at h
  · exact (Except.ok.inj h).symm
  · cases h

/-- The operand is compared with a text, which the value does not have. -/
theorem compare_eq (v : Resolved) (op : CompareOp) (operand : String) :
    v.compare op operand =
      if v.isWritable = false ∧ Number.read? operand = none then .error .tooManyDigits
      else .ok (v.satisfies op operand) := by
  cases v with
  | number n =>
    cases hread : Number.read? operand with
    | some m => simp [compare, hread]
    | none =>
      have hsatisfies : (number n).satisfies op operand = op.holds (textOrder n.text operand) := by
        rw [satisfies, hread]
        · rfl
        · nofun
      rw [compare, hsatisfies, Number.written, isWritable]
      · cases n.isWritable <;> rfl
      · exact hread
  | absent | bool b | text s => simp [compare, isWritable]

theorem compare_of_isWritable (h : v.isWritable = true) (op : CompareOp) (operand : String) :
    v.compare op operand = .ok (v.satisfies op operand) := by
  rw [compare_eq, if_neg (by simp [h])]

theorem spares_compare (v : Resolved) (op : CompareOp) (operand : String) :
    Unwritable.Spares (v.compare op operand) (v.satisfies op operand) := by
  intro b h
  rw [compare_eq] at h
  split at h
  · cases h
  · exact (Except.ok.inj h).symm

end Resolved

namespace Value
variable {v : Value}

/-- A value has its kind, or a number in it is not written. -/
theorem classify_cases (v : Value) :
    v.classify = .ok v.resolve ∨ v.classify = .error .tooManyDigits ∧ v.isWritable = false := by
  unfold classify
  split
  · exact .inl (by rw [resolve])
  · split
    · exact .inl rfl
    · rename_i hnone
      exact .inr ⟨rfl, by simpa using hnone⟩

theorem classify_of_isWritable (h : v.isWritable = true) : v.classify = .ok v.resolve :=
  v.classify_cases.resolve_right fun hnone => by simp [h] at hnone

theorem spares_classify (v : Value) : Unwritable.Spares v.classify v.resolve := by
  intro w h
  rcases v.classify_cases with heq | ⟨heq, -⟩
  · exact (Except.ok.inj (heq.symm.trans h)).symm
  · cases heq.symm.trans h

/-- What is made of a value whose numbers can be written can be written. -/
theorem isWritable_resolve (h : v.isWritable = true) : v.resolve.isWritable = true := by
  cases v with
  | int n => simpa [resolve, isWritable, Resolved.isWritable] using h
  | float x => cases x <;> rfl
  | null | bool | text | bytes | list | table => rfl

end Value

namespace Context
variable {c : Context} {ref : Reference}

/-- Every whole number in the value of the reference can be written. -/
def isWritableAt (c : Context) (ref : Reference) : Bool := (c.value? ref).all Value.isWritable

theorem classify_of_isWritableAt (h : c.isWritableAt ref = true) :
    c.classify ref = .ok (c.resolve ref) := by
  rw [isWritableAt] at h
  rw [classify, resolve]
  cases hv : c.value? ref with
  | none => rfl
  | some v =>
    rw [hv] at h
    exact Value.classify_of_isWritable h

theorem spares_classify (c : Context) (ref : Reference) :
    Unwritable.Spares (c.classify ref) (c.resolve ref) := by
  rw [classify, resolve]
  cases c.value? ref with
  | none => exact fun _ h => (Except.ok.inj h).symm
  | some v => exact v.spares_classify

theorem isWritable_resolve (h : c.isWritableAt ref = true) : (c.resolve ref).isWritable = true := by
  rw [isWritableAt] at h
  rw [resolve]
  cases hv : c.value? ref with
  | none => rfl
  | some v =>
    rw [hv] at h
    exact Value.isWritable_resolve h

end Context

end StreamLabel

import StreamLabel.Proofs.Template.Condition

/-!
# Rounds of a loop

A loop has a step that goes on to another state or comes to a result, and `rounds` follows it for a
given number of rounds. Nothing is said of how many it takes: that a loop ends is shown by a measure
that every round lowers, and what it ends in by what the result of a state is to be, which no round
changes (`Ends.rounds_eq`). The loops over single characters are of this kind: the one that passes the
characters that a test picks, and the one that looks for the end of a pattern, whose index may step over
the end of the text behind a last backslash.
-/

namespace StreamLabel
open Unicode Reader Cursor

variable {σ ρ : Type}

/-- Follows the steps of a loop, if it comes to a result within `n` rounds. -/
def rounds (step : σ → σ ⊕ ρ) : (n : Nat) → σ → Option ρ
  | 0, _ => none
  | n + 1, s =>
    match step s with
    | .inl t => rounds step n t
    | .inr r => some r

/-- From a state that keeps `Keeps`, every round lowers `measure` and leaves `result` as it is. -/
structure Ends (step : σ → σ ⊕ ρ) (Keeps : σ → Prop) (measure : σ → Nat) (result : σ → ρ) : Prop where
  keeps : ∀ {s t : σ}, Keeps s → step s = .inl t → Keeps t
  lt : ∀ {s t : σ}, Keeps s → step s = .inl t → measure t < measure s
  result_eq : ∀ {s : σ}, Keeps s → (step s).elim result id = result s

theorem Ends.rounds_eq {step : σ → σ ⊕ ρ} {Keeps : σ → Prop} {measure : σ → Nat} {result : σ → ρ}
    (h : Ends step Keeps measure result) {s : σ} (hs : Keeps s) {n : Nat} (hn : measure s < n) :
    rounds step n s = some (result s) := by
  induction n generalizing s with
  | zero => exact absurd hn (Nat.not_lt_zero _)
  | succ n ih =>
    have hresult := h.result_eq hs
    rw [rounds]
    cases hstep : step s with
    | inl t =>
      rw [hstep] at hresult
      have hlt := h.lt hs hstep
      rw [← hresult]
      exact ih (h.keeps hs hstep) (by omega)
    | inr r =>
      rw [hstep] at hresult
      rw [← hresult]
      rfl

/-! ### Runs of characters -/

/-- Passes a character that `p` picks. -/
def passStep (p : Char → Bool) (c : Cursor) : Cursor ⊕ Cursor :=
  match c.rest with
  | [] => .inr c
  | x :: _ => if p x then .inl (c.skip 1) else .inr c

theorem passStep_ends (p : Char → Bool) :
    Ends (passStep p) (fun _ => True) (fun c => c.rest.length) (fun c => c.skipWhile p) where
  keeps _ _ := trivial
  lt {c d} _ h := by
    rw [passStep] at h
    split at h
    · simp at h
    · rename_i x r hrest
      split at h
      · obtain rfl := Sum.inl.inj h
        simp [skip, hrest]
      · simp at h
  result_eq {c} _ := by
    obtain ⟨pos, rest⟩ := c
    cases rest with
    | nil => rfl
    | cons x r =>
      by_cases hx : p x = true
      · simp [passStep, skipWhile, skip, hx, Nat.add_comm, Nat.add_left_comm]
      · simp [passStep, skipWhile, skip, hx]

/-! ### Patterns -/

/-- A place in the text of a pattern and of what follows it. -/
structure Scan where
  index : Nat
  /-- A slash has been passed that no bracket follows. -/
  seen : Bool
deriving DecidableEq

/-- Goes on in `cs` behind a pair of a backslash and a character, or behind a character that does not
end the pattern. The result is where the pattern ends, or whether there is a slash. -/
def scanStep (cs : List Char) (s : Scan) : Scan ⊕ Except Bool Nat :=
  match cs.drop s.index with
  | [] => .inr (.error s.seen)
  | x :: after =>
    if x = '\\' then .inl ⟨s.index + 2, s.seen⟩
    else if x = '/' then
      if bracketFollows after then .inr (.ok s.index) else .inl ⟨s.index + 1, true⟩
    else .inl ⟨s.index + 1, s.seen⟩

/-- What the rest of the text comes to from a place on. -/
def Scan.result (cs : List Char) (s : Scan) : Except Bool Nat :=
  match patternLength? (cs.drop s.index) with
  | some n => .ok (s.index + n)
  | none => .error (s.seen || hasSlash (cs.drop s.index))

theorem scanStep_index_lt {cs : List Char} {s t : Scan} (h : scanStep cs s = .inl t) :
    s.index < cs.length ∧ s.index < t.index := by
  unfold scanStep at h
  split at h
  · simp at h
  rename_i x after hdrop
  have hlt : s.index < cs.length := by
    by_contra hge
    rw [List.drop_eq_nil_of_le (by omega)] at hdrop
    simp at hdrop
  refine ⟨hlt, ?_⟩
  split at h
  · cases h
    simp
  split at h
  · split at h
    · simp at h
    · cases h
      simp
  · cases h
    simp

theorem hasSlash_cons {x : Char} (hx : x ≠ '\\') (cs : List Char) :
    hasSlash (x :: cs) = (x == '/' || hasSlash cs) := by
  rw [hasSlash] <;> simp [hx]

theorem scanStep_ends (cs : List Char) :
    Ends (scanStep cs) (fun _ => True) (fun s => cs.length - s.index) (Scan.result cs) where
  keeps _ _ := trivial
  lt _ h := by
    have := scanStep_index_lt h
    omega
  result_eq {s} _ := by
    obtain ⟨i, seen⟩ := s
    cases hdrop : cs.drop i with
    | nil => simp [scanStep, Scan.result, hdrop, patternLength?, hasSlash]
    | cons x after =>
      have hone : cs.drop (i + 1) = after := by
        rw [← List.drop_drop, hdrop, List.drop_one, List.tail_cons]
      by_cases hpair : x = '\\'
      · subst hpair
        have htwo : cs.drop (i + 2) = after.drop 1 := by rw [← hone, List.drop_drop]
        cases after with
        | nil => simp [scanStep, Scan.result, hdrop, htwo, patternLength?, hasSlash]
        | cons y r =>
          cases hr : patternLength? r
          · simp [scanStep, Scan.result, hdrop, htwo, hr, hasSlash]
          · simp [scanStep, Scan.result, hdrop, htwo, hr]
            omega
      by_cases hslash : x = '/'
      · subst hslash
        by_cases hbracket : bracketFollows after = true
        · simp [scanStep, Scan.result, hdrop, patternLength?_cons hpair, hbracket]
        cases hafter : patternLength? after
        · simp [scanStep, Scan.result, hdrop, hone, hafter, patternLength?_cons hpair,
            hasSlash_cons hpair, hbracket]
        · simp [scanStep, Scan.result, hdrop, hone, hafter, patternLength?_cons hpair, hbracket]
          omega
      have hno : (x == '/') = false := beq_eq_false_iff_ne.2 hslash
      cases hafter : patternLength? after
      · simp [scanStep, Scan.result, hdrop, hone, hafter, patternLength?_cons hpair,
          hasSlash_cons hpair, hpair, hslash, hno]
      · simp [scanStep, Scan.result, hdrop, hone, hafter, patternLength?_cons hpair, hpair, hslash]
        omega

end StreamLabel

import StreamLabel.Json.Reader

/-!
# Written texts are read back

A text is written character by character, and each character is read back from what it was written
as, whatever follows (`textBody_escape`). So a quoted text is read up to its closing quote, and so is
a field that holds one.
-/

namespace StreamLabel.Json

/-! ### Characters -/

theorem textBody_skip (xs cs : List Char) : textBody (xs ++ cs) xs.length = textBody cs 0 := by
  induction xs with
  | nil => rfl
  | cons x xs ih => exact ih

/-- What an escape stands for is read, and its characters are passed. -/
theorem textBody_backslash {e cs : List Char} {d : Char}
    (h : escape? (e ++ cs) = some (d, e.length)) :
    textBody ('\\' :: (e ++ cs)) 0 = (textBody cs 0).map fun (s, rest) => (d :: s, rest) := by
  rw [textBody, if_neg (by decide), if_pos rfl, h]
  dsimp only
  rw [textBody_skip]

theorem unit?_hexDigits : ∀ n < 32, unit? (Quoted.hexDigits 4 n) = some n := by decide

theorem length_hexDigits (width n : Nat) : (Quoted.hexDigits width n).length = width := by
  induction width generalizing n with
  | zero => rfl
  | succ width ih => rw [Quoted.hexDigits, List.length_append, ih, List.length_singleton]

/-- A control that has no letter of its own is read from its number. -/
theorem escape?_unitEscape {c : Char} (h : c.toNat < 32) (cs : List Char) :
    escape? ('u' :: Quoted.hexDigits 4 c.toNat ++ cs) = some (c, 5) := by
  have hunit : unit? ((Quoted.hexDigits 4 c.toNat ++ cs).take 4) = some c.toNat := by
    rw [List.take_left' (length_hexDigits 4 c.toNat), unit?_hexDigits _ h]
  have hhigh : isHighUnit c.toNat = false := by simp [isHighUnit]; omega
  have hlow : isLowUnit c.toNat = false := by simp [isLowUnit]; omega
  simp only [List.cons_append, escape?, hunit, Option.bind_eq_bind, Option.bind_some, hhigh, hlow,
    Bool.false_eq_true, ↓reduceIte, Char.ofNat_toNat]

/-- A character is read back, however it was written. -/
theorem textBody_escape (c : Char) (cs : List Char) :
    textBody (escape false c ++ cs) 0 = (textBody cs 0).map fun (s, rest) => (c :: s, rest) := by
  unfold escape
  split
  · rename_i hc
    rcases hc with rfl | rfl
    · exact textBody_backslash (e := ['"']) rfl
    · exact textBody_backslash (e := ['\\']) rfl
  rename_i hplain
  split
  · subst_vars; exact textBody_backslash (e := ['n']) rfl
  split
  · subst_vars; exact textBody_backslash (e := ['r']) rfl
  split
  · subst_vars; exact textBody_backslash (e := ['t']) rfl
  split
  · subst_vars; exact textBody_backslash (e := ['b']) rfl
  split
  · subst_vars; exact textBody_backslash (e := ['f']) rfl
  split
  · rename_i hc
    have hcontrol : c.toNat < 32 := by simpa using hc
    rw [codeEscape, if_pos (by omega), unitEscape]
    refine textBody_backslash (e := 'u' :: Quoted.hexDigits 4 c.toNat) ?_
    rw [List.length_cons, length_hexDigits]
    exact escape?_unitEscape hcontrol cs
  · rename_i hc
    obtain ⟨hquote, hslash⟩ := not_or.1 hplain
    have hcontrol : ¬ c.toNat < 32 := fun h => hc (.inl h)
    rw [List.singleton_append, textBody, if_neg hquote, if_neg hslash, if_neg hcontrol]

theorem textBody_escapeAll (s rest : List Char) :
    textBody (escapeAll false s ++ '"' :: rest) 0 = some (s, rest) := by
  induction s with
  | nil => rfl
  | cons c s ih =>
    rw [escapeAll, List.flatMap_cons, List.append_assoc, textBody_escape]
    rw [escapeAll] at ih
    rw [ih]
    rfl

/-! ### Texts and fields -/

theorem textFrom_quote (s : String) (rest : List Char) :
    textFrom ((quote false s).toList ++ rest) = some (s, rest) := by
  rw [quote, String.toList_ofList, List.cons_append, List.cons_append, List.append_assoc,
    List.singleton_append, textFrom, textBody_escapeAll, Option.map_some]
  dsimp only
  rw [String.ofList_toList]

theorem quote_eq_cons (s : String) : ∃ cs, (quote false s).toList = '"' :: cs :=
  ⟨_, by rw [quote, String.toList_ofList, List.cons_append]⟩

theorem skipBlanks_quote (s : String) (rest : List Char) :
    skipBlanks ((quote false s).toList ++ rest) = (quote false s).toList ++ rest := by
  obtain ⟨cs, hcs⟩ := quote_eq_cons s
  rw [hcs]
  rfl

theorem valueFrom_quote (depth : Nat) (s : String) (rest : List Char) :
    valueFrom depth ((quote false s).toList ++ rest) = some (.text s, rest) := by
  have htext := textFrom_quote s rest
  obtain ⟨cs, hcs⟩ := quote_eq_cons s
  rw [hcs, List.cons_append] at htext ⊢
  rw [valueFrom, htext]
  rfl

/-- A field that holds a text, without blanks. -/
theorem fieldFrom_quote (depth : Nat) (name s : String) (rest : List Char) :
    fieldFrom (valueFrom depth)
      ((quote false name).toList ++ ':' :: ((quote false s).toList ++ rest)) =
        some ((name, .text s), rest) := by
  have hcolon : skipBlanks (':' :: ((quote false s).toList ++ rest)) =
      ':' :: ((quote false s).toList ++ rest) := rfl
  simp only [fieldFrom, textFrom_quote, Option.bind_eq_bind, Option.bind_some, hcolon,
    skipBlanks_quote, valueFrom_quote]

section Parts

variable {α : Type} {part : List Char → Option (α × List Char)} {closer : Char} {cs rest : List Char}
  {x : α}

theorem parts_comma (h : part (skipBlanks cs) = some (x, ',' :: rest)) (fuel : Nat) :
    parts part closer (fuel + 1) cs =
      (parts part closer fuel rest).map fun (xs, rest) => (x :: xs, rest) := by
  rw [parts, h]
  rfl

theorem parts_closer (h : part (skipBlanks cs) = some (x, closer :: rest)) (hcomma : closer ≠ ',')
    (hblank : isBlank closer = false) (fuel : Nat) :
    parts part closer (fuel + 1) cs = some ([x], rest) := by
  have hcloser : skipBlanks (closer :: rest) = closer :: rest :=
    List.dropWhile_cons_of_neg (by simp [hblank])
  simp only [parts, h, hcloser, hcomma, ↓reduceIte]

end Parts

end StreamLabel.Json

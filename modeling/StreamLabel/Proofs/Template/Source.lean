import Mathlib.Data.List.TakeWhile
import StreamLabel.Template.Source

/-!
# Texts that hold halves of surrogate pairs

Reading such a text goes as reading the string that shows it, character by character. What differs is
which errors can be reported: `ParseError.Reportable` says that the text up to the error has bytes and
that its message can be written.
-/

namespace StreamLabel

theorem utf8Length_append (as bs : List Char) :
    utf8Length (as ++ bs) = utf8Length as + utf8Length bs := by
  induction as with
  | nil => simp [utf8Length]
  | cons a as ih => simp only [List.cons_append, utf8Length, ih]; omega

theorem utf8Length_toList (s : String) : utf8Length s.toList = s.utf8ByteSize := by
  have h : ∀ cs : List Char, utf8Length cs = (String.ofList cs).utf8ByteSize := by
    intro cs
    induction cs with
    | nil => rfl
    | cons c cs ih =>
      rw [utf8Length, ih, String.ofList_cons, String.utf8ByteSize_append, String.utf8ByteSize_singleton]
  rw [h, String.ofList_toList]

namespace CodePoints
variable {ps qs : CodePoints} {s : String}

@[simp] theorem length_chars (ps : CodePoints) : ps.chars.length = ps.length := List.length_map ..

@[simp] theorem toList_text (ps : CodePoints) : ps.text.toList = ps.chars := String.toList_ofList

@[simp] theorem length_text (ps : CodePoints) : ps.text.length = ps.length := by
  rw [← String.length_toList, toList_text, length_chars]

theorem text_append (ps qs : CodePoints) : text (ps ++ qs) = ps.text ++ qs.text := by
  rw [text, chars, List.map_append, String.ofList_append]
  rfl

theorem utf8Length_take (ps : CodePoints) (k : Nat) :
    utf8Length (ps.text.toList.take k) = (text (ps.take k)).utf8ByteSize := by
  rw [← utf8Length_toList, toList_text, toList_text, chars, chars, List.map_take]

theorem isHalf_toNat (c : Char) : isHalf c.toNat = false := by
  have hvalid : c.toNat < 0xd800 ∨ 0xdfff < c.toNat ∧ c.toNat < 0x110000 := c.valid
  simp only [isHalf, Bool.and_eq_false_iff, decide_eq_false_iff_not]
  omega

@[simp] theorem chars_ofChars (cs : List Char) : chars (ofChars cs) = cs := by
  rw [chars, ofChars, List.map_map]
  refine (List.map_congr_left fun c _ => ?_).trans (List.map_id cs)
  simp [charOf, isHalf_toNat]

@[simp] theorem text_ofString (s : String) : text (ofString s) = s := by
  rw [text, ofString, chars_ofChars, String.ofList_toList]

theorem unencodable?_eq_none_iff : ps.unencodable? = none ↔ ∀ n ∈ ps, isHalf n = false := by
  rw [unencodable?]
  split
  · rename_i hnil
    simpa [List.dropWhile_eq_nil_iff] using hnil
  · rename_i half rest hcons
    have hmem : half ∈ ps := (List.dropWhile_suffix _).subset (hcons ▸ List.mem_cons_self ..)
    have hhalf : isHalf half = true := by
      have hhead := List.head_dropWhile_not (fun n => !isHalf n) (l := ps) (by simp [hcons])
      simpa [hcons] using hhead
    refine ⟨nofun, fun h => ?_⟩
    cases hhalf.symm.trans (h half hmem)

@[simp] theorem unencodable?_ofString (s : String) : unencodable? (ofString s) = none := by
  rw [unencodable?_eq_none_iff]
  intro n hn
  obtain ⟨c, -, rfl⟩ := List.mem_map.1 hn
  exact isHalf_toNat c

@[simp] theorem encode_ofString (s : String) : encode (ofString s) = .ok s := by
  rw [encode, unencodable?_ofString, text_ofString]

theorem encode_eq_ok_iff : ps.encode = .ok s ↔ (∀ n ∈ ps, isHalf n = false) ∧ ps.text = s := by
  rw [encode, ← unencodable?_eq_none_iff]
  cases ps.unencodable? <;> simp

/-- Text that has bytes moves the first halves of what follows it. -/
theorem unencodable?_append_left (h : ps.unencodable? = none) (qs : CodePoints) :
    unencodable? (ps ++ qs) =
      qs.unencodable?.map fun u => ⟨ps.length + u.position, u.halves⟩ := by
  rw [unencodable?_eq_none_iff] at h
  have hdrop : (ps ++ qs).dropWhile (!isHalf ·) = qs.dropWhile (!isHalf ·) :=
    List.dropWhile_append_of_pos fun n hn => by simp [h n hn]
  rw [unencodable?, hdrop, unencodable?]
  split
  · rfl
  · rename_i half rest hcons
    have hlength := (List.dropWhile_suffix (!isHalf ·) (l := qs)).length_le
    rw [hcons] at hlength
    rw [Option.map_some, List.length_append, Nat.add_sub_assoc hlength]

/-- Text that has bytes changes nothing for what precedes it. -/
theorem unencodable?_append_right (ps : CodePoints) (h : qs.unencodable? = none) :
    unencodable? (ps ++ qs) = ps.unencodable? := by
  cases hps : ps.unencodable? with
  | none => rw [unencodable?_append_left hps, h, Option.map_none]
  | some u =>
    rw [unencodable?_eq_none_iff] at h
    rw [unencodable?] at hps ⊢
    split at hps
    · cases hps
    · rename_i half rest hcons
      have htake : (rest ++ qs).takeWhile isHalf = rest.takeWhile isHalf := by
        have hnone : qs.takeWhile isHalf = [] := by
          cases qs with
          | nil => rfl
          | cons q qs => simp [h q (List.mem_cons_self ..)]
        rw [List.takeWhile_append, hnone]
        split
        · rename_i hall
          rw [List.append_nil, (List.takeWhile_prefix isHalf).eq_of_length hall]
        · rfl
      rw [List.dropWhile_append, hcons]
      simp only [List.isEmpty_cons, Bool.false_eq_true, ↓reduceIte, List.cons_append, htake,
        List.length_append, List.length_cons]
      rw [← hps]
      congr 2
      simp only [List.length_cons]
      omega

end CodePoints

namespace ParseError

/-- The error can be reported: the text up to it has bytes, and its message can be written. -/
def Reportable (source : CodePoints) (e : ParseError) : Prop :=
  e.cause.isWritable = true ∧ ∀ n ∈ source.take e.position, CodePoints.isHalf n = false

end ParseError

namespace Template
variable {source : CodePoints} {s : String} {limit : Int} {t : Template} {e : ParseError}
  {f : Failure}

theorem Failure.ofError_eq_iff : Failure.ofError source e = .error e ↔ e.Reportable source := by
  rw [ParseError.Reportable, ← CodePoints.unencodable?_eq_none_iff, ofError]
  split
  · rename_i hwritable
    cases CodePoints.unencodable? (source.take e.position) <;> simp [hwritable]
  · rename_i hwritable
    simp [hwritable]

/-- Why an error is not reported. -/
inductive Failure.Hides (source : CodePoints) (e : ParseError) : Failure → Prop
  | bytes {u : Unencodable} (written : e.cause.isWritable = true)
      (halves : CodePoints.unencodable? (source.take e.position) = some u) :
      Hides source e (.unencodable u)
  | digits (unwritten : e.cause.isWritable = false) : Hides source e (.unwritable .tooManyDigits)

/-- An error is reported or hidden. -/
theorem Failure.ofError_cases (source : CodePoints) (e : ParseError) :
    (ofError source e = .error e ∧ e.Reportable source) ∨ Hides source e (ofError source e) := by
  cases hwritten : e.cause.isWritable with
  | false => exact .inr (by rw [ofError, hwritten]; exact .digits hwritten)
  | true =>
    cases hhalves : CodePoints.unencodable? (source.take e.position) with
    | none =>
      have hreportable : e.Reportable source :=
        ⟨hwritten, CodePoints.unencodable?_eq_none_iff.1 hhalves⟩
      exact .inl ⟨ofError_eq_iff.2 hreportable, hreportable⟩
    | some u =>
      have hfailure : ofError source e = .unencodable u := by rw [ofError, if_pos hwritten, hhalves]
      exact .inr (hfailure ▸ .bytes hwritten hhalves)

theorem read_eq_ok_iff : read source limit = .ok t ↔ parse source.text limit = .ok t := by
  rw [read]
  cases parse source.text limit <;> simp [Except.mapError]

theorem read_eq_error_iff : read source limit = .error f ↔
    ∃ e, parse source.text limit = .error e ∧ f = .ofError source e := by
  rw [read]
  cases parse source.text limit <;> simp [Except.mapError, eq_comm]

theorem read_ofString_eq_ok_iff :
    read (.ofString s) limit = .ok t ↔ parse s limit = .ok t := by
  rw [read_eq_ok_iff, CodePoints.text_ofString]

theorem Failure.ofError_ofString (h : e.cause.isWritable = true) :
    Failure.ofError (.ofString s) e = .error e :=
  ofError_eq_iff.2 ⟨h, fun n hn =>
    CodePoints.unencodable?_eq_none_iff.1 (CodePoints.unencodable?_ofString s) n
      (List.mem_of_mem_take hn)⟩

theorem read_ofString_of_error (h : parse s limit = .error e) (hwritable : e.cause.isWritable = true) :
    read (.ofString s) limit = .error (.error e) := by
  rw [read, CodePoints.text_ofString, h, ← Failure.ofError_ofString hwritable]
  rfl

/-- A text that has bytes is read as the string with these bytes. -/
theorem read_of_encode (h : source.encode = .ok s) : read source limit = read (.ofString s) limit := by
  obtain ⟨hbytes, rfl⟩ := CodePoints.encode_eq_ok_iff.1 h
  have hfailure : Failure.ofError source = Failure.ofError (.ofString source.text) := by
    funext e
    have hnone : ∀ ps : CodePoints, ps.unencodable? = none →
        CodePoints.unencodable? (ps.take e.position) = none := by
      intro ps hps
      rw [CodePoints.unencodable?_eq_none_iff] at hps ⊢
      exact fun n hn => hps n (List.mem_of_mem_take hn)
    rw [Failure.ofError, Failure.ofError, hnone _ (CodePoints.unencodable?_eq_none_iff.2 hbytes),
      hnone _ (CodePoints.unencodable?_ofString _)]
  rw [read, read, CodePoints.text_ofString, hfailure]

end Template

end StreamLabel

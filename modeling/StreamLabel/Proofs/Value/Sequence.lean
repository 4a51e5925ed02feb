import Mathlib
import StreamLabel.Proofs.Number.Whole
import StreamLabel.Proofs.Value.Written

/-!
# Sequences in sequences

The text of a sequence is joined in steps, one for each sequence in it, and each step leaves out what
has no text. Since joining two texts is associative, with the empty text as its unit, the steps may as
well be one: the text is that of the leaves that have one, with a space between them
(`sequence_flattens`). So it does not matter how the items are put into sequences, nor whether there
is something without a text among them (`Regrouped`). A leaf with a number that is not written leaves
the whole sequence without a text (`exists_sequence_not_text`).
-/

namespace StreamLabel

/-! ### Texts side by side -/

/-- One text and then the other, with a space between them if neither is empty. -/
def beside (s t : String) : String := if s = "" then t else if t = "" then s else s ++ " " ++ t

variable {s t u : String} {ss : List String}

@[simp] theorem empty_beside (t : String) : beside "" t = t := if_pos rfl

@[simp] theorem beside_empty (s : String) : beside s "" = s := by
  unfold beside
  split
  · rename_i h
    exact h.symm
  · exact if_pos rfl

theorem beside_eq (hs : s ≠ "") (ht : t ≠ "") : beside s t = s ++ " " ++ t := by
  rw [beside, if_neg hs, if_neg ht]

theorem beside_eq_empty_iff : beside s t = "" ↔ s = "" ∧ t = "" := by
  unfold beside
  split
  · rename_i hs
    simp [hs]
  · rename_i hs
    split <;> simp [hs]

theorem beside_assoc (s t u : String) : beside (beside s t) u = beside s (beside t u) := by
  by_cases hs : s = ""
  · rw [hs, empty_beside, empty_beside]
  by_cases ht : t = ""
  · rw [ht, empty_beside, beside_empty]
  by_cases hu : u = ""
  · rw [hu, beside_empty, beside_empty]
  have hst : beside s t ≠ "" := fun h => hs (beside_eq_empty_iff.1 h).1
  have htu : beside t u ≠ "" := fun h => ht (beside_eq_empty_iff.1 h).1
  rw [beside_eq hst hu, beside_eq hs htu, beside_eq hs ht, beside_eq ht hu]
  simp only [String.append_assoc]

theorem joinWords_eq_empty_iff : joinWords ss = "" ↔ ∀ s ∈ ss, s = "" := by
  have hjoin : ∀ words : List String, (∀ w ∈ words, w ≠ "") →
      (" ".intercalate words = "" ↔ words = []) := by
    intro words hwords
    cases words with
    | nil => simp
    | cons w words =>
      have hw : w ≠ "" := hwords w (List.mem_cons_self ..)
      cases words with
      | nil => simpa using hw
      | cons w' words => simp [hw]
  rw [joinWords, hjoin _ (by simp), List.filter_eq_nil_iff]
  simp

theorem joinWords_cons (s : String) (ss : List String) :
    joinWords (s :: ss) = beside s (joinWords ss) := by
  by_cases hs : s = ""
  · rw [hs, empty_beside, joinWords, joinWords, List.filter_cons_of_neg (by simp)]
  rw [joinWords, List.filter_cons_of_pos (by simpa using hs)]
  by_cases hss : joinWords ss = ""
  · have hwords : ss.filter (· ≠ "") = [] := by
      rw [List.filter_eq_nil_iff]
      simpa using joinWords_eq_empty_iff.1 hss
    rw [hss, beside_empty, hwords, String.intercalate_singleton]
  · have hwords : ss.filter (· ≠ "") ≠ [] := by
      intro h
      rw [joinWords, h] at hss
      exact hss rfl
    rw [beside_eq hs hss, String.intercalate_cons_of_ne_nil hwords, joinWords]

theorem joinWords_append (ss ts : List String) :
    joinWords (ss ++ ts) = beside (joinWords ss) (joinWords ts) := by
  induction ss with
  | nil => exact (empty_beside _).symm
  | cons s ss ih => rw [List.cons_append, joinWords_cons, joinWords_cons, ih, beside_assoc]

/-! ### Leaves -/

namespace Value

variable {v w : Value} {items vs xs ys zs : List Value}

/-- The canonical text, with every whole number in full. -/
def asText (v : Value) : String := v.resolve.asText

/-- The canonical text, which a value with a whole number of too many digits does not have. -/
def written (v : Value) : Except Unwritable String := v.classify >>= Resolved.written

/-- Whether the value takes a place in the text of a sequence: what has the empty text does not. -/
def takesPlace (v : Value) : Bool :=
  match v.written with
  | .ok s => s ≠ ""
  | .error _ => true

/-- The items of a sequence; those of bytes are whole numbers. -/
def items? : Value → Option (List Value)
  | .list items => some items
  | .bytes bs => some (bs.map fun b => .int b.toNat)
  | _ => none

mutual

/-- What a value consists of that is no sequence, from left to right. -/
def leaves : Value → List Value
  | .list items => leavesAll items
  | .bytes bs => bs.map fun b => .int b.toNat
  | v => [v]

def leavesAll : List Value → List Value
  | [] => []
  | v :: vs => leaves v ++ leavesAll vs

end

/-- The leaves without those that have the empty text. -/
def textLeaves (vs : List Value) : List Value := (leavesAll vs).filter takesPlace

/-- Induction on a list of values, through the sequences among them. -/
@[elab_as_elim]
theorem induct_items {P : List Value → Prop} (nil : P [])
    (leaf : ∀ v vs, v.items? = none → P vs → P (v :: vs))
    (sequence : ∀ v items vs, v.items? = some items → P items → P vs → P (v :: vs)) : ∀ vs, P vs
  | [] => nil
  | .list items :: vs =>
    sequence _ items vs rfl (induct_items nil leaf sequence items) (induct_items nil leaf sequence vs)
  | .bytes bs :: vs => by
    refine sequence _ _ vs rfl ?_ (induct_items nil leaf sequence vs)
    induction bs with
    | nil => exact nil
    | cons b bs ih => exact leaf _ _ rfl ih
  | .null :: vs => leaf _ vs rfl (induct_items nil leaf sequence vs)
  | .bool _ :: vs => leaf _ vs rfl (induct_items nil leaf sequence vs)
  | .int _ :: vs => leaf _ vs rfl (induct_items nil leaf sequence vs)
  | .float _ :: vs => leaf _ vs rfl (induct_items nil leaf sequence vs)
  | .text _ :: vs => leaf _ vs rfl (induct_items nil leaf sequence vs)
  | .table _ :: vs => leaf _ vs rfl (induct_items nil leaf sequence vs)

@[simp] theorem leavesAll_nil : leavesAll [] = [] := by rw [leavesAll]

theorem leavesAll_cons_leaf (h : v.items? = none) (vs : List Value) :
    leavesAll (v :: vs) = v :: leavesAll vs := by
  cases v with
  | list | bytes => cases h
  | _ => rw [leavesAll, leaves, List.singleton_append] <;> simp

theorem leavesAll_cons_sequence (h : v.items? = some items) (vs : List Value) :
    leavesAll (v :: vs) = leavesAll items ++ leavesAll vs := by
  cases v with
  | list =>
    obtain rfl := Option.some.inj h
    rw [leavesAll, leaves]
  | bytes bs =>
    obtain rfl := Option.some.inj h
    have hbytes : leavesAll (bs.map fun b => .int b.toNat) = bs.map fun b => .int b.toNat := by
      induction bs with
      | nil => exact leavesAll_nil
      | cons b bs ih => rw [List.map_cons, leavesAll_cons_leaf rfl, ih rfl]
    rw [leavesAll, leaves, hbytes]
  | _ => cases h

@[simp] theorem leavesAll_append (xs ys : List Value) :
    leavesAll (xs ++ ys) = leavesAll xs ++ leavesAll ys := by
  induction xs with
  | nil => simp
  | cons x xs ih => rw [List.cons_append, leavesAll, leavesAll, ih, List.append_assoc]

theorem items?_of_mem_leavesAll : v ∈ leavesAll vs → v.items? = none := by
  induction vs using induct_items with
  | nil => simp
  | leaf w vs hw ih =>
    rw [leavesAll_cons_leaf hw, List.mem_cons]
    rintro (rfl | h)
    · exact hw
    · exact ih h
  | sequence w items vs hw ihitems ih =>
    rw [leavesAll_cons_sequence hw, List.mem_append]
    exact fun h => h.elim ihitems ih

/-! ### What is written -/

theorem isWritable_int_iff {n : Int} : (int n).isWritable = true ↔ n.natAbs < 10 ^ digitLimit := by
  rw [isWritable, Number.isWritable, decide_eq_true_iff, decimalDigits]
  exact Nat.length_toDigits_le_iff (by decide) (by decide)

theorem isWritableAll_eq_all (vs : List Value) : isWritableAll vs = vs.all isWritable := by
  induction vs with
  | nil => rw [isWritableAll, List.all_nil]
  | cons v vs ih => rw [isWritableAll, List.all_cons, ih]

theorem isWritable_of_items? (h : v.items? = some items) : v.isWritable = items.all isWritable := by
  cases v with
  | list =>
    obtain rfl := Option.some.inj h
    rw [isWritable, isWritableAll_eq_all]
  | bytes bs =>
    obtain rfl := Option.some.inj h
    rw [isWritable, List.all_map, eq_comm, List.all_eq_true]
    intro b _
    have hb : b.toNat < 10 ^ 3 := Nat.lt_trans b.toNat_lt (by decide)
    have hlimit : 10 ^ 3 ≤ 10 ^ digitLimit := Nat.pow_le_pow_right (by decide) (by decide)
    exact isWritable_int_iff.2 (Nat.lt_of_lt_of_le hb hlimit)
  | _ => cases h

theorem all_isWritable_leavesAll (vs : List Value) :
    (leavesAll vs).all isWritable = vs.all isWritable := by
  induction vs using induct_items with
  | nil => rw [leavesAll_nil]
  | leaf v vs hv ih => rw [leavesAll_cons_leaf hv, List.all_cons, List.all_cons, ih]
  | sequence v items vs hv ihitems ih =>
    rw [leavesAll_cons_sequence hv, List.all_append, List.all_cons, ihitems, ih,
      isWritable_of_items? hv]

theorem written_eq (v : Value) :
    v.written = if v.isWritable then .ok v.asText else .error .tooManyDigits := by
  rw [written]
  by_cases hv : v.isWritable = true
  · rw [if_pos hv, classify_of_isWritable hv]
    exact Resolved.written_of_isWritable (isWritable_resolve hv)
  rw [if_neg hv]
  cases v with
  | int n =>
    -- a whole number has its kind all the same
    rw [isWritable] at hv
    exact if_neg hv
  | null | bool | float | text | bytes | list | table =>
    rw [classify, if_neg hv]
    · rfl
    · rintro n ⟨⟩

theorem mapM_written (vs : List Value) :
    vs.mapM written =
      if vs.all isWritable then .ok (vs.map asText) else .error .tooManyDigits := by
  induction vs with
  | nil => rfl
  | cons v vs ih =>
    rw [List.mapM_cons, ih, written_eq, List.all_cons, List.map_cons]
    cases v.isWritable with
    | false => rfl
    | true => cases vs.all isWritable <;> rfl

/-! ### The text of a sequence -/

theorem resolveItems_eq_map (vs : List Value) : resolveItems vs = vs.map asText := by
  induction vs with
  | nil => rw [resolveItems, List.map_nil]
  | cons v vs ih => rw [resolveItems, List.map_cons, ih, asText]

/-- A sequence is a text of the texts of its items. -/
theorem resolve_of_items? (h : v.items? = some items) :
    v.resolve = .text (joinWords (items.map asText)) := by
  cases v with
  | list =>
    obtain rfl := Option.some.inj h
    rw [resolve, resolveItems_eq_map]
  | bytes bs =>
    obtain rfl := Option.some.inj h
    rw [resolve, List.map_map]
    rfl
  | _ => cases h

theorem asText_of_items? (h : v.items? = some items) : v.asText = joinWords (items.map asText) := by
  rw [asText, resolve_of_items? h]
  rfl

theorem asText_int_ne_empty (n : Int) : (int n).asText ≠ "" := by
  rw [asText, resolve]
  change toString n ≠ ""
  rw [ne_eq, ← String.toList_inj]
  cases n with
  | ofNat n =>
    rw [Int.ofNat_eq_natCast, toList_toString_of_nonneg]
    exact decimalDigits_ne_nil n
  | negSucc n =>
    rw [toList_toString_of_neg]
    exact List.cons_ne_nil _ _

/-- What has the empty text can be written. -/
theorem isWritable_of_asText (h : v.asText = "") : v.isWritable = true := by
  have hall : ∀ vs : List Value, (∀ w ∈ vs, w.asText = "") → vs.all isWritable = true := by
    intro vs
    induction vs using induct_items with
    | nil => exact fun _ => rfl
    | leaf w vs hw ih =>
      intro hempty
      rw [List.forall_mem_cons] at hempty
      rw [List.all_cons, ih hempty.2, Bool.and_true]
      cases w with
      | int n => exact absurd hempty.1 (asText_int_ne_empty n)
      | table entries =>
        rw [asText, resolve] at hempty
        simp [Resolved.asText, inner, openTable] at hempty
      | list | bytes => cases hw
      | null | bool | float | text => rw [isWritable]
    | sequence w items vs hw ihitems ih =>
      intro hempty
      rw [List.forall_mem_cons, asText_of_items? hw, joinWords_eq_empty_iff, List.forall_mem_map]
        at hempty
      rw [List.all_cons, isWritable_of_items? hw, ihitems hempty.1, ih hempty.2, Bool.and_true]
  simpa using hall [v] (by simpa using h)

theorem takesPlace_iff : v.takesPlace = true ↔ v.asText ≠ "" := by
  rw [takesPlace, written_eq]
  by_cases hv : v.isWritable = true
  · rw [if_pos hv]
    exact decide_eq_true_iff
  · rw [if_neg hv]
    exact iff_of_true rfl fun h => hv (isWritable_of_asText h)

theorem takesPlace_eq_false_iff : v.takesPlace = false ↔ v.written = .ok "" := by
  rw [takesPlace]
  cases v.written <;> simp

theorem asText_of_written (h : v.written = .ok "") : v.asText = "" := by
  rw [← takesPlace_eq_false_iff, ← Bool.not_eq_true, takesPlace_iff] at h
  exact Decidable.not_not.1 h

theorem written_of_asText (h : v.asText = "") : v.written = .ok "" := by
  rw [written_eq, if_pos (isWritable_of_asText h), h]

/-- The items may be taken apart into their leaves. -/
theorem joinWords_leavesAll (vs : List Value) :
    joinWords (vs.map asText) = joinWords ((leavesAll vs).map asText) := by
  induction vs using induct_items with
  | nil => rw [leavesAll_nil]
  | leaf v vs hv ih =>
    rw [leavesAll_cons_leaf hv, List.map_cons, List.map_cons, joinWords_cons, joinWords_cons, ih]
  | sequence v items vs hv ihitems ih =>
    rw [leavesAll_cons_sequence hv, List.map_append, joinWords_append, List.map_cons,
      joinWords_cons, asText_of_items? hv, ihitems, ih]

theorem joinWords_eq_textLeaves (vs : List Value) :
    joinWords (vs.map asText) = " ".intercalate ((textLeaves vs).map asText) := by
  have hfilter : (leavesAll vs).filter ((fun s => s ≠ "") ∘ asText) = textLeaves vs :=
    List.filter_congr fun l _ => by rw [Bool.eq_iff_iff, takesPlace_iff]; exact decide_eq_true_iff
  rw [joinWords_leavesAll, joinWords, List.filter_map, hfilter]

theorem all_isWritable_textLeaves (vs : List Value) :
    (textLeaves vs).all isWritable = vs.all isWritable := by
  rw [textLeaves, List.all_filter, ← all_isWritable_leavesAll]
  congr 1
  ext l
  cases hl : l.takesPlace with
  | true => rfl
  | false =>
    exact (isWritable_of_asText (asText_of_written (takesPlace_eq_false_iff.1 hl))).symm

/-- A sequence has the text of its leaves, or one of them is not written. -/
theorem classify_of_items? (h : v.items? = some items) :
    v.classify = (fun texts => .text (" ".intercalate texts)) <$> (textLeaves items).mapM written := by
  have hclassify : v.classify = if v.isWritable then .ok v.resolve else .error .tooManyDigits := by
    cases v with
    | list | bytes => rfl
    | _ => cases h
  rw [hclassify, mapM_written, all_isWritable_textLeaves, isWritable_of_items? h,
    resolve_of_items? h, joinWords_eq_textLeaves]
  cases items.all isWritable <;> rfl

/-- What has the empty text has no leaf that takes a place. -/
theorem textLeaves_of_written (h : v.written = .ok "") : textLeaves [v] = [] := by
  have hjoin : joinWords ((leavesAll [v]).map asText) = "" := by
    rw [← joinWords_leavesAll, List.map_singleton, joinWords_cons, asText_of_written h]
    rfl
  rw [joinWords_eq_empty_iff, List.forall_mem_map] at hjoin
  rw [textLeaves, List.filter_eq_nil_iff]
  exact fun l hl => fun hplace => takesPlace_iff.1 hplace (hjoin l hl)

/-! ### Regrouping -/

/-- Nothing at all, numbers without a finite value, the empty text and empty sequences. -/
inductive IsVoid : Value → Prop
  | null : IsVoid .null
  | infinity (negative : Bool) : IsVoid (.float (.infinity negative))
  | nan (negative : Bool) : IsVoid (.float (.nan negative))
  | text : IsVoid (.text "")
  | sequence {v : Value} (h : v.items? = some []) : IsVoid v

theorem IsVoid.written_eq (h : v.IsVoid) : v.written = .ok "" := by
  refine written_of_asText ?_
  cases h with
  | null | infinity | nan | text => rfl
  | sequence h => rw [asText_of_items? h]; rfl

/-- One step from a list of values to another one: the items of a sequence take its place, or
something with the empty text is left out. -/
inductive Regroups : List Value → List Value → Prop
  | ungroup (front : List Value) {v : Value} {items : List Value} (rest : List Value)
      (h : v.items? = some items) : Regroups (front ++ v :: rest) (front ++ items ++ rest)
  | leaveOut (front : List Value) {v : Value} (rest : List Value) (h : v.written = .ok "") :
      Regroups (front ++ v :: rest) (front ++ rest)

/-- Steps forth and back lead from the one list to the other. -/
def Regrouped : List Value → List Value → Prop := Relation.EqvGen Regroups

namespace Regrouped

theorem step (h : Regroups xs ys) : Regrouped xs ys := Relation.EqvGen.rel _ _ h

theorem symm (h : Regrouped xs ys) : Regrouped ys xs := Relation.EqvGen.symm _ _ h

theorem trans (h : Regrouped xs ys) (h' : Regrouped ys zs) : Regrouped xs zs :=
  Relation.EqvGen.trans _ _ _ h h'

end Regrouped

theorem textLeaves_append (xs ys : List Value) :
    textLeaves (xs ++ ys) = textLeaves xs ++ textLeaves ys := by
  rw [textLeaves, leavesAll_append, List.filter_append, textLeaves, textLeaves]

theorem Regroups.textLeaves_eq (h : Regroups xs ys) : textLeaves xs = textLeaves ys := by
  cases h with
  | @ungroup front v items rest h =>
    have hitems : textLeaves [v] = textLeaves items := by
      rw [textLeaves, leavesAll_cons_sequence h, leavesAll_nil, List.append_nil, textLeaves]
    rw [List.append_cons, textLeaves_append, textLeaves_append, textLeaves_append,
      textLeaves_append, hitems]
  | @leaveOut front v rest h =>
    rw [List.append_cons, textLeaves_append, textLeaves_append, textLeaves_append,
      textLeaves_of_written h, List.append_nil]

/-- Inside any list, values can be regrouped into their leaves that take a place. -/
theorem regrouped_textLeaves (vs front rest : List Value) :
    Regrouped (front ++ vs ++ rest) (front ++ textLeaves vs ++ rest) := by
  induction vs using induct_items generalizing front rest with
  | nil => exact Relation.EqvGen.refl _
  | leaf v vs hv ih =>
    rw [textLeaves, leavesAll_cons_leaf hv]
    cases hplace : v.takesPlace with
    | false =>
      have hout : Regrouped (front ++ v :: vs ++ rest) (front ++ vs ++ rest) := by
        simpa using Regrouped.step (.leaveOut front (vs ++ rest) (takesPlace_eq_false_iff.1 hplace))
      rw [List.filter_cons_of_neg (by simp [hplace])]
      exact hout.trans (ih front rest)
    | true =>
      rw [List.filter_cons_of_pos hplace]
      simpa [textLeaves] using ih (front ++ [v]) rest
  | sequence v items vs hv ihitems ih =>
    have hungroup : Regrouped (front ++ v :: vs ++ rest) (front ++ items ++ (vs ++ rest)) := by
      simpa using Regrouped.step (.ungroup front (vs ++ rest) hv)
    have hvs : Regrouped (front ++ textLeaves items ++ (vs ++ rest))
        (front ++ (textLeaves items ++ textLeaves vs) ++ rest) := by
      simpa using ih (front ++ textLeaves items) rest
    have hleaves : textLeaves (v :: vs) = textLeaves items ++ textLeaves vs := by
      rw [textLeaves, leavesAll_cons_sequence hv, List.filter_append, textLeaves, textLeaves]
    rw [hleaves]
    exact hungroup.trans ((ihitems front (vs ++ rest)).trans hvs)

theorem regrouped_iff : Regrouped xs ys ↔ textLeaves xs = textLeaves ys := by
  constructor
  · intro h
    induction h with
    | rel xs ys h => exact h.textLeaves_eq
    | refl xs => rfl
    | symm xs ys _ ih => exact ih.symm
    | trans xs ys zs _ _ ihl ihr => exact ihl.trans ihr
  · intro h
    have hxs : Regrouped xs (textLeaves xs) := by simpa using regrouped_textLeaves xs [] []
    have hys : Regrouped ys (textLeaves ys) := by simpa using regrouped_textLeaves ys [] []
    exact hxs.trans (h ▸ hys.symm)

end Value

open Value

/-- A sequence is a text: the texts of its leaves that are not empty, with single spaces between them;
exactly if every whole number among the leaves and in them can be written. To regroup the items, or to
put something with the empty text among them or leave it out, changes nothing, and this leads to just
those sequences that have the same leaves. Two sequences one after the other have their two texts side
by side. -/
theorem sequence_flattens {u v : Value} {xs ys : List Value} (hu : u.items? = some xs)
    (hv : v.items? = some ys) :
    (u.classify = (fun texts => .text (" ".intercalate texts)) <$> (textLeaves xs).mapM written ∧
      (∀ l ∈ textLeaves xs, l.items? = none ∧ l.written ≠ .ok "") ∧
      ((∃ text, u.classify = .ok (.text text)) ↔ ∀ l ∈ leavesAll xs, l.isWritable = true)) ∧
    (Regrouped xs ys ↔ textLeaves xs = textLeaves ys) ∧
    (Regrouped xs ys → u.classify = v.classify) ∧
    (∀ w : Value, w.IsVoid → w.written = .ok "") ∧
    ∀ w : Value, w.items? = some (xs ++ ys) → w.written = beside <$> u.written <*> v.written := by
  refine ⟨⟨classify_of_items? hu, fun l hl => ?_, ?_⟩, regrouped_iff, fun h => ?_,
    fun w hw => hw.written_eq, fun w hw => ?_⟩
  · obtain ⟨hleaf, hplace⟩ := List.mem_filter.1 hl
    refine ⟨items?_of_mem_leavesAll hleaf, fun hempty => ?_⟩
    rw [takesPlace_eq_false_iff.2 hempty] at hplace
    cases hplace
  · rw [classify_of_items? hu, mapM_written, all_isWritable_textLeaves, ← List.all_eq_true,
      all_isWritable_leavesAll]
    cases xs.all isWritable with
    | true => exact iff_of_true ⟨_, rfl⟩ rfl
    | false => exact iff_of_false (fun ⟨_, h⟩ => by cases h) Bool.false_ne_true
  · rw [classify_of_items? hu, classify_of_items? hv, regrouped_iff.1 h]
  · rw [written_eq, written_eq, written_eq, isWritable_of_items? hw, isWritable_of_items? hu,
      isWritable_of_items? hv, List.all_append, asText_of_items? hw, asText_of_items? hu,
      asText_of_items? hv, List.map_append, joinWords_append]
    cases xs.all isWritable with
    | false => rfl
    | true => cases ys.all isWritable <;> rfl

/-- Bytes and lists in lists, and on the other side their items with nothing between them. -/
theorem sequence_flattens_regrouped :
    let table : Value := .table [("k", .null)]
    let xs : List Value :=
      [.bytes [65, 0], .list [.null, .list [.text "a b"], .float (.nan false)], table, .bool true]
    let ys : List Value := [.int 65, .list [], .list [.int 0, .text ""], .text "a b", table, .bool true]
    Regrouped xs ys ∧ classify (.list xs) = classify (.list ys) ∧
      classify (.list ys) = .ok (.text "65 0 a b \x7b'k': None\x7d true") ∧
      written (.list (xs ++ [.int 7])) = .ok "65 0 a b \x7b'k': None\x7d true 7" := by
  intro table xs ys
  have hleaves : textLeaves xs = textLeaves ys := by rfl
  obtain ⟨-, hiff, hsame, -, -⟩ := sequence_flattens (u := .list xs) (v := .list ys) rfl rfl
  obtain ⟨⟨htext, -⟩, -⟩ := sequence_flattens (u := .list ys) (v := .list ys) rfl rfl
  obtain ⟨-, -, -, -, happend⟩ := sequence_flattens (u := .list xs) (v := .list [.int 7]) rfl rfl
  refine ⟨hiff.2 hleaves, hsame (hiff.2 hleaves), htext.trans (by rfl),
    (happend _ rfl).trans (by rfl)⟩

/-- A whole number of too many digits is not written, and neither is what it stands in. -/
theorem exists_sequence_not_text :
    ¬ ∀ (v : Value) (items : List Value), v.items? = some items → ∃ s, v.classify = .ok (.text s) := by
  intro h
  let large : Value := .int (10 ^ digitLimit : Nat)
  have hlarge : ¬ large.isWritable = true := by
    rw [isWritable_int_iff, Int.natAbs_natCast]
    exact Nat.lt_irrefl _
  obtain ⟨s, hs⟩ := h (.list [large]) [large] rfl
  have hclassify : classify (.list [large]) = .error .tooManyDigits := by
    rw [classify, isWritable, isWritableAll, if_neg (by simp [hlarge])]
    rintro n ⟨⟩
  cases hclassify.symm.trans hs

end StreamLabel

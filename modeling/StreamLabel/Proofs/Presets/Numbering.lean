import StreamLabel.Presets
import StreamLabel.Proofs.Render.Clean
import StreamLabel.Proofs.Render.Comparison

/-!
# Season and episode numbers

The snippets for the season and the episode are one snippet with two letters (`Presets.numberNodes`):
three comparisons of the same value decide on the letter, on a zero in front and on the number itself.
A value without a numeric view fails all three, and one with a numeric view shows the parts that its
exact value asks for (`Presets.shown_of_number`). For whole numbers these parts come to the letter and
two digits, but only the comparison of the zero has no bound below, so a negative number leaves a lone
zero behind (`exists_season_not_numbered`).
-/

namespace StreamLabel

namespace Presets

/-- The nodes of the snippet that shows `ref` behind `letter`, as read from the position `pos` on. -/
def numberNodes (pos : Nat) (letter : String) (ref : Reference) : List Node :=
  let size := ref.text.length
  [.choice ⟨pos, letter, ""⟩ ref (.compare .ge "0") [.literal letter] [],
    .choice ⟨pos + (16 + size), "0", ""⟩ ref (.compare .le "9") [.literal "0"] [],
    .choice ⟨pos + 2 * (16 + size), "\x7b" ++ ref.text ++ "\x7d", ""⟩ ref (.compare .gt "0")
      [.value ⟨pos + 2 * (16 + size) + (7 + size), "", ""⟩ ref] []]

/-- The parts of a number that the three comparisons let through. -/
def shown (letter : String) (v : Resolved) : String :=
  (if v.satisfies .ge "0" then letter else "") ++
    ((if v.satisfies .le "9" then "0" else "") ++ (if v.satisfies .gt "0" then v.asText else ""))

/-- What is to be seen of a value: a whole number in two digits behind its letter, zero in one digit,
and nothing of what is negative or no number. -/
def numbered (letter : String) : Resolved → String
  | .number (.int (.ofNat n)) =>
    letter ++ if n = 0 then "0" else (toString n).leftpad 2 '0'
  | _ => ""

def seasonRef : Reference := ⟨.stream, "season"⟩

def episodeRef : Reference := ⟨.stream, "episode"⟩

end Presets

/-! ### Reading -/

theorem parse_ok_of_one {s : String} {limit : Int} {t : Template} (hlimit : 1 ≤ limit)
    (h : Template.parse s 1 = .ok t) : Template.parse s limit = .ok t := by
  obtain ⟨n, rfl⟩ : ∃ n : Nat, limit = n := ⟨limit.toNat, by omega⟩
  have hle : (1 : Int).toNat ≤ n := by omega
  exact parse_ok_of_le hle h

namespace Presets

theorem parse_season : Template.parse season 1 = .ok ⟨numberNodes 0 "S" seasonRef, season⟩ := by
  cbv

theorem parse_episode : Template.parse episode 1 = .ok ⟨numberNodes 0 "E" episodeRef, episode⟩ := by
  cbv

theorem parse_season_episode :
    Template.parse (season ++ episode) 1 =
      .ok ⟨numberNodes 0 "S" seasonRef ++ numberNodes 100 "E" episodeRef, season ++ episode⟩ := by
  cbv

end Presets

/-! ### Rendering -/

namespace Renderer
variable {r : Renderer} {c : Context} {depth : Nat} {o : Origin} {ref : Reference}

/-- Within the limit a comparison with a value that can be written leaves one of its branches to be
rendered. -/
theorem renderNode_compare (h : ¬ r.limit ≤ depth) (hc : c.isWritableAt ref = true) (op : CompareOp)
    (operand : String) (yes no : List Node) :
    r.renderNode c depth (.choice o ref (.compare op operand) yes no) =
      if (c.resolve ref).satisfies op operand then r.renderNodes c (depth + 1) yes
      else r.renderNodes c (depth + 1) no := by
  rw [renderNode, Context.classify_of_isWritableAt hc, RenderM.ofWritten, pure_bind]
  simp only [decides]
  rw [Resolved.compare_of_isWritable (Context.isWritable_resolve hc), RenderM.ofWritten, pure_bind,
    if_neg h]

/-- A comparison that shows a part of a text or nothing. -/
theorem renderNode_part (h : ¬ r.limit ≤ depth) (hc : c.isWritableAt ref = true) (op : CompareOp)
    (operand : String) {part : Node} {text : String}
    (hpart : r.renderNode c (depth + 1) part = pure text) :
    r.renderNode c depth (.choice o ref (.compare op operand) [part] []) =
      pure (if (c.resolve ref).satisfies op operand then text else "") := by
  rw [renderNode_compare h hc, renderNodes_singleton, hpart, renderNodes]
  split <;> rfl

theorem renderNode_value (hc : c.isWritableAt ref = true) :
    r.renderNode c depth (.value o ref) = pure (c.resolve ref).asText := by
  rw [renderNode, Context.classify_of_isWritableAt hc, RenderM.ofWritten, pure_bind,
    Resolved.written_of_isWritable (Context.isWritable_resolve hc), RenderM.ofWritten]

theorem renderNodes_numberNodes (h : ¬ r.limit ≤ depth) (hc : c.isWritableAt ref = true) (pos : Nat)
    (letter : String) :
    r.renderNodes c depth (Presets.numberNodes pos letter ref) =
      pure (Presets.shown letter (c.resolve ref)) := by
  have hliteral : ∀ s, r.renderNode c (depth + 1) (.literal s) = pure s := fun s => by
    rw [renderNode]
  simp only [Presets.numberNodes, renderNodes, renderNode_part h hc _ _ (hliteral _),
    renderNode_part h hc _ _ (renderNode_value hc), pure_bind, String.append_empty, Presets.shown]

end Renderer

/-! ### What is shown -/

namespace Resolved

/-- A whole number, or a value without a numeric view. -/
def Countable (v : Resolved) : Prop := v.asNumber? = none ∨ ∃ n : Int, v = .number (.int n)

def IsNegative (v : Resolved) : Prop := ∃ n : Int, n < 0 ∧ v = .number (.int n)

end Resolved

namespace Presets
variable {letter : String} {v : Resolved}

theorem read_zero : Number.read? "0" = some (.int 0) := by decide +kernel

theorem read_nine : Number.read? "9" = some (.int 9) := by decide +kernel

/-- The letter stands in front of what is not negative, the zero in front of what is not above nine, and
the number is shown if it is positive. -/
theorem shown_of_number {m : Number} (h : v.asNumber? = some m) :
    shown letter v = (if 0 ≤ m.toRat then letter else "") ++
      ((if m.toRat ≤ 9 then "0" else "") ++ (if 0 < m.toRat then v.asText else "")) := by
  have hcompared (op : CompareOp) {o : String} {n : Number} (hn : Number.read? o = some n) :
      v.satisfies op o = true ↔ op.Rel m.toRat n.toRat := by
    rw [← Resolved.meets_iff (.inl (by rw [hn]; rfl)), Resolved.meets_iff_of_numbers h hn]
  have hge := hcompared .ge read_zero
  have hle := hcompared .le read_nine
  have hgt := hcompared .gt read_zero
  have hzero : (Number.int 0).toRat = 0 := Int.cast_zero
  have hnine : (Number.int 9).toRat = 9 := Int.cast_ofNat 9
  simp only [CompareOp.Rel, hzero, hnine] at hge hle hgt
  simp only [shown, hge, hle, hgt]

theorem shown_of_no_number (h : v.asNumber? = none) : shown letter v = "" := by
  have hfails : ∀ {op o n}, Number.read? o = some n → v.satisfies op o = false := by
    intro op o n ho
    rw [Resolved.satisfies_eq, ho, h]
    simp
  simp only [shown, hfails read_zero, hfails read_nine, Bool.false_eq_true, ↓reduceIte,
    String.append_empty]

/-- One digit is filled up to two, and more digits are left as they are. -/
theorem leftpad_two (n : Nat) :
    (toString n).leftpad 2 '0' = (if n ≤ 9 then "0" else "") ++ toString n := by
  have hlength : (toString n).toList.length = (Nat.toDigits 10 n).length :=
    congrArg List.length Nat.toList_repr
  have hpos : 0 < (Nat.toDigits 10 n).length := Nat.length_toDigits_pos
  have hone : (Nat.toDigits 10 n).length ≤ 1 ↔ n < 10 ^ 1 :=
    Nat.length_toDigits_le_iff (by decide) (by decide)
  rw [← String.toList_inj, String.leftpad, String.toList_ofList, List.leftpad, hlength,
    String.toList_append]
  split
  · have hsize : 2 - (Nat.toDigits 10 n).length = 1 := by omega
    rw [hsize]
    rfl
  · have hsize : 2 - (Nat.toDigits 10 n).length = 0 := by omega
    rw [hsize]
    rfl

theorem shown_of_nonneg (n : Nat) :
    shown letter (.number (.int n)) = numbered letter (.number (.int n)) := by
  have hnonneg : (0 : ℚ) ≤ (Number.int n).toRat := Int.cast_nonneg (Int.natCast_nonneg n)
  have hnine : (Number.int n).toRat ≤ 9 ↔ n ≤ 9 := by
    simp only [Number.toRat]
    norm_cast
  have hpos : 0 < (Number.int n).toRat ↔ n ≠ 0 := by
    simp only [Number.toRat]
    norm_cast
    exact Nat.pos_iff_ne_zero
  have htext : (Resolved.number (.int n)).asText = toString n := rfl
  rw [shown_of_number rfl, if_pos hnonneg, htext]
  simp only [numbered, hnine, hpos]
  by_cases hn : n = 0
  · subst hn
    rfl
  · rw [if_pos hn, if_neg hn, leftpad_two]

theorem shown_of_negative (h : v.IsNegative) : shown letter v = "0" := by
  obtain ⟨n, hn, rfl⟩ := h
  have hneg : (Number.int n).toRat < 0 := Int.cast_lt_zero.2 hn
  have hnine : (Number.int n).toRat ≤ 9 := hneg.le.trans (by norm_num)
  rw [shown_of_number rfl, if_neg hneg.not_ge, if_pos hnine, if_neg hneg.not_gt]
  rfl

theorem numbered_of_negative (h : v.IsNegative) : numbered letter v = "" := by
  obtain ⟨n, hn, rfl⟩ := h
  cases n with
  | ofNat n => exact absurd hn (not_lt.2 (Int.natCast_nonneg n))
  | negSucc n => rfl

theorem shown_of_countable (h : v.Countable) (hneg : ¬ v.IsNegative) :
    shown letter v = numbered letter v := by
  rcases h with h | ⟨n, rfl⟩
  · rw [shown_of_no_number h]
    cases v with
    | number m => simp [Resolved.asNumber?] at h
    | absent | bool b | text s => rfl
  · obtain ⟨k, rfl⟩ : ∃ k : Nat, n = k :=
      Int.eq_ofNat_of_zero_le (not_lt.1 fun hn => hneg ⟨n, hn, rfl⟩)
    exact shown_of_nonneg k

/-- What is seen of a number begins with its letter. -/
theorem numbered_eq_empty_or_prefix (letter : String) (v : Resolved) :
    numbered letter v = "" ∨ letter.toList <+: (numbered letter v).toList := by
  unfold numbered
  split
  · right
    rw [String.toList_append]
    exact List.prefix_append ..
  · exact .inl rfl

end Presets

/-- The text `x` shows the value `v` behind `letter`: as a number is to be seen, exactly unless it is
negative. -/
structure Numbers (letter : String) (v : Resolved) (x : String) : Prop where
  eq_numbered_iff : v.Countable → (x = Presets.numbered letter v ↔ ¬ v.IsNegative)
  eq_zero : v.IsNegative → x = "0"
  empty_or_prefix : v.Countable → ¬ v.IsNegative → x = "" ∨ letter.toList <+: x.toList
  /-- Of fractions and of numbers in texts, too, the exact value decides what is shown. -/
  of_number : ∀ m, v.asNumber? = some m →
    x = (if 0 ≤ m.toRat then letter else "") ++
      ((if m.toRat ≤ 9 then "0" else "") ++ (if 0 < m.toRat then v.asText else ""))

theorem Presets.numbers_shown (letter : String) (v : Resolved) :
    Numbers letter v (shown letter v) where
  eq_numbered_iff h := by
    refine ⟨fun heq hneg => ?_, shown_of_countable h⟩
    rw [shown_of_negative hneg, numbered_of_negative hneg] at heq
    exact absurd heq (by decide)
  eq_zero := shown_of_negative
  empty_or_prefix h hneg := by
    rw [shown_of_countable h hneg]
    exact numbered_eq_empty_or_prefix letter v
  of_number _ := shown_of_number

/-- Under every limit that allows a branch the snippets parse and are rendered without a diagnostic, one
after the other where they are pasted together. Each shows its value, if the numbers in it can be
written, as the number that is to be seen, exactly unless that is negative, and then a zero. -/
theorem season_and_episode_numbered {limit : Int} {r : Renderer} (hlimit : 1 ≤ limit)
    (hr : 1 ≤ r.limit) :
    ∃ s e both : Template, Template.parse Presets.season limit = .ok s ∧
      Template.parse Presets.episode limit = .ok e ∧
      Template.parse (Presets.season ++ Presets.episode) limit = .ok both ∧
      ∀ c : Context, ∃ x y : String,
        Numbers "S" (c.resolve ⟨.stream, "season"⟩) x ∧
        Numbers "E" (c.resolve ⟨.stream, "episode"⟩) y ∧
        (c.isWritableAt ⟨.stream, "season"⟩ = true → Yields (r.render s c) ⟨.ok x, []⟩) ∧
        (c.isWritableAt ⟨.stream, "episode"⟩ = true → Yields (r.render e c) ⟨.ok y, []⟩) ∧
        (c.isWritableAt ⟨.stream, "season"⟩ = true → c.isWritableAt ⟨.stream, "episode"⟩ = true →
          Yields (r.render both c) ⟨.ok (x ++ y), []⟩) := by
  have hdepth : ¬ r.limit ≤ (0 : Nat) := by omega
  refine ⟨_, _, _, parse_ok_of_one hlimit Presets.parse_season,
    parse_ok_of_one hlimit Presets.parse_episode,
    parse_ok_of_one hlimit Presets.parse_season_episode, fun c => ?_⟩
  refine ⟨_, _, Presets.numbers_shown "S" _, Presets.numbers_shown "E" _, fun hs => ?_, fun he => ?_,
    fun hs he => ?_⟩
  · rw [Renderer.render, Presets.seasonRef, Renderer.renderNodes_numberNodes hdepth hs]
    exact .pure _
  · rw [Renderer.render, Presets.episodeRef, Renderer.renderNodes_numberNodes hdepth he]
    exact .pure _
  · rw [Renderer.render, Renderer.renderNodes_append, Presets.seasonRef, Presets.episodeRef,
      Renderer.renderNodes_numberNodes hdepth hs, Renderer.renderNodes_numberNodes hdepth he,
      pure_bind, pure_bind]
    exact .pure _

/-- A season of one digit, which gets its zero, and an episode that is no number. -/
theorem season_and_episode_numbered_special :
    let r : Renderer := ⟨Registry.builtIn, 1⟩
    let c : Context := { stream := [("season", .int 7), ("episode", .text "Special")] }
    (1 : Int) ≤ 1 ∧ 1 ≤ r.limit ∧ ∃ both,
      Template.parse (Presets.season ++ Presets.episode) 1 = .ok both ∧
        Yields (r.render both c) ⟨.ok "S07", []⟩ := by
  intro r c
  have hr : 1 ≤ r.limit := le_rfl
  obtain ⟨s, e, both, -, -, hboth, hrender⟩ := season_and_episode_numbered le_rfl hr
  obtain ⟨x, y, hx, hy, -, -, hshown⟩ := hrender c
  have hseason : c.resolve ⟨.stream, "season"⟩ = .number (.int 7) := by rfl
  have hepisode : c.resolve ⟨.stream, "episode"⟩ = .text "Special" := by rfl
  have hword : (Resolved.text "Special").asNumber? = none := by decide +kernel
  rw [hseason] at hx
  rw [hepisode] at hy
  obtain rfl : x = "S07" := by
    refine (hx.eq_numbered_iff (.inr ⟨7, rfl⟩)).2 ?_
    rintro ⟨n, hn, heq⟩
    obtain rfl : 7 = n := by simpa using heq
    exact absurd hn (by decide)
  obtain rfl : y = "" := (hy.eq_numbered_iff (.inl hword)).2 fun ⟨n, _, h⟩ => by simp at h
  exact ⟨le_rfl, hr, both, hboth, hshown (by rfl) (by rfl)⟩

/-- The zero in front is held back above nine only, so it stays where a negative number shows nothing
else. -/
theorem exists_season_not_numbered :
    ¬ ∀ (t : Template) (r : Renderer) (c : Context) (x : String),
      Template.parse Presets.season Template.defaultLimit = .ok t → 1 ≤ r.limit →
      (c.resolve ⟨.stream, "season"⟩).Countable → Yields (r.render t c) ⟨.ok x, []⟩ →
        x = Presets.numbered "S" (c.resolve ⟨.stream, "season"⟩) := by
  intro h
  let c : Context := { stream := [("season", .int (-1))] }
  have hseason : c.resolve ⟨.stream, "season"⟩ = .number (.int (-1)) := by rfl
  have hnegative : (c.resolve Presets.seasonRef).IsNegative := ⟨-1, by decide, hseason⟩
  let r : Renderer := ⟨Registry.builtIn, Template.defaultLimit⟩
  have hrender : Yields (r.renderNodes c 0 (Presets.numberNodes 0 "S" Presets.seasonRef))
      ⟨.ok "0", []⟩ := by
    rw [Renderer.renderNodes_numberNodes (by decide) (by rfl), Presets.shown_of_negative hnegative]
    exact .pure _
  have heq := h _ r c "0" (parse_ok_of_one (by decide) Presets.parse_season) (by decide)
    (.inr ⟨-1, hseason⟩) hrender
  exact absurd heq (by rw [hseason]; decide)

end StreamLabel

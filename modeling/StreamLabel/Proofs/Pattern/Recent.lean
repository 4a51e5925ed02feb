import StreamLabel.Proofs.Render.Append
import Mathlib.Data.List.Dedup
import Mathlib.Data.List.DropRight

/-!
# The store of patterns shows only in its work saved

A store of patterns answers as if every text were read anew, whatever was asked of it before. What it
holds are the texts asked for last, as many different ones as it may keep, in the order in which they
were last asked for (`mostRecent`); texts that are refused are never held. So renderings that share a
store show what each of them shows with a store of its own (`serve_eq_alone`).
-/

namespace StreamLabel

/-! ### Runs -/

section Runs

variable {C A S : Type} {f : C → StateM S A}

/-- Where no answer depends on the state, a run gives each its own. -/
theorem run_mapM_fst {g : C → A} (h : ∀ c s, ((f c).run s).1 = g c) (cs : List C) (s : S) :
    ((cs.mapM f).run s).1 = cs.map g := by
  induction cs generalizing s with
  | nil => rfl
  | cons c cs ih =>
    rw [List.mapM_cons, List.map_cons, ← h c s, ← ih ((f c).run s).2]
    rfl

theorem run_mapM_concat (cs : List C) (c : C) (s : S) :
    (((cs ++ [c]).mapM f).run s).2 = ((f c).run ((cs.mapM f).run s).2).2 := by
  rw [List.mapM_append]
  rfl

end Runs

/-! ### Different items in the order of their last use -/

section LastUse

variable {α : Type} [DecidableEq α]

theorem dedup_concat (as : List α) (a : α) : (as ++ [a]).dedup = as.dedup.filter (· ≠ a) ++ [a] := by
  induction as with
  | nil => rfl
  | cons b as ih =>
    rw [List.cons_append, List.dedup_cons, List.dedup_cons, ih]
    grind

theorem take_filter_of_mem {as : List α} (h : as.Nodup) {a : α} {n : Nat}
    (ha : a ∈ as.take (n + 1)) :
    (as.filter (· ≠ a)).take n = (as.take (n + 1)).filter (· ≠ a) := by
  induction as generalizing n with
  | nil => simp
  | cons b as ih =>
    obtain ⟨hb, h⟩ := List.nodup_cons.1 h
    by_cases hba : b = a
    · subst hba
      have hrest : as.filter (· ≠ b) = as :=
        List.filter_eq_self.2 fun c hc => by simpa using ne_of_mem_of_not_mem hc hb
      have htake : (as.take n).filter (· ≠ b) = as.take n :=
        List.filter_eq_self.2 fun c hc => by
          simpa using ne_of_mem_of_not_mem (List.mem_of_mem_take hc) hb
      rw [List.take_succ_cons, List.filter_cons_of_neg (by simp), List.filter_cons_of_neg (by simp),
        hrest, htake]
    · rw [List.take_succ_cons, List.mem_cons] at ha
      have ha := ha.resolve_left (Ne.symm hba)
      cases n with
      | zero => simp at ha
      | succ n =>
        rw [List.take_succ_cons, List.filter_cons_of_pos (by simpa using hba),
          List.filter_cons_of_pos (by simpa using hba), List.take_succ_cons, ih h ha]

theorem take_filter_of_not_mem {as : List α} {a : α} {n : Nat} (ha : a ∉ as.take (n + 1)) :
    (as.filter (· ≠ a)).take n = as.take n := by
  induction as generalizing n with
  | nil => simp
  | cons b as ih =>
    rw [List.take_succ_cons, List.mem_cons, not_or] at ha
    cases n with
    | zero => simp
    | succ n =>
      rw [List.filter_cons_of_pos (by simpa using Ne.symm ha.1), List.take_succ_cons,
        List.take_succ_cons, ih ha.2]

/-- Of different items in the order of their last use, the last ones are kept up by themselves: one
that is used again goes to the end, and a new one makes the first go. -/
theorem rtake_filter_concat {as : List α} (h : as.Nodup) (a : α) {n : Nat} (hn : 0 < n) :
    (as.filter (· ≠ a) ++ [a]).rtake n =
      if a ∈ as.rtake n then (as.rtake n).filter (· ≠ a) ++ [a] else (as.rtake n ++ [a]).rtake n := by
  obtain ⟨n, rfl⟩ := Nat.exists_eq_succ_of_ne_zero (Nat.ne_of_gt hn)
  rw [Nat.succ_eq_add_one, List.rtake_concat_succ, List.rtake_concat_succ]
  -- the last items are the first ones of the list turned round
  simp only [List.rtake_eq_reverse_take_reverse, List.mem_reverse, ← List.filter_reverse]
  split
  · rename_i ha
    rw [take_filter_of_mem (List.nodup_reverse.2 h) ha, List.filter_reverse]
  · rename_i ha
    rw [take_filter_of_not_mem ha, List.reverse_reverse, List.take_take,
      Nat.min_eq_left (Nat.le_succ n)]

end LastUse

namespace Pattern

/-! ### Calls -/

/-- What can be asked of a store of patterns. -/
inductive Call where
  | compile (pattern : String)
  | search (pattern text : String)
  | clear

inductive Answer where
  | compiled (outcome : Except Refusal Compiled)
  /-- Whether the pattern occurs in the text, or why the pattern is malformed. -/
  | searched (outcome : Except Refusal (Except String Bool))
  | done

def Compiled.search (text : String) : Compiled → Except Refusal (Except String Bool)
  | .usable p => (p.occursIn text).map .ok
  | .malformed message => .ok (.error message)

namespace Call

/-- The answer by way of a store. -/
def serve : Call → StateM Store Answer
  | compile pattern => do
    let outcome ← modifyGet (Store.compile · pattern)
    return .compiled outcome
  | search pattern text => do
    let outcome ← modifyGet (Store.compile · pattern)
    return .searched (outcome.bind (·.search text))
  | clear => do
    modify Store.clear
    return .done

/-- The answer where nothing is remembered. -/
def alone : Call → Answer
  | compile pattern => .compiled (Pattern.compile pattern)
  | search pattern text => .searched ((Pattern.compile pattern).bind (·.search text))
  | clear => .done

/-- Adds what a call asks for to what was asked for since the store was last cleared. Patterns that are
refused are left out. -/
def note (asked : List String) : Call → List String
  | compile pattern | search pattern _ =>
    if (Pattern.compile pattern).isOk then asked ++ [pattern] else asked
  | clear => []

/-- The patterns asked for since the store was last cleared, in the order of the calls. -/
def asked (calls : List Call) : List String := calls.foldl note []

theorem asked_concat (calls : List Call) (c : Call) : asked (calls ++ [c]) = note (asked calls) c := by
  rw [asked, List.foldl_append]
  rfl

theorem serve_fst (c : Call) (s : Store) : (c.serve.run s).1 = c.alone := by
  cases c with
  | compile pattern => exact congrArg Answer.compiled (s.compile_fst pattern)
  | search pattern text =>
    exact congrArg (fun o => Answer.searched (o.bind (·.search text))) (s.compile_fst pattern)
  | clear => rfl

end Call

/-! ### What is held -/

/-- The last of the texts, as many different ones as may be kept, each at its last place. -/
def mostRecent (capacity : Int) (asked : List String) : List String :=
  if 0 < capacity then asked.dedup.rtake capacity.toNat else asked.dedup

theorem mostRecent_concat (capacity : Int) (asked : List String) (text : String) :
    mostRecent capacity (asked ++ [text]) =
      if text ∈ mostRecent capacity asked then
        (mostRecent capacity asked).filter (· ≠ text) ++ [text]
      else if 0 < capacity then (mostRecent capacity asked ++ [text]).rtake capacity.toNat
      else mostRecent capacity asked ++ [text] := by
  unfold mostRecent
  rw [dedup_concat]
  split
  · rename_i hc
    exact rtake_filter_concat asked.nodup_dedup text (by omega)
  · split
    · rfl
    · rename_i ha
      rw [List.filter_eq_self.2 fun c hc => by simpa using ne_of_mem_of_not_mem hc ha]

example : mostRecent 2 ["a", "b", "a", "c", "a"] = ["c", "a"] := by decide

namespace Store
variable {s : Store} {asked : List String} {text : String}

theorem texts_touch (s : Store) (e : Entry) :
    (s.touch e).texts = s.texts.filter (· ≠ e.text) ++ [e.text] := by
  have hkept : (fun d : Entry => d.text != e.text) = (fun t => decide (t ≠ e.text)) ∘ Entry.text := by
    funext d
    by_cases h : d.text = e.text <;> simp [h]
  rw [touch, texts, texts, List.map_append, hkept, List.filter_map]
  rfl

theorem texts_push (s : Store) (e : Entry) :
    (s.push e).texts =
      if 0 < s.capacity then (s.texts ++ [e.text]).rtake s.capacity.toNat
      else s.texts ++ [e.text] := by
  unfold push keep texts
  split <;> simp [List.rtake, List.map_drop]

/-- A text that is held is used again, a new one comes in, and one that is refused changes nothing. -/
theorem compile_cases (s : Store) (text : String) :
    (∃ e : Entry, e.text = text ∧ text ∈ s.texts ∧ (s.compile text).2 = s.touch e) ∨
      text ∉ s.texts ∧
        ((∃ e : Entry, e.text = text ∧ (s.compile text).2 = s.push e) ∨
          (Pattern.compile text).isOk = false ∧ (s.compile text).2 = s) := by
  unfold Store.compile
  split
  · rename_i e he
    have htext : e.text = text := by simpa using List.find?_some he
    exact .inl ⟨e, htext, List.mem_map.2 ⟨e, List.mem_of_find?_eq_some he, htext⟩, rfl⟩
  · rename_i hnone
    have hnew : text ∉ s.texts := by simpa [find?, texts] using hnone
    split
    · exact .inr ⟨hnew, .inl ⟨_, rfl, rfl⟩⟩
    · rename_i r herror
      exact .inr ⟨hnew, .inr ⟨by rw [herror]; rfl, rfl⟩⟩

theorem isOk_text (e : Entry) : (Pattern.compile e.text).isOk = true := by
  rw [e.isOutcome]
  rfl

/-- The store holds the texts asked for last. -/
structure Holds (capacity : Int) (asked : List String) (s : Store) : Prop where
  capacity_eq : s.capacity = capacity
  texts_eq : s.texts = mostRecent capacity asked

namespace Holds
variable {capacity : Int}

theorem empty (capacity : Int) : (Store.empty capacity).Holds capacity [] :=
  ⟨rfl, by simp [mostRecent, Store.empty, texts]⟩

theorem compile (h : s.Holds capacity asked) (text : String) :
    (s.compile text).2.Holds capacity
      (if (Pattern.compile text).isOk then asked ++ [text] else asked) := by
  have hconcat := mostRecent_concat capacity asked text
  rw [← h.texts_eq] at hconcat
  rcases s.compile_cases text with ⟨e, rfl, hmem, hs⟩ | ⟨hnew, ⟨e, rfl, hs⟩ | ⟨hrefused, hs⟩⟩
  · rw [if_pos hmem] at hconcat
    rw [hs, if_pos (isOk_text e)]
    exact ⟨h.capacity_eq, by rw [texts_touch, hconcat]⟩
  · rw [if_neg hnew] at hconcat
    rw [hs, if_pos (isOk_text e)]
    exact ⟨h.capacity_eq, by rw [texts_push, h.capacity_eq, hconcat]⟩
  · rw [hs, hrefused]
    exact h

theorem serve (h : s.Holds capacity asked) (c : Call) :
    (c.serve.run s).2.Holds capacity (c.note asked) := by
  cases c with
  | compile pattern => exact h.compile pattern
  | search pattern text => exact h.compile pattern
  | clear => exact ⟨h.capacity_eq, (empty capacity).texts_eq⟩

theorem run (capacity : Int) (calls : List Call) :
    ((calls.mapM Call.serve).run (.empty capacity)).2.Holds capacity (Call.asked calls) := by
  induction calls using List.reverseRecOn with
  | nil => exact empty capacity
  | append_singleton calls c ih =>
    rw [run_mapM_concat, Call.asked_concat]
    exact ih.serve c

end Holds

end Store

end Pattern

/-! ### Renderings -/

/-- Renders a template by way of a store, and collects what is reported. -/
def Renderer.renderShared (r : Renderer) (t : Template) (c : Context) :
    StateM Pattern.Store (Outcome String) := fun s =>
  let run := (r.render t c).run.run { patterns := s }
  (⟨run.1, run.2.diagnostics⟩, run.2.patterns)

theorem Renderer.renderShared_fst (r : Renderer) (t : Template) (c : Context) (s fresh : Pattern.Store) :
    ((r.renderShared t c).run s).1 = ((r.renderShared t c).run fresh).1 := by
  obtain ⟨o, ho⟩ := r.exists_yields c 0 t.nodes
  have hrun : ∀ s, ((r.renderShared t c).run s).1 = o := by
    intro s
    obtain ⟨patterns, h⟩ := ho.run { patterns := s }
    have hs : (r.render t c).run.run { patterns := s } = _ := h
    have houtcome : ((r.renderShared t c).run s).1 =
        ⟨((r.render t c).run.run { patterns := s }).1,
          ((r.render t c).run.run { patterns := s }).2.diagnostics⟩ := rfl
    rw [houtcome, hs, List.nil_append]
  rw [hrun, hrun]

open Pattern

/-- Whatever was asked of a store before, it answers as if every text were read anew; it holds the
texts asked for last since it was last cleared, in the order in which they were last asked for; and
renderings that share it have the outcomes that each of them has with a store of its own. -/
theorem serve_eq_alone (capacity : Int) (calls : List Call) :
    let run := (calls.mapM Call.serve).run (.empty capacity)
    run.1 = calls.map Call.alone ∧
    run.2.texts = mostRecent capacity (Call.asked calls) ∧
    ∀ (r : Renderer) (jobs : List (Template × Context)) (fresh : Pattern.Store),
      ((jobs.mapM fun job => r.renderShared job.1 job.2).run run.2).1 =
        jobs.map fun job => ((r.renderShared job.1 job.2).run fresh).1 := by
  intro run
  refine ⟨run_mapM_fst Call.serve_fst calls _, (Store.Holds.run capacity calls).texts_eq, ?_⟩
  intro r jobs fresh
  exact run_mapM_fst (fun job s => r.renderShared_fst job.1 job.2 s fresh) jobs run.2

end StreamLabel

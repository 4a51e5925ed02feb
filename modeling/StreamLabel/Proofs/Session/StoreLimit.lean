import StreamLabel.Proofs.Session.Run
import StreamLabel.Proofs.Store.Transparent

/-!
# A store of templates without a limit of its own

Such a store does not keep the nesting limit that it was made under: a text that it has no live tree
of is parsed under the limit in force by then, so the answer for a text changes with the settings once
its tree has gone (`exists_answer_changes`). Which limit an answer follows is decided by the last call
for the text that found no live tree (`LastMiss`). So the answers for a text all are those of the
limit that the store was made under exactly if, at each such call, the limit in force parses the text
in the same way and the tree can be stored (`answer_eq_parse_at_last_miss`).
-/

namespace StreamLabel

/-- What can be done in a session that a store of templates stands beside. -/
inductive StoreAct where
  /-- Anything that does not touch the store, changes of the settings and of the time included. -/
  | inSession (a : SessionAct)
  | parse (source : String)
  | invalidate (source : String)
  | clear

/-- The texts that the acts ask the store for. -/
def StoreAct.sources (acts : List StoreAct) : List String :=
  acts.filterMap fun
    | parse source => some source
    | _ => none

/-- A session, and a store of templates beside it. -/
structure StoreSession where
  session : Session
  store : TemplateStore

namespace StoreSession

/-- The session with a new store that has no limit of its own. -/
def opened (s : Session) (lifetime capacity : Int) : StoreSession :=
  ⟨s, { trees := { lifetime, capacity }, limit := none }⟩

/-- The nesting limit in force. -/
def limit (w : StoreSession) : Int := w.session.settings.nestingLimit

/-- The store has a live tree for the text. -/
def Held (w : StoreSession) (source : String) : Prop :=
  w.store.trees.contains w.session.now (TemplateStore.keyFor source) = true

instance (w : StoreSession) (source : String) : Decidable (w.Held source) :=
  inferInstanceAs (Decidable (_ = true))

/-- The answer for a text: its tree, or why it is none. -/
def answer (w : StoreSession) (source : String) : Except TemplateStore.Failure Template :=
  (w.store.getOrParse w.session.now w.limit (.ofString source)).1.map SharedTemplate.template

/-- What is to be answered for a text that has no live tree: its parse under the limit in force, if
the tree can be stored. -/
def fresh (w : StoreSession) (source : String) : Except TemplateStore.Failure Template :=
  match Template.read (.ofString source) w.limit, w.store.trees.expiryFor w.session.now none with
  | .error f, _ => .error (.template f)
  | .ok _, .error o => .error (.overflow o)
  | .ok t, .ok _ => .ok t

def afterOne (w : StoreSession) : StoreAct → StoreSession
  | .inSession a => { w with session := w.session.afterOne a }
  | .parse source =>
    { w with store := (w.store.getOrParse w.session.now w.limit (.ofString source)).2 }
  | .invalidate source =>
    match w.store.invalidate (.ofString source) with
    | .ok store => { w with store := store }
    | .error _ => w
  | .clear => { w with store := w.store.clear }

def after (w : StoreSession) (acts : List StoreAct) : StoreSession := acts.foldl afterOne w

theorem after_concat (w : StoreSession) (acts : List StoreAct) (a : StoreAct) :
    w.after (acts ++ [a]) = (w.after acts).afterOne a := by
  rw [after, List.foldl_append]
  rfl

/-- Of the calls for `source` in the run `acts`, the one made when `before` was over is the last that
found no live tree. -/
structure LastMiss (w : StoreSession) (acts : List StoreAct) (source : String)
    (before : List StoreAct) : Prop where
  asked : before ++ [.parse source] <+: acts
  missed : ¬ (w.after before).Held source
  last : ∀ mid, mid ++ [.parse source] <+: acts → before.length < mid.length →
    (w.after mid).Held source

end StoreSession

namespace TimedStore
variable {α : Type} {s : TimedStore α} {now : Int} {key : String}

/-- A key that is not found has no entry any more. -/
theorem key_ne_of_get (h : (s.get now key).1 = none) : ∀ e ∈ (s.get now key).2.entries, e.key ≠ key := by
  unfold get at h ⊢
  cases hfind : s.find? key with
  | none =>
    simpa [find?] using hfind
  | some e =>
    rw [hfind] at h
    dsimp only at h ⊢
    split at h
    · rename_i hexpired
      rw [if_pos hexpired]
      exact fun d hd => (mem_remove.1 hd).2
    · cases h

end TimedStore

namespace StoreSession
variable {w : StoreSession} {acts before : List StoreAct} {source : String}

namespace LastMiss

/-- The call that is made now is the last one. -/
theorem now (h : ¬ (w.after acts).Held source) :
    w.LastMiss (acts ++ [.parse source]) source acts := by
  refine ⟨List.prefix_refl _, h, fun mid hmid hlt => ?_⟩
  have hlength := hmid.length_le
  simp only [List.length_append, List.length_singleton] at hlength
  omega

/-- The last call stays the last, unless the next act is one that finds no live tree. -/
theorem concat (h : w.LastMiss acts source before) {a : StoreAct}
    (ha : a = .parse source → (w.after acts).Held source) :
    w.LastMiss (acts ++ [a]) source before := by
  refine ⟨h.asked.trans (List.prefix_append ..), h.missed, fun mid hmid hlt => ?_⟩
  rcases List.prefix_concat_iff.1 hmid with heq | hmid
  · obtain ⟨rfl, ha'⟩ := List.append_inj' heq rfl
    exact ha (List.singleton_inj.1 ha').symm
  · exact h.last mid hmid hlt

end LastMiss

theorem held_iff : w.Held source ↔
    (w.store.trees.get w.session.now (TemplateStore.keyFor source)).1.isSome = true := by
  rw [Held, TimedStore.isSome_get]

theorem afterOne_invalidate (w : StoreSession) (source : String) :
    w.afterOne (.invalidate source) = { w with
      store := { w.store with trees := w.store.trees.delete (TemplateStore.keyFor source) } } := by
  rw [afterOne, TemplateStore.invalidate, CodePoints.encode_ofString]
  rfl

/-- The store never gets a limit of its own. -/
theorem open_limit (s : Session) (lifetime capacity : Int) (acts : List StoreAct) :
    ((opened s lifetime capacity).after acts).store.limit = none := by
  induction acts using List.reverseRecOn with
  | nil => rfl
  | append_singleton acts a ih =>
    rw [after_concat, ← ih]
    cases a with
    | parse source => exact (TemplateStore.getOrParse_holds (P := fun _ _ => True)
        (fun _ _ => trivial) _ _ (.ofString source) fun _ _ _ _ => trivial).2
    | invalidate source => rw [afterOne_invalidate]
    | inSession | clear => rfl

theorem after_lifetime (s : Session) (lifetime capacity : Int) (acts : List StoreAct) :
    ((opened s lifetime capacity).after acts).store.trees.lifetime = lifetime := by
  induction acts using List.reverseRecOn with
  | nil => rfl
  | append_singleton acts a ih =>
    refine Eq.trans ?_ ih
    rw [after_concat]
    cases a with
    | parse source => exact TemplateStore.lifetime_getOrParse ..
    | invalidate source => rw [afterOne_invalidate]; rfl
    | inSession | clear => rfl

/-- A store whose trees never expire can always store one. -/
theorem after_canStore (s : Session) (capacity : Int) (acts : List StoreAct) (now : Int) :
    ∃ expiry, ((opened s 0 capacity).after acts).store.trees.expiryFor now none = .ok expiry := by
  simp [TimedStore.expiryFor, after_lifetime]

/-- A live tree is handed out. -/
theorem getOrParse_of_held (h : w.Held source) : ∃ t,
    (w.store.trees.get w.session.now (TemplateStore.keyFor source)).1 = some t ∧
      w.store.getOrParse w.session.now w.limit (.ofString source) =
        (.ok t, w.store.looked w.session.now source) := by
  obtain ⟨t, ht⟩ := Option.isSome_iff_exists.1 (held_iff.1 h)
  have hanswer := TemplateStore.answers_getOrParse (CodePoints.encode_ofString source) w.store
    w.session.now w.limit
  generalize w.store.getOrParse w.session.now w.limit (.ofString source) = out at hanswer ⊢
  cases hanswer with
  | live hit => exact ⟨_, hit, rfl⟩
  | failed miss | overflowed miss | parsed miss => cases miss.symm.trans ht

/-- Without a live tree, a text is parsed under the limit in force. -/
theorem getOrParse_of_not_held (hlimit : w.store.limit = none) (h : ¬ w.Held source) :
    (w.store.trees.get w.session.now (TemplateStore.keyFor source)).1 = none ∧
      ((∃ f, w.fresh source = .error f ∧
        w.store.getOrParse w.session.now w.limit (.ofString source) =
          (.error f, w.store.looked w.session.now source)) ∨
      ∃ t expiry, w.fresh source = .ok t ∧
        w.store.getOrParse w.session.now w.limit (.ofString source) =
          (.ok ⟨w.store.parsed, t⟩, w.store.stored w.session.now source t expiry)) := by
  have hmiss : (w.store.trees.get w.session.now (TemplateStore.keyFor source)).1 = none := by
    simpa [held_iff] using h
  have hanswer := TemplateStore.answers_getOrParse (CodePoints.encode_ofString source) w.store
    w.session.now w.limit
  have hinForce : w.store.limit.getD w.limit = w.limit := by rw [hlimit, Option.getD_none]
  generalize w.store.getOrParse w.session.now w.limit (.ofString source) = out at hanswer ⊢
  refine ⟨hmiss, ?_⟩
  cases hanswer with
  | live hit => cases hmiss.symm.trans hit
  | failed _ read =>
    rw [hinForce] at read
    exact .inl ⟨_, by rw [fresh, read], rfl⟩
  | overflowed _ read beyond =>
    rw [hinForce] at read
    exact .inl ⟨_, by rw [fresh, read, beyond], rfl⟩
  | parsed _ read within =>
    rw [hinForce] at read
    exact .inr ⟨_, _, by rw [fresh, read, within], rfl⟩

theorem answer_of_not_held (hlimit : w.store.limit = none) (h : ¬ w.Held source) :
    w.answer source = w.fresh source := by
  rcases getOrParse_of_not_held hlimit h with ⟨-, ⟨f, hf, heq⟩ | ⟨t, expiry, ht, heq⟩⟩
  · rw [answer, heq, hf]
    rfl
  · rw [answer, heq, ht]
    rfl

/-- An answer without a live tree is what reading the text gives, `x`, if that is so under the limit in
force and a tree can be stored. -/
theorem fresh_eq_iff {x : Except Template.Failure Template} :
    w.fresh source = x.mapError .template ↔ Template.read (.ofString source) w.limit = x ∧
      ∀ t, x = .ok t → ∃ expiry, w.store.trees.expiryFor w.session.now none = .ok expiry := by
  unfold fresh
  cases Template.read (.ofString source) w.limit <;>
    cases w.store.trees.expiryFor w.session.now none <;> cases x <;> simp [Except.mapError]

theorem exists_of_held (h : w.Held source) :
    ∃ e ∈ w.store.trees.entries, e.key = TemplateStore.keyFor source ∧
      w.answer source = .ok e.value.template := by
  obtain ⟨t, ht, heq⟩ := getOrParse_of_held h
  obtain ⟨e, he, hek, rfl⟩ := TimedStore.exists_of_get ht
  refine ⟨e, he, hek, ?_⟩
  rw [answer, heq]
  rfl

/-- If it is stored for `source`, the tree is what was answered at the last call that found none. -/
def DatesTo (w : StoreSession) (acts : List StoreAct) (source key : String) (tree : SharedTemplate) :
    Prop :=
  key = TemplateStore.keyFor source → ∃ before, w.LastMiss acts source before ∧
    (w.after before).fresh source = .ok tree.template

def Dated (w : StoreSession) (acts : List StoreAct) (source : String) : Prop :=
  (w.after acts).store.trees.Holds (w.DatesTo acts source)

namespace Dated

/-- Every act but a call for the text that finds no live tree keeps the date. -/
theorem concat_of_held (h : w.Dated acts source) {a : StoreAct}
    (ha : a = .parse source → (w.after acts).Held source) :
    (w.after acts).store.trees.Holds (w.DatesTo (acts ++ [a]) source) := by
  intro e he hek
  obtain ⟨before, hlast, hparse⟩ := h e he hek
  exact ⟨before, hlast.concat ha, hparse⟩

theorem parse_other (h : w.Dated acts source) {x : String}
    (hx : TemplateStore.keyFor x ≠ TemplateStore.keyFor source) :
    w.Dated (acts ++ [.parse x]) source := by
  rw [Dated, after_concat]
  have hne : StoreAct.parse x = .parse source → (w.after acts).Held source := by
    rintro ⟨⟩
    exact absurd rfl hx
  refine (TemplateStore.getOrParse_holds (h.concat_of_held hne) _ _ (.ofString x) ?_).1
  intro text t htext _ hkey
  obtain rfl := Except.ok.inj ((CodePoints.encode_ofString x).symm.trans htext)
  exact absurd hkey hx

theorem parse_self (h : w.Dated acts source) (hlimit : (w.after acts).store.limit = none) :
    w.Dated (acts ++ [.parse source]) source := by
  rw [Dated, after_concat]
  by_cases hheld : (w.after acts).Held source
  · obtain ⟨t, -, heq⟩ := getOrParse_of_held hheld
    rw [afterOne, heq]
    exact (h.concat_of_held fun _ => hheld).get _ _
  · obtain ⟨hmiss, hparsed⟩ := getOrParse_of_not_held hlimit hheld
    -- what is left of the store says nothing about the text
    have hleft : ((w.after acts).store.trees.get (w.after acts).session.now
        (TemplateStore.keyFor source)).2.Holds (w.DatesTo (acts ++ [.parse source]) source) :=
      fun e he hek => absurd hek (TimedStore.key_ne_of_get hmiss e he)
    rcases hparsed with ⟨f, -, heq⟩ | ⟨t, expiry, ht, heq⟩
    · rw [afterOne, heq]
      exact hleft
    · rw [afterOne, heq]
      exact hleft.put _ (fun _ => ⟨acts, .now hheld, ht⟩) expiry

theorem run (s : Session) (lifetime capacity : Int)
    (hkey : ∀ x ∈ StoreAct.sources acts, contentKey x = contentKey source → x = source) :
    (opened s lifetime capacity).Dated acts source := by
  induction acts using List.reverseRecOn with
  | nil => intro e he; cases he
  | append_singleton acts a ih =>
    simp only [StoreAct.sources, List.filterMap_append, List.mem_append] at hkey
    have h := ih fun x hx => hkey x (.inl hx)
    have hlimit := open_limit s lifetime capacity acts
    cases a with
    | parse x =>
      by_cases hx : x = source
      · rw [hx]
        exact h.parse_self hlimit
      · refine h.parse_other fun hxk => hx (hkey x (.inr ?_) (TemplateStore.keyFor_inj.1 hxk))
        simp
    | inSession a =>
      rw [Dated, after_concat]
      exact h.concat_of_held (by rintro ⟨⟩)
    | invalidate x =>
      rw [Dated, after_concat, afterOne_invalidate]
      exact (h.concat_of_held (by rintro ⟨⟩)).delete _
    | clear =>
      rw [Dated, after_concat]
      exact .clear _

end Dated

/-- Each answer is that of the last call that found no live tree. -/
theorem exists_lastMiss (s : Session) (lifetime capacity : Int)
    (hkey : ∀ x ∈ StoreAct.sources acts, contentKey x = contentKey source → x = source) :
    let w := opened s lifetime capacity
    ∃ before, w.LastMiss (acts ++ [.parse source]) source before ∧
      (w.after acts).answer source = (w.after before).fresh source := by
  intro w
  by_cases hheld : (w.after acts).Held source
  · obtain ⟨e, he, hek, hanswer⟩ := exists_of_held hheld
    obtain ⟨before, hlast, hparse⟩ := Dated.run s lifetime capacity hkey e he hek
    exact ⟨before, hlast.concat fun _ => hheld, hanswer.trans hparse.symm⟩
  · exact ⟨acts, .now hheld, answer_of_not_held (open_limit s lifetime capacity acts) hheld⟩

end StoreSession

open StoreSession

/-- Each answer for a text is that of the last call for it that found no live tree: its parse under
the limit then in force, if the tree could be stored. So all answers are those of the limit that the
store was made under exactly if at each such call the limit in force parses the text in the same way,
and a tree can be stored. -/
theorem answer_eq_parse_at_last_miss (s : Session) (lifetime capacity : Int) (acts : List StoreAct)
    (source : String)
    (digest : ∀ x ∈ StoreAct.sources acts, contentKey x = contentKey source → x = source) :
    let w := opened s lifetime capacity
    let made := Template.read (.ofString source) w.limit
    (∀ early, early ++ [.parse source] <+: acts →
      ∃ before, w.LastMiss (early ++ [.parse source]) source before ∧
        (w.after early).answer source = (w.after before).fresh source) ∧
    ((∀ early, early ++ [.parse source] <+: acts →
        (w.after early).answer source = made.mapError .template) ↔
      ∀ early, early ++ [.parse source] <+: acts → ¬ (w.after early).Held source →
        Template.read (.ofString source) (w.after early).limit = made ∧
        ∀ t, made = .ok t → ∃ expiry,
          (w.after early).store.trees.expiryFor (w.after early).session.now none = .ok expiry) := by
  intro w made
  have hanswer : ∀ early, early ++ [.parse source] <+: acts →
      ∃ before, w.LastMiss (early ++ [.parse source]) source before ∧
        (w.after early).answer source = (w.after before).fresh source := by
    intro early hearly
    refine exists_lastMiss s lifetime capacity fun x hx => digest x ?_
    exact (hearly.filterMap _).subset
      (by rw [List.filterMap_append]; exact List.mem_append_left _ hx)
  refine ⟨hanswer, fun hall early hearly hmiss => ?_, fun hmisses early hearly => ?_⟩
  · rw [← fresh_eq_iff, ← hall early hearly,
      answer_of_not_held (open_limit s lifetime capacity early) hmiss]
  · obtain ⟨before, hlast, heq⟩ := hanswer early hearly
    rw [heq, fresh_eq_iff]
    exact hmisses before (hlast.asked.trans hearly) hlast.missed

/-- A text is answered with the tree of the limit that was in force when it was asked for first, though
no level of branches is allowed any more and the store was asked for another text in between. -/
theorem answer_eq_parse_at_last_miss_lowered :
    let source := "\x7bstream.title::=x[\"a\"||\"b\"]\x7d"
    let early : List StoreAct :=
      [.parse source, .inSession (.setVariable "STREAMFMT_MAX_NESTING_DEPTH" (some "0")),
        .inSession .reload, .parse ""]
    let w := opened (.start [] .builtIn) 0 2
    (∀ x ∈ StoreAct.sources (early ++ [.parse source]), contentKey x = contentKey source →
      x = source) ∧
    (w.after early).limit = 0 ∧ (w.after early).answer source =
      (Template.read (.ofString source) 32).mapError .template := by
  intro source early w
  have hne : contentKey "" ≠ contentKey source := by decide +kernel
  have digest : ∀ x ∈ StoreAct.sources (early ++ [.parse source]),
      contentKey x = contentKey source → x = source := by
    simp [early, StoreAct.sources, hne]
  obtain ⟨hanswers, -⟩ := answer_eq_parse_at_last_miss (.start [] .builtIn) 0 2
    (early ++ [.parse source]) source digest
  obtain ⟨before, hlast, heq⟩ := hanswers early (List.prefix_refl _)
  have hheld : (w.after early).Held source := by decide +kernel
  refine ⟨digest, by decide, ?_⟩
  suffices hfirst : before = [] by
    rw [heq, hfirst]
    exact fresh_eq_iff.2 ⟨rfl, fun _ _ => after_canStore _ _ [] _⟩
  rcases List.prefix_concat_iff.1 hlast.asked with hnow | hbefore
  · obtain rfl := List.append_cancel_right hnow
    exact absurd hheld hlast.missed
  · -- the text is asked for only once before
    cases before with
    | nil => rfl
    | cons a as =>
      have hlater := (List.cons_prefix_cons.1 hbefore).2.subset
        (List.mem_append_right as (List.mem_singleton_self _))
      simp [source] at hlater

/-- Once its tree has gone, a text is parsed under the limit that has come into force since. -/
theorem exists_answer_changes :
    ¬ ∀ (s : Session) (lifetime capacity : Int) (acts : List StoreAct) (source : String),
      let w := opened s lifetime capacity
      ∀ early later, early ++ [.parse source] <+: acts → later ++ [.parse source] <+: acts →
        (w.after early).answer source = (w.after later).answer source := by
  intro h
  let source := "\x7bstream.title::=x[\"a\"||\"b\"]\x7d"
  let later : List StoreAct :=
    [.parse source, .inSession (.setVariable "STREAMFMT_MAX_NESTING_DEPTH" (some "0")),
      .inSession .reload, .clear]
  let w := opened (.start [] .builtIn) 0 1024
  have hsame := h (.start [] .builtIn) 0 1024 (later ++ [.parse source]) source [] later
    ⟨later.tail ++ [.parse source], rfl⟩ (List.prefix_refl _)
  have hopen := open_limit (.start [] .builtIn) 0 1024
  have hfirst : ¬ (w.after []).Held source := Bool.false_ne_true
  have hcleared : ¬ (w.after later).Held source := Bool.false_ne_true
  rw [answer_of_not_held (hopen []) hfirst, answer_of_not_held (hopen later) hcleared] at hsame
  have hread : (w.after []).fresh source = (Template.read (.ofString source) 32).mapError .template :=
    fresh_eq_iff.2 ⟨rfl, fun _ _ => after_canStore _ _ [] _⟩
  have hreread :
      (w.after later).fresh source = (Template.read (.ofString source) 0).mapError .template :=
    fresh_eq_iff.2 ⟨rfl, fun _ _ => after_canStore _ _ later _⟩
  rw [hread, hreread] at hsame
  have hok : (Template.parse source 32).isOk = true := by cbv
  have herror : (Template.parse source 0).isOk = false := by cbv
  cases h₃₂ : Template.parse source 32 with
  | error e => simp [h₃₂, Except.isOk, Except.toBool] at hok
  | ok t =>
    -- a text that is read again is a tree again
    have hreads : Template.read (.ofString source) 32 = .ok t := Template.read_ofString_eq_ok_iff.2 h₃₂
    have hrereads : Template.read (.ofString source) 0 = .ok t := by
      cases h : Template.read (.ofString source) 0 <;> simp_all [Except.mapError]
    rw [Template.read_ofString_eq_ok_iff] at hrereads
    rw [hrereads] at herror
    cases herror

end StreamLabel

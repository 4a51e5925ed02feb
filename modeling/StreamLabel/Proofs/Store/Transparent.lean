import StreamLabel.Proofs.Store.Recency
import StreamLabel.Proofs.Template.Source
import StreamLabel.Store.Templates

/-!
# The store of templates is transparent

A store of templates with a limit of its own answers as if every text were parsed anew: each tree in
it is the parse of a text that the run asked for, and stands under the key of that text
(`Faithful`). The digest must tell the texts of the run apart; then a text finds no tree but its own
(`getOrParse_transparent`). There are two exceptions. A text without bytes has no key and is refused,
and a text that parses is refused where its tree would expire beyond the calendar.
-/

namespace StreamLabel

variable {α : Type}

/-! ### What a store holds -/

namespace TimedStore
variable {P : String → α → Prop} {s : TimedStore α} {now : Int} {key : String} {value : α}

/-- Every key and its value satisfy `P`. -/
def Holds (P : String → α → Prop) (s : TimedStore α) : Prop := ∀ e ∈ s.entries, P e.key e.value

theorem exists_of_get (h : (s.get now key).1 = some value) :
    ∃ e ∈ s.entries, e.key = key ∧ e.value = value := by
  unfold get at h
  split at h
  · simp at h
  · rename_i e he
    split at h
    · simp at h
    · exact ⟨e, List.mem_of_find?_eq_some he, by simpa using List.find?_some he, Option.some.inj h⟩

theorem get_of_live {e : TimedEntry α} (h : s.find? key = some e) (hlive : e.isExpired now = false) :
    (s.get now key).1 = some e.value := by
  simp [get, h, hlive]

/-- What was put last under a key is found there. -/
theorem find?_put (s : TimedStore α) (now : Int) (key : String) (value : α) (expiry : Option Int) :
    (s.put now key value expiry).find? key = some ⟨key, value, expiry, s.uses⟩ := by
  have hold : ∀ entries : List (TimedEntry α), (remove key entries).find? (·.key == key) = none := by
    intro entries
    refine List.find?_eq_none.2 fun e he => ?_
    simpa using (mem_remove.1 he).2
  rw [find?, put, List.find?_append, hold]
  simp

theorem get_put (s : TimedStore α) (now now' : Int) (key : String) (value : α) :
    ((s.put now key value none).get now' key).1 = some value :=
  get_of_live (s.find?_put now key value none) rfl

theorem isSome_get (s : TimedStore α) (now : Int) (key : String) :
    (s.get now key).1.isSome = s.contains now key := by
  unfold get contains
  cases s.find? key with
  | none => rfl
  | some e => cases h : e.isExpired now <;> simp [h]

theorem lifetime_get (s : TimedStore α) (now : Int) (key : String) :
    (s.get now key).2.lifetime = s.lifetime := by
  unfold get
  split
  · rfl
  · split <;> rfl

/-- Looking something up does not change when a value expires. -/
theorem expiryFor_get (s : TimedStore α) (now : Int) (key : String) (now' : Int)
    (own : Option Int) : (s.get now key).2.expiryFor now' own = s.expiryFor now' own := by
  rw [expiryFor, lifetime_get]
  rfl

theorem expiryFor_of_forever (h : s.lifetime = 0) (now : Int) : s.expiryFor now none = .ok none := by
  simp [expiryFor, h]

theorem get_of_not_mem (h : key ∉ s.keys) :
    s.get now key = (none, { s with misses := s.misses + 1 }) := by
  rw [get, find?_eq_none_iff.2 h]

namespace Holds

theorem of_sublist {entries : List (TimedEntry α)} (h : s.Holds P) (hs : entries.Sublist s.entries) :
    ∀ e ∈ entries, P e.key e.value :=
  fun e he => h e (hs.subset he)

theorem delete (h : s.Holds P) (key : String) : (s.delete key).Holds P :=
  h.of_sublist List.filter_sublist

theorem clear (s : TimedStore α) : s.clear.Holds P := by simp [Holds, TimedStore.clear]

theorem get (h : s.Holds P) (now : Int) (key : String) : (s.get now key).2.Holds P := by
  unfold TimedStore.get
  split
  · exact h
  · split
    · exact h.of_sublist List.filter_sublist
    · intro e he
      obtain ⟨d, hd, rfl⟩ := List.mem_map.1 he
      split
      · exact h d hd
      · exact h d hd

theorem put (h : s.Holds P) (now : Int) (hnew : P key value) (expiry : Option Int) :
    (s.put now key value expiry).Holds P := by
  intro e he
  rcases List.mem_append.1 he with he | he
  · have hkept := (mem_remove.1 he).1
    split at hkept
    · exact h e ((s.evict_sublist now).subset hkept)
    · exact h e hkept
  · rw [List.mem_singleton.1 he]
    exact hnew

end Holds

end TimedStore

/-! ### Calls -/

/-- What can be asked of a store of templates. To parse, the limit in force comes along. -/
inductive TemplateCall where
  | parse (inForce : Int) (source : CodePoints)
  | contains (source : CodePoints)
  | invalidate (source : CodePoints)
  | clear
  | size
  | stats

inductive TemplateAnswer where
  | parsed (outcome : Except TemplateStore.Failure SharedTemplate)
  | held (b : Bool)
  | done
  /-- The text has no key. -/
  | refused (u : Unencodable)
  | size (n : Nat)
  | stats (s : StoreStats)

/-- The texts with bytes that the calls ask to parse. -/
def TemplateCall.texts (calls : List (Int × TemplateCall)) : List String :=
  calls.filterMap fun c =>
    match c.2 with
    | parse _ source => source.encode.toOption
    | _ => none

namespace TemplateStore

def call (s : TemplateStore) (now : Int) : TemplateCall → TemplateAnswer × TemplateStore
  | .parse inForce source =>
    (.parsed (s.getOrParse now inForce source).1, (s.getOrParse now inForce source).2)
  | .contains source =>
    match s.contains now source with
    | .ok held => (.held held, s)
    | .error u => (.refused u, s)
  | .invalidate source =>
    match s.invalidate source with
    | .ok next => (.done, next)
    | .error u => (.refused u, s)
  | .clear => (.done, s.clear)
  | .size => (.size s.size, s)
  | .stats => (.stats (s.stats now), s)

variable {s : TemplateStore} {now inForce : Int} {text : String}

/-- What looking a text up leaves behind. -/
def looked (s : TemplateStore) (now : Int) (text : String) : TemplateStore :=
  { s with trees := (s.trees.get now (keyFor text)).2 }

/-- What is left behind when a tree has been parsed and stored. -/
def stored (s : TemplateStore) (now : Int) (text : String) (t : Template) (expiry : Option Int) :
    TemplateStore :=
  { s with
    trees := (s.trees.get now (keyFor text)).2.put now (keyFor text) ⟨s.parsed, t⟩ expiry
    parsed := s.parsed + 1 }

/-- How a store answers a text that has bytes, and what is left behind: the live tree under its key,
or else the failure of its parse, or the tree of its parse if that can be stored. -/
inductive Answers (s : TemplateStore) (now inForce : Int) (text : String) :
    Except Failure SharedTemplate × TemplateStore → Prop
  | live {t} (hit : (s.trees.get now (keyFor text)).1 = some t) :
      Answers s now inForce text (.ok t, s.looked now text)
  | failed {f} (miss : (s.trees.get now (keyFor text)).1 = none)
      (read : Template.read (.ofString text) (s.limit.getD inForce) = .error f) :
      Answers s now inForce text (.error (.template f), s.looked now text)
  | overflowed {t o} (miss : (s.trees.get now (keyFor text)).1 = none)
      (read : Template.read (.ofString text) (s.limit.getD inForce) = .ok t)
      (beyond : s.trees.expiryFor now none = .error o) :
      Answers s now inForce text (.error (.overflow o), s.looked now text)
  | parsed {t expiry} (miss : (s.trees.get now (keyFor text)).1 = none)
      (read : Template.read (.ofString text) (s.limit.getD inForce) = .ok t)
      (within : s.trees.expiryFor now none = .ok expiry) :
      Answers s now inForce text (.ok ⟨s.parsed, t⟩, s.stored now text t expiry)

theorem getOrParse_of_unencodable {source : CodePoints} {u : Unencodable}
    (h : source.encode = .error u) (s : TemplateStore) (now inForce : Int) :
    s.getOrParse now inForce source = (.error (.template (.unencodable u)), s) := by
  rw [getOrParse, h]

theorem answers_getOrParse {source : CodePoints} (h : source.encode = .ok text) (s : TemplateStore)
    (now inForce : Int) : s.Answers now inForce text (s.getOrParse now inForce source) := by
  rw [getOrParse, h]
  dsimp only
  rcases hget : s.trees.get now (keyFor text) with ⟨_ | t, trees⟩
  · have hmiss : (s.trees.get now (keyFor text)).1 = none := by rw [hget]
    have htrees : (s.trees.get now (keyFor text)).2 = trees := by rw [hget]
    have hexpiry : trees.expiryFor now none = s.trees.expiryFor now none := by
      rw [← htrees, TimedStore.expiryFor_get]
    have hlooked : { s with trees := trees } = s.looked now text := by rw [looked, htrees]
    dsimp only
    rw [parseAndStore, hlooked]
    cases hread : Template.read (.ofString text) (s.limit.getD inForce) with
    | error f =>
      rw [show (s.looked now text).limit = s.limit from rfl, hread]
      exact .failed hmiss hread
    | ok t =>
      rw [show (s.looked now text).limit = s.limit from rfl, hread]
      rw [show (s.looked now text).trees = trees from htrees]
      cases hset : s.trees.expiryFor now none with
      | error o =>
        simp only [TimedStore.set, hexpiry, hset]
        exact .overflowed hmiss hread hset
      | ok expiry =>
        simp only [TimedStore.set, hexpiry, hset]
        have hstored : s.Answers now inForce text (.ok ⟨s.parsed, t⟩, s.stored now text t expiry) :=
          .parsed hmiss hread hset
        rw [stored, htrees] at hstored
        exact hstored
  · have hhit : (s.trees.get now (keyFor text)).1 = some t := by rw [hget]
    have hlive : s.Answers now inForce text (.ok t, s.looked now text) := .live hhit
    rwa [looked, hget] at hlive

/-- What a store holds it goes on holding, if the tree of a text that parses may join. -/
theorem getOrParse_holds {P : String → SharedTemplate → Prop} {s : TemplateStore}
    (h : s.trees.Holds P) (now inForce : Int) (source : CodePoints)
    (hnew : ∀ text t, source.encode = .ok text →
      Template.read (.ofString text) (s.limit.getD inForce) = .ok t → P (keyFor text) ⟨s.parsed, t⟩) :
    (s.getOrParse now inForce source).2.trees.Holds P ∧
      (s.getOrParse now inForce source).2.limit = s.limit := by
  cases hbytes : source.encode with
  | error u =>
    rw [getOrParse_of_unencodable hbytes]
    exact ⟨h, rfl⟩
  | ok text =>
    have hanswer := answers_getOrParse hbytes s now inForce
    generalize s.getOrParse now inForce source = out at hanswer
    have hget := h.get now (keyFor text)
    cases hanswer with
    | live | failed | overflowed => exact ⟨hget, rfl⟩
    | parsed _ read _ => exact ⟨hget.put now (hnew text _ hbytes read) _, rfl⟩

theorem lifetime_getOrParse (s : TemplateStore) (now inForce : Int) (source : CodePoints) :
    (s.getOrParse now inForce source).2.trees.lifetime = s.trees.lifetime := by
  cases hbytes : source.encode with
  | error u => rw [getOrParse_of_unencodable hbytes]
  | ok text =>
    have hanswer := answers_getOrParse hbytes s now inForce
    generalize s.getOrParse now inForce source = out at hanswer
    cases hanswer <;> exact s.trees.lifetime_get now (keyFor text)

/-- A text that has been parsed into a store without a lifetime is answered with the same tree,
whatever limit is in force by then. -/
theorem getOrParse_again {s : TemplateStore} {now now' inForce inForce' : Int} {text : String}
    {t : Template} (hnew : keyFor text ∉ s.trees.keys) (hforever : s.trees.lifetime = 0)
    (ht : Template.read (.ofString text) (s.limit.getD inForce) = .ok t) :
    ((s.getOrParse now inForce (.ofString text)).2.getOrParse now' inForce' (.ofString text)).1 =
      .ok ⟨s.parsed, t⟩ := by
  have hmiss : (s.trees.get now (keyFor text)).1 = none := by rw [TimedStore.get_of_not_mem hnew]
  have hanswer := answers_getOrParse (CodePoints.encode_ofString text) s now inForce
  generalize s.getOrParse now inForce (.ofString text) = out at hanswer ⊢
  have hexpiry := TimedStore.expiryFor_of_forever hforever now
  cases hanswer with
  | live hit => cases hmiss.symm.trans hit
  | failed _ read => cases ht.symm.trans read
  | overflowed _ _ beyond => cases hexpiry.symm.trans beyond
  | parsed _ read within =>
    obtain rfl := Except.ok.inj (ht.symm.trans read)
    obtain rfl := Except.ok.inj (hexpiry.symm.trans within)
    have hagain := answers_getOrParse (CodePoints.encode_ofString text)
      (s.stored now text t none) now' inForce'
    have hget : ((s.stored now text t none).trees.get now' (keyFor text)).1 = some ⟨s.parsed, t⟩ :=
      TimedStore.get_put ..
    generalize (s.stored now text t none).getOrParse now' inForce' (.ofString text) = out at hagain ⊢
    cases hagain with
    | live hit => rw [Option.some.inj (hget.symm.trans hit)]
    | failed miss | overflowed miss | parsed miss => cases hget.symm.trans miss

theorem keyFor_eq (text : String) : keyFor text = "template:" ++ contentKey text := rfl

theorem keyFor_inj {x y : String} : keyFor x = keyFor y ↔ contentKey x = contentKey y := by
  rw [keyFor_eq, keyFor_eq, String.append_right_inj]

/-- The store parses under `limit`, and each tree in it is the parse of one of the texts and stands
under its key. -/
structure Faithful (limit : Int) (texts : List String) (s : TemplateStore) : Prop where
  limit_eq : s.limit = some limit
  ordered : ∃ l, s.trees.Represents l
  holds : s.trees.Holds fun key tree =>
    ∃ text ∈ texts, keyFor text = key ∧ Template.parse text limit = .ok tree.template

theorem new_eq {lifetime capacity : Int} {limit : Option Int} {s : TemplateStore}
    (h : TemplateStore.new lifetime capacity limit = .ok s) :
    s = { trees := { lifetime, capacity }, limit } := by
  rw [TemplateStore.new, TimedStore.new, Moment.span] at h
  split at h
  · cases h
  · split at h
    · cases h
    · exact (Except.ok.inj h).symm

namespace Faithful
variable {limit : Int} {texts : List String} {s : TemplateStore} {source : CodePoints}
  {text : String} {now inForce : Int}

theorem new {lifetime capacity : Int} (h : TemplateStore.new lifetime capacity (some limit) = .ok s)
    (texts : List String) : s.Faithful limit texts := by
  rw [new_eq h]
  exact ⟨rfl, ⟨_, .empty lifetime capacity⟩, by simp [TimedStore.Holds]⟩

theorem parse_of_read (h : s.Faithful limit texts) {t : Template}
    (ht : Template.read (.ofString text) (s.limit.getD inForce) = .ok t) :
    Template.parse text limit = .ok t := by
  rw [h.limit_eq, Option.getD_some] at ht
  exact Template.read_ofString_eq_ok_iff.1 ht

theorem getOrParse (h : s.Faithful limit texts) (now inForce : Int)
    (hs : ∀ text, source.encode = .ok text → text ∈ texts) :
    (s.getOrParse now inForce source).2.Faithful limit texts := by
  obtain ⟨hholds, hlimit⟩ := getOrParse_holds h.holds now inForce source fun text t hbytes ht =>
    ⟨text, hs text hbytes, rfl, h.parse_of_read ht⟩
  refine ⟨hlimit.trans h.limit_eq, ?_, hholds⟩
  obtain ⟨l, hl⟩ := h.ordered
  cases hbytes : source.encode with
  | error u =>
    rw [getOrParse_of_unencodable hbytes]
    exact ⟨l, hl⟩
  | ok text =>
    have hanswer := answers_getOrParse hbytes s now inForce
    have hget := (hl.get now (keyFor text)).2
    generalize s.getOrParse now inForce source = out at hanswer
    cases hanswer with
    | live | failed | overflowed => exact ⟨_, hget⟩
    | parsed => exact ⟨_, hget.put now _ _ _⟩

theorem call (h : s.Faithful limit texts) (now : Int) (c : TemplateCall)
    (hc : ∀ inForce source text, c = .parse inForce source → source.encode = .ok text →
      text ∈ texts) :
    (s.call now c).2.Faithful limit texts := by
  obtain ⟨l, hl⟩ := h.ordered
  cases c with
  | parse inForce source => exact h.getOrParse now inForce fun text => hc _ _ text rfl
  | invalidate source =>
    rw [TemplateStore.call, TemplateStore.invalidate]
    cases source.encode with
    | error u => exact h
    | ok text => exact ⟨h.limit_eq, ⟨_, hl.delete _⟩, h.holds.delete _⟩
  | contains source =>
    rw [TemplateStore.call]
    split <;> exact h
  | clear => exact ⟨h.limit_eq, ⟨_, hl.clear⟩, .clear _⟩
  | size | stats => exact h

theorem run {lifetime capacity : Int} {made : TemplateStore}
    (h : TemplateStore.new lifetime capacity (some limit) = .ok made)
    (calls : List (Int × TemplateCall)) :
    (runCalls TemplateStore.call made calls).2.Faithful limit (TemplateCall.texts calls) := by
  refine runCalls_invariant (fun now c s hc h => h.call now c ?_) (.new h _)
  rintro inForce source text rfl hbytes
  exact List.mem_filterMap.2 ⟨_, hc, by simp only [hbytes, Except.toOption]⟩

/-! ### Answers -/

/-- A tree that stands under the key of a text is the parse of that text, unless the digest takes
another text for it. -/
theorem parse_of_mem (h : s.Faithful limit texts)
    (hkey : ∀ x ∈ texts, contentKey x = contentKey text → x = text)
    {e : TimedEntry SharedTemplate} (he : e ∈ s.trees.entries) (hek : e.key = keyFor text) :
    Template.parse text limit = .ok e.value.template := by
  obtain ⟨x, hx, hxk, hparse⟩ := h.holds e he
  rwa [hkey x hx (keyFor_inj.1 (hxk.trans hek))] at hparse

/-- The tree that lives under the key of a text is handed out. -/
theorem live_eq (h : s.Faithful limit texts) (hbytes : source.encode = .ok text) (now inForce : Int)
    {e : TimedEntry SharedTemplate} (he : e ∈ s.trees.entries) (hek : e.key = keyFor text)
    (hlive : e.isExpired now = false) : (s.getOrParse now inForce source).1 = .ok e.value := by
  obtain ⟨l, hl⟩ := h.ordered
  have hget := TimedStore.get_of_live ((TimedStore.find?_eq_some_iff hl.keys_nodup).2 ⟨he, hek⟩) hlive
  have hanswer := answers_getOrParse hbytes s now inForce
  generalize s.getOrParse now inForce source = out at hanswer ⊢
  cases hanswer with
  | live hit => rw [Option.some.inj (hget.symm.trans hit)]
  | failed miss | overflowed miss | parsed miss => cases hget.symm.trans miss

/-- What is answered is what reading the text gives, unless a tree cannot be stored. -/
theorem answer_eq_read_or_overflow (h : s.Faithful limit texts) (hbytes : source.encode = .ok text)
    (hkey : ∀ x ∈ texts, contentKey x = contentKey text → x = text) (now inForce : Int) :
    (s.getOrParse now inForce source).1.map SharedTemplate.template =
        (Template.read source limit).mapError .template ∨
      ∃ o, (s.getOrParse now inForce source).1 = .error (.overflow o) := by
  have hanswer := answers_getOrParse hbytes s now inForce
  rw [Template.read_of_encode hbytes]
  generalize s.getOrParse now inForce source = out at hanswer ⊢
  cases hanswer with
  | live hit =>
    obtain ⟨e, he, hek, rfl⟩ := TimedStore.exists_of_get hit
    rw [Template.read_ofString_eq_ok_iff.2 (h.parse_of_mem hkey he hek)]
    exact .inl rfl
  | failed _ read =>
    rw [h.limit_eq, Option.getD_some] at read
    rw [read]
    exact .inl rfl
  | overflowed => exact .inr ⟨_, rfl⟩
  | parsed _ read _ =>
    rw [h.limit_eq, Option.getD_some] at read
    rw [read]
    exact .inl rfl

/-- A tree cannot be stored where it would expire beyond the calendar. It is only asked for when there
is none that lives. -/
theorem overflow_iff (h : s.Faithful limit texts) (hbytes : source.encode = .ok text)
    (now inForce : Int) {o : Overflow} :
    (s.getOrParse now inForce source).1 = .error (.overflow o) ↔
      s.trees.contains now (keyFor text) = false ∧ (∃ t, Template.read source limit = .ok t) ∧
        s.trees.expiryFor now none = .error o := by
  have hanswer := answers_getOrParse hbytes s now inForce
  rw [Template.read_of_encode hbytes, ← TimedStore.isSome_get]
  generalize s.getOrParse now inForce source = out at hanswer ⊢
  cases hanswer with
  | live hit => simp [hit]
  | failed _ read =>
    rw [h.limit_eq, Option.getD_some] at read
    simp [read]
  | overflowed miss read beyond =>
    rw [h.limit_eq, Option.getD_some] at read
    simp [miss, read, beyond]
  | parsed _ _ within => simp [within]

/-- A text that does not parse has no entry, so all it changes is the count of misses. -/
theorem after_failed (h : s.Faithful limit texts) (hbytes : source.encode = .ok text)
    (hkey : ∀ x ∈ texts, contentKey x = contentKey text → x = text) {now inForce : Int}
    {f : Template.Failure} (hf : (s.getOrParse now inForce source).1 = .error (.template f)) :
    (s.getOrParse now inForce source).2 =
      { s with trees := { s.trees with misses := s.trees.misses + 1 } } := by
  have hanswer := answers_getOrParse hbytes s now inForce
  generalize s.getOrParse now inForce source = out at hanswer hf ⊢
  cases hanswer with
  | live | overflowed | parsed => cases hf
  | failed _ read =>
    rw [h.limit_eq, Option.getD_some, Template.read_eq_error_iff, CodePoints.text_ofString] at read
    obtain ⟨e, he, -⟩ := read
    have hnew : keyFor text ∉ s.trees.keys := by
      intro hk
      obtain ⟨d, hd, hdk⟩ := List.mem_map.1 hk
      cases he.symm.trans (h.parse_of_mem hkey hd hdk)
    simp only [looked, TimedStore.get_of_not_mem hnew]

/-- After an overflow the store is as a look-up leaves it. -/
theorem after_overflow (hbytes : source.encode = .ok text) {o : Overflow}
    (ho : (s.getOrParse now inForce source).1 = .error (.overflow o)) :
    (s.getOrParse now inForce source).2 = s.looked now text := by
  have hanswer := answers_getOrParse hbytes s now inForce
  generalize s.getOrParse now inForce source = out at hanswer ho ⊢
  cases hanswer with
  | live | failed | parsed => cases ho
  | overflowed => rfl

end Faithful

end TemplateStore

/-- After any calls, a text that has bytes is answered as if it were parsed anew: with its parse,
which is the stored tree itself while that lives, or with the failure of its parse, and then nothing
but the count of misses changes. The one exception is a text that parses and has no live tree, where
the tree would expire beyond the calendar. A text without bytes is refused. What is stored is stored
under keys of texts that parse. -/
theorem getOrParse_transparent (lifetime capacity limit : Int) (made : TemplateStore)
    (hmade : TemplateStore.new lifetime capacity (some limit) = .ok made)
    (calls : List (Int × TemplateCall)) (source : CodePoints)
    (digest : ∀ x ∈ TemplateCall.texts calls, ∀ text, source.encode = .ok text →
      contentKey x = contentKey text → x = text) :
    let s := (runCalls TemplateStore.call made calls).2
    (∀ now inForce,
      let answer := (s.getOrParse now inForce source).1
      let after := (s.getOrParse now inForce source).2
      match source.encode with
      | .error u => answer = .error (.template (.unencodable u)) ∧ after = s
      | .ok text =>
        (answer.map SharedTemplate.template = (Template.read source limit).mapError .template ∨
          ∃ o, answer = .error (.overflow o)) ∧
        (∀ o, answer = .error (.overflow o) ↔
          s.trees.contains now (TemplateStore.keyFor text) = false ∧
          (∃ t, Template.read source limit = .ok t) ∧ s.trees.expiryFor now none = .error o) ∧
        (∀ e ∈ s.trees.entries, e.key = TemplateStore.keyFor text → e.isExpired now = false →
          answer = .ok e.value) ∧
        (∀ f, answer = .error (.template f) →
          after = { s with trees := { s.trees with misses := s.trees.misses + 1 } }) ∧
        ∀ o, answer = .error (.overflow o) → after = s.looked now text) ∧
    ∀ key ∈ s.trees.keys, ∃ x ∈ TemplateCall.texts calls,
      TemplateStore.keyFor x = key ∧ ∃ t, Template.parse x limit = .ok t := by
  intro s
  have h : s.Faithful limit (TemplateCall.texts calls) := .run hmade calls
  constructor
  · intro now inForce
    cases hbytes : source.encode with
    | error u =>
      rw [TemplateStore.getOrParse_of_unencodable hbytes]
      exact ⟨rfl, rfl⟩
    | ok text =>
      have hkey : ∀ x ∈ TemplateCall.texts calls, contentKey x = contentKey text → x = text :=
        fun x hx => digest x hx text hbytes
      exact ⟨h.answer_eq_read_or_overflow hbytes hkey now inForce,
        fun o => h.overflow_iff hbytes now inForce,
        fun e he hek hlive => h.live_eq hbytes now inForce he hek hlive,
        fun f hf => h.after_failed hbytes hkey hf,
        fun o ho => TemplateStore.Faithful.after_overflow hbytes ho⟩
  · intro key hk
    obtain ⟨e, he, rfl⟩ := List.mem_map.1 hk
    obtain ⟨x, hx, hxk, hparse⟩ := h.holds e he
    exact ⟨x, hx, hxk, _, hparse⟩

/-- A tree of the empty text is handed out again after a text that does not parse and one without
bytes, at the last moment of its life. -/
theorem getOrParse_transparent_empty :
    let made : TemplateStore := { trees := { lifetime := 5, capacity := 1 }, limit := some 0 }
    let calls : List (Int × TemplateCall) :=
      [(0, .parse 32 []), (3, .parse 32 (.ofString "\x7b")), (4, .parse 32 [0xd800])]
    let s := (runCalls TemplateStore.call made calls).2
    TemplateStore.new 5 1 (some 0) = .ok made ∧
    (∀ x ∈ TemplateCall.texts calls, ∀ text, CodePoints.encode [] = .ok text →
      contentKey x = contentKey text → x = text) ∧
    (s.getOrParse 5 32 []).1 = .ok ⟨0, ⟨[], ""⟩⟩ := by
  intro made calls s
  have hmade : TemplateStore.new 5 1 (some 0) = .ok made := by rfl
  have hempty : CodePoints.encode [] = .ok "" := by rfl
  have hne : contentKey "\x7b" ≠ contentKey "" := by decide +kernel
  have digest : ∀ x ∈ TemplateCall.texts calls, ∀ text, CodePoints.encode [] = .ok text →
      contentKey x = contentKey text → x = text := by
    have htexts : TemplateCall.texts calls = ["", "\x7b"] := by decide
    rintro x hx text htext heq
    obtain rfl := Except.ok.inj (hempty.symm.trans htext)
    rw [htexts] at hx
    rcases List.mem_pair.1 hx with rfl | rfl
    · rfl
    · exact absurd heq hne
  have hstored : s.trees.entries.map (fun e => (e.key, e.expiry, e.value.serial)) =
      [(TemplateStore.keyFor "", some 5, 0)] := by decide +kernel
  obtain ⟨e, he, hkey⟩ := List.map_eq_singleton_iff.1 hstored
  simp only [Prod.mk.injEq] at hkey
  obtain ⟨hread, -, hlive, -⟩ := (getOrParse_transparent 5 1 0 made hmade calls [] digest).1 5 32
  have hanswer : (s.getOrParse 5 32 []).1 = .ok e.value :=
    hlive e (he ▸ List.mem_singleton_self e) hkey.1 (by simp [TimedEntry.isExpired, hkey.2.1])
  have hparse : Template.read [] 0 = .ok ⟨[], ""⟩ := by rfl
  rw [hanswer, hparse] at hread
  have htree : e.value.template = ⟨[], ""⟩ := by
    rcases hread with hread | ⟨o, ho⟩
    · exact Except.ok.inj hread
    · cases ho
  refine ⟨hmade, digest, hanswer.trans ?_⟩
  rw [← hkey.2.2, ← htree]

/-- A text that parses is refused where its tree would expire beyond the calendar. -/
theorem exists_getOrParse_not_read :
    ¬ ∀ (lifetime capacity limit now : Int) (made : TemplateStore) (source : CodePoints),
      TemplateStore.new lifetime capacity (some limit) = .ok made →
        (made.getOrParse now limit source).1.map SharedTemplate.template =
          (Template.read source limit).mapError .template := by
  intro h
  let made : TemplateStore := { trees := { lifetime := 10 ^ 12, capacity := 1024 }, limit := some 32 }
  have hmade : TemplateStore.new (10 ^ 12) 1024 (some 32) = .ok made := by rfl
  have hanswer : (made.getOrParse 0 32 (.ofString "x")).1 = .error (.overflow .date) := by rfl
  have hread : Template.read (.ofString "x") 32 = .ok ⟨[.literal "x"], "x"⟩ := by rfl
  have hsame := h (10 ^ 12) 1024 32 0 made (.ofString "x") hmade
  rw [hanswer, hread] at hsame
  cases hsame

end StreamLabel

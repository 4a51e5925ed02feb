import StreamLabel.Proofs.Store.RecencyList
import Mathlib.Data.List.Basic

/-!
# Stores follow recency lists

`s.Represents l` says that the entries of `s`, put in the order of their stamps, are the items of
`l`. Dropping the least stamp is then dropping the first item, and a new stamp belongs at the end,
since all stamps are below the counter. Every call keeps this and is answered alike
(`Represents.call`), so on every run a store behaves as its recency list (`run_simulates_recency`).
-/

namespace StreamLabel

variable {C A S T α : Type}

/-! ### Runs -/

/-- What every call keeps, a run keeps. -/
theorem runCalls_invariant {call : S → Int → C → A × S} {P : S → Prop} {calls : List (Int × C)}
    (hcall : ∀ now c s, (now, c) ∈ calls → P s → P (call s now c).2) {s : S} (hs : P s) :
    P (runCalls call s calls).2 := by
  induction calls generalizing s with
  | nil => exact hs
  | cons c calls ih =>
    exact ih (fun now d s hd => hcall now d s (List.mem_cons_of_mem _ hd))
      (hcall c.1 c.2 s (List.mem_cons_self ..) hs)

/-- What answers every call alike answers a run alike. -/
theorem runCalls_simulates {f : S → Int → C → A × S} {g : T → Int → C → A × T} {R : S → T → Prop}
    (hcall : ∀ now c s t, R s t → (f s now c).1 = (g t now c).1 ∧ R (f s now c).2 (g t now c).2)
    (calls : List (Int × C)) {s : S} {t : T} (hst : R s t) :
    (runCalls f s calls).1 = (runCalls g t calls).1 ∧
      R (runCalls f s calls).2 (runCalls g t calls).2 := by
  induction calls generalizing s t with
  | nil => exact ⟨rfl, hst⟩
  | cons c calls ih =>
    obtain ⟨hanswer, hnext⟩ := hcall c.1 c.2 s t hst
    obtain ⟨hanswers, hlast⟩ := ih hnext
    exact ⟨congrArg₂ List.cons hanswer hanswers, hlast⟩

/-! ### The order of stamps -/

def TimedEntry.item (e : TimedEntry α) : RecencyItem α := ⟨e.key, e.value, e.expiry⟩

/-- The entries, put in the order of their stamps, are the items. -/
def InOrder (entries : List (TimedEntry α)) (items : List (RecencyItem α)) : Prop :=
  ∃ es : List (TimedEntry α), es.Perm entries ∧ es.Pairwise (fun a b => a.stamp < b.stamp) ∧
    es.map TimedEntry.item = items

namespace InOrder
variable {entries entries' : List (TimedEntry α)} {items : List (RecencyItem α)}

theorem nil : InOrder ([] : List (TimedEntry α)) [] := ⟨[], .refl _, .nil, rfl⟩

theorem perm (h : InOrder entries items) (hp : entries.Perm entries') : InOrder entries' items := by
  obtain ⟨es, hes, hlt, hmap⟩ := h
  exact ⟨es, hes.trans hp, hlt, hmap⟩

theorem length_eq (h : InOrder entries items) : items.length = entries.length := by
  obtain ⟨es, hes, -, rfl⟩ := h
  rw [List.length_map, hes.length_eq]

theorem stamps_nodup (h : InOrder entries items) : (entries.map (·.stamp)).Nodup := by
  obtain ⟨es, hes, hlt, -⟩ := h
  refine (hes.map _).nodup ?_
  rw [List.Nodup, List.pairwise_map]
  exact hlt.imp Nat.ne_of_lt

theorem filter (p : RecencyItem α → Bool) (h : InOrder entries items) :
    InOrder (entries.filter fun e => p e.item) (items.filter p) := by
  obtain ⟨es, hes, hlt, rfl⟩ := h
  exact ⟨_, hes.filter _, hlt.filter _, by rw [List.filter_map]; rfl⟩

/-- An entry with a higher stamp than all others comes last. -/
theorem append {e : TimedEntry α} (h : InOrder entries items) (he : ∀ d ∈ entries, d.stamp < e.stamp) :
    InOrder (entries ++ [e]) (items ++ [e.item]) := by
  obtain ⟨es, hes, hlt, rfl⟩ := h
  refine ⟨es ++ [e], hes.append_right _, List.pairwise_append.2 ⟨hlt, List.pairwise_singleton .., ?_⟩,
    by simp⟩
  intro d hd f hf
  rw [List.mem_singleton.1 hf]
  exact he d (hes.subset hd)

theorem dropOldest (h : InOrder entries items) :
    InOrder (TimedStore.dropOldest entries) items.tail := by
  obtain ⟨es, hes, hlt, rfl⟩ := h
  cases es with
  | nil => rw [← hes.nil_eq]; exact nil
  | cons e es =>
    obtain ⟨he, hlt⟩ := List.pairwise_cons.1 hlt
    have hmin : (entries.map (·.stamp)).min? = some e.stamp := by
      rw [List.min?_eq_some_iff]
      refine ⟨List.mem_map.2 ⟨e, hes.subset (by simp), rfl⟩, fun n hn => ?_⟩
      obtain ⟨d, hd, rfl⟩ := List.mem_map.1 hn
      rcases List.mem_cons.1 (hes.symm.subset hd) with rfl | hd
      · exact Nat.le_refl _
      · exact Nat.le_of_lt (he d hd)
    have hrest : (e :: es).filter (·.stamp != e.stamp) = es := by
      rw [List.filter_cons_of_neg (by simp)]
      exact List.filter_eq_self.2 fun d hd => by simpa using Nat.ne_of_gt (he d hd)
    rw [TimedStore.dropOldest, hmin]
    refine ⟨es, ?_, hlt, rfl⟩
    have := hes.filter (·.stamp != e.stamp)
    rwa [hrest] at this

theorem makeRoom {capacity : Nat} (hc : 0 < capacity) {fuel : Nat} (h : InOrder entries items)
    (hfuel : entries.length ≤ fuel) :
    InOrder (TimedStore.makeRoom capacity fuel entries) (items.drop (items.length + 1 - capacity)) := by
  induction fuel generalizing entries items with
  | zero =>
    have hlen := h.length_eq
    rw [show items.length + 1 - capacity = 0 by omega]
    exact h
  | succ fuel ih =>
    have hlen := h.length_eq
    rw [TimedStore.makeRoom]
    split
    · rw [show items.length + 1 - capacity = 0 by omega]
      exact h
    · have htail := h.dropOldest
      have hshort := htail.length_eq
      rw [List.length_tail] at hshort
      have := ih htail (by omega)
      rw [List.length_tail, ← List.drop_one, List.drop_drop] at this
      rwa [show 1 + (items.length - 1 + 1 - capacity) = items.length + 1 - capacity by omega] at this

end InOrder

theorem RecencyList.lifetimeFor_eq (l : RecencyList α) (own : Option Int) :
    l.lifetimeFor own = if own.getD 0 = 0 then l.lifetime else own.getD 0 := by
  unfold lifetimeFor
  split
  · rfl
  · rfl
  · rename_i n hn
    have hne : n ≠ 0 := fun h0 => hn h0
    simp [hne]

namespace TimedStore

/-! ### Entries with different keys -/

variable {entries entries' : List (TimedEntry α)} {e : TimedEntry α} {key : String}

theorem find?_eq_some_iff (h : (entries.map (·.key)).Nodup) :
    entries.find? (·.key == key) = some e ↔ e ∈ entries ∧ e.key = key := by
  constructor
  · intro he
    exact ⟨List.mem_of_find?_eq_some he, by simpa using List.find?_some he⟩
  · rintro ⟨he, rfl⟩
    induction entries with
    | nil => simp at he
    | cons d entries ih =>
      rw [List.map_cons, List.nodup_cons] at h
      rcases List.mem_cons.1 he with rfl | he
      · simp
      · have hne : d.key ≠ e.key := fun hde => h.1 (hde ▸ List.mem_map.2 ⟨e, he, rfl⟩)
        rw [List.find?_cons_of_neg (by simpa using hne), ih h.2 he]

theorem find?_perm (h : (entries.map (·.key)).Nodup) (hp : entries.Perm entries') (key : String) :
    entries.find? (·.key == key) = entries'.find? (·.key == key) := by
  refine Option.ext fun e => ?_
  rw [find?_eq_some_iff h, find?_eq_some_iff ((hp.map _).nodup h), hp.mem_iff]

theorem mem_remove : e ∈ remove key entries ↔ e ∈ entries ∧ e.key ≠ key := by
  simp [remove]

theorem perm_cons_remove (h : (entries.map (·.key)).Nodup) (he : e ∈ entries) :
    entries.Perm (e :: remove e.key entries) := by
  induction entries with
  | nil => simp at he
  | cons d entries ih =>
    rw [List.map_cons, List.nodup_cons] at h
    rcases List.mem_cons.1 he with rfl | he
    · have hrest : remove e.key entries = entries := by
        refine List.filter_eq_self.2 fun d hd => ?_
        simpa using fun hde : d.key = e.key => h.1 (hde ▸ List.mem_map.2 ⟨d, hd, rfl⟩)
      simp only [remove] at hrest
      simp [remove, hrest]
    · have hne : d.key ≠ e.key := fun hde => h.1 (hde ▸ List.mem_map.2 ⟨e, he, rfl⟩)
      have hd : remove e.key (d :: entries) = d :: remove e.key entries :=
        List.filter_cons_of_pos (by simpa using hne)
      rw [hd]
      exact ((ih h.2 he).cons d).trans (.swap ..)

/-- A stamp put on one entry puts the entry last. -/
theorem touch_perm (h : (entries.map (·.key)).Nodup) (he : e ∈ entries) (n : Nat) :
    (entries.map fun d => if d.key == e.key then { d with stamp := n } else d).Perm
      (remove e.key entries ++ [{ e with stamp := n }]) := by
  have hrest : (remove e.key entries).map
      (fun d => if d.key == e.key then { d with stamp := n } else d) = remove e.key entries := by
    rw [List.map_congr_left (g := id), List.map_id]
    intro d hd
    simp [(mem_remove.1 hd).2]
  have hperm := (perm_cons_remove h he).map
    (fun d => if d.key == e.key then { d with stamp := n } else d)
  rw [List.map_cons, hrest] at hperm
  simp only [beq_self_eq_true, ↓reduceIte] at hperm
  exact hperm.trans (List.perm_append_singleton ..).symm

theorem dropOldest_sublist (entries : List (TimedEntry α)) : (dropOldest entries).Sublist entries := by
  unfold dropOldest
  split
  · exact List.nil_sublist _
  · exact List.filter_sublist

theorem makeRoom_sublist (capacity fuel : Nat) (entries : List (TimedEntry α)) :
    (makeRoom capacity fuel entries).Sublist entries := by
  induction fuel generalizing entries with
  | zero => exact .refl _
  | succ fuel ih =>
    rw [makeRoom]
    split
    · exact .refl _
    · exact (ih _).trans (dropOldest_sublist entries)

theorem makeRoom_of_lt {capacity fuel : Nat} (h : entries.length < capacity) :
    makeRoom capacity fuel entries = entries := by
  cases fuel with
  | zero => rfl
  | succ fuel => rw [makeRoom, if_pos h]

theorem evict_sublist_live (s : TimedStore α) (now : Int) :
    (s.evict now).Sublist (s.entries.filter (!·.isExpired now)) :=
  makeRoom_sublist ..

theorem evict_sublist (s : TimedStore α) (now : Int) : (s.evict now).Sublist s.entries :=
  (s.evict_sublist_live now).trans List.filter_sublist

/-! ### Calls -/

/-- The entries are the items in the order of their stamps, which are below the counter; the keys
are different, and all else is the same. -/
structure Represents (s : TimedStore α) (l : RecencyList α) : Prop where
  lifetime_eq : l.lifetime = s.lifetime
  capacity_eq : l.capacity = s.capacity
  hits_eq : l.hits = s.hits
  misses_eq : l.misses = s.misses
  order : InOrder s.entries l.items
  stamp_lt : ∀ d ∈ s.entries, d.stamp < s.uses
  keys_nodup : (s.entries.map (·.key)).Nodup

variable {s : TimedStore α} {l : RecencyList α}

theorem find?_eq_none_iff : s.find? key = none ↔ key ∉ s.keys := by
  simp [find?, keys, List.find?_eq_none]

namespace Represents

theorem empty (lifetime capacity : Int) :
    Represents ({ lifetime := lifetime, capacity := capacity } : TimedStore α)
      { lifetime := lifetime, capacity := capacity } :=
  ⟨rfl, rfl, rfl, rfl, .nil, by simp, by simp⟩

theorem find?_eq (h : s.Represents l) (key : String) :
    l.find? key = (s.find? key).map TimedEntry.item := by
  obtain ⟨es, hes, -, hmap⟩ := h.order
  rw [RecencyList.find?, ← hmap, List.find?_map, TimedStore.find?,
    find?_perm h.keys_nodup hes.symm key]
  rfl

theorem expiryFor_eq (h : s.Represents l) (now : Int) (own : Option Int) :
    l.expiryFor now own = s.expiryFor now own := by
  simp only [RecencyList.expiryFor, TimedStore.expiryFor, l.lifetimeFor_eq, h.lifetime_eq]

/-- An entry with the next stamp is put behind entries of other keys. -/
theorem concat (h : s.Represents l) {kept : List (TimedEntry α)} {items : List (RecencyItem α)}
    (horder : InOrder (remove e.key kept) items) (hkept : kept.Sublist s.entries)
    (he : e.stamp = s.uses) (hp : (remove e.key kept ++ [e]).Perm entries) {hits hits' : Nat}
    (hhits : hits' = hits) :
    Represents { s with entries, uses := s.uses + 1, hits }
      { l with items := items ++ [e.item], hits := hits' } := by
  have hsub : (remove e.key kept).Sublist s.entries := List.filter_sublist.trans hkept
  have hlt : ∀ d ∈ remove e.key kept, d.stamp < e.stamp := fun d hd =>
    he ▸ h.stamp_lt d (hsub.subset hd)
  refine ⟨h.lifetime_eq, h.capacity_eq, hhits, h.misses_eq, (horder.append hlt).perm hp,
    fun d hd => ?_, ?_⟩
  · rcases List.mem_append.1 (hp.symm.subset hd) with hd | hd
    · exact Nat.lt_succ_of_lt (he ▸ hlt d hd)
    · rw [List.mem_singleton.1 hd, he]
      exact Nat.lt_succ_self _
  · refine (hp.map _).nodup ?_
    rw [List.map_append, List.nodup_append]
    refine ⟨h.keys_nodup.sublist (hsub.map _), by simp, ?_⟩
    rintro _ hd _ hk rfl
    obtain ⟨d, hd, hde⟩ := List.mem_map.1 hd
    exact (mem_remove.1 hd).2 (hde.trans (by simpa using hk))

/-- The entry of a key goes away. -/
theorem without (h : s.Represents l) (key : String) {misses misses' : Nat}
    (hmisses : misses' = misses) :
    Represents { s with entries := remove key s.entries, misses }
      { l with items := l.without key, misses := misses' } :=
  ⟨h.lifetime_eq, h.capacity_eq, h.hits_eq, hmisses, h.order.filter (·.key != key),
    fun d hd => h.stamp_lt d (mem_remove.1 hd).1, h.keys_nodup.sublist (List.filter_sublist.map _)⟩

theorem get (h : s.Represents l) (now : Int) (key : String) :
    (s.get now key).1 = (l.get now key).1 ∧ (s.get now key).2.Represents (l.get now key).2 := by
  have hfind := h.find?_eq key
  have hmisses := congrArg (· + 1) h.misses_eq
  unfold TimedStore.get RecencyList.get
  cases hs : s.find? key with
  | none =>
    rw [hs] at hfind
    rw [hfind]
    exact ⟨rfl, { h with misses_eq := hmisses }⟩
  | some e =>
    obtain ⟨he, rfl⟩ := (find?_eq_some_iff h.keys_nodup).1 hs
    rw [hs] at hfind
    rw [hfind]
    dsimp only [Option.map_some]
    have hexpired : e.item.isExpired now = e.isExpired now := rfl
    rw [hexpired]
    split
    · exact ⟨rfl, h.without e.key hmisses⟩
    · have hput := h.concat (e := { e with stamp := s.uses }) (h.order.filter (·.key != e.key))
        (.refl _) rfl (touch_perm h.keys_nodup he s.uses).symm (congrArg (· + 1) h.hits_eq)
      exact ⟨rfl, hput⟩

theorem evict (h : s.Represents l) (now : Int) (hc : 0 < s.capacity) :
    InOrder (s.evict now) (l.roomFor now) := by
  have hlive : InOrder (s.entries.filter (!·.isExpired now)) (l.items.filter (!·.isExpired now)) :=
    h.order.filter (!·.isExpired now)
  rw [RecencyList.roomFor, h.capacity_eq]
  exact hlive.makeRoom (by omega) (Nat.le_refl _)

theorem put (h : s.Represents l) (now : Int) (key : String) (value : α)
    (expiry : Option Int) :
    (s.put now key value expiry).Represents (l.put now key value expiry) := by
  have hnew : (0 < l.capacity ∧ (l.find? key).isNone = true) =
      (0 < s.capacity ∧ (s.find? key).isNone = true) := by
    rw [h.capacity_eq, h.find?_eq, Option.isNone_map]
  unfold TimedStore.put RecencyList.put
  simp only [hnew]
  refine h.concat (e := ⟨key, value, expiry, s.uses⟩) ?_ ?_ rfl (.refl _) h.hits_eq
  · dsimp only
    split
    · rename_i hnew
      have hkey : key ∉ s.keys := find?_eq_none_iff.1 (by simpa using hnew.2)
      have hremove : remove key (s.evict now) = s.evict now := by
        refine List.filter_eq_self.2 fun d hd => ?_
        simpa using fun hdk : d.key = key =>
          hkey (List.mem_map.2 ⟨d, (s.evict_sublist now).subset hd, hdk⟩)
      rw [hremove]
      exact h.evict now hnew.1
    · exact h.order.filter (·.key != key)
  · split
    · exact s.evict_sublist now
    · exact .refl _

theorem delete (h : s.Represents l) (key : String) : (s.delete key).Represents (l.delete key) :=
  h.without key h.misses_eq

theorem clear (h : s.Represents l) : s.clear.Represents l.clear :=
  ⟨h.lifetime_eq, h.capacity_eq, rfl, rfl, .nil, by simp [TimedStore.clear],
    by simp [TimedStore.clear]⟩

theorem contains_eq (h : s.Represents l) (now : Int) (key : String) :
    s.contains now key = l.contains now key := by
  rw [TimedStore.contains, RecencyList.contains, h.find?_eq, Option.any_map]
  rfl

theorem stats_eq (h : s.Represents l) (now : Int) : s.stats now = l.stats now := by
  have hexpired := (h.order.filter (·.isExpired now)).length_eq
  rw [TimedStore.stats, RecencyList.stats, hexpired, h.order.length_eq, h.capacity_eq, h.hits_eq,
    h.misses_eq]
  rfl

/-- Every call is answered alike and keeps the order. -/
theorem call (h : s.Represents l) (now : Int) (c : StoreCall α) :
    (s.call now c).1 = (l.call now c).1 ∧ (s.call now c).2.Represents (l.call now c).2 := by
  cases c with
  | get key =>
    obtain ⟨hvalue, hnext⟩ := h.get now key
    exact ⟨congrArg StoreAnswer.found hvalue, hnext⟩
  | set key value lifetime =>
    simp only [TimedStore.call, RecencyList.call, TimedStore.set, RecencyList.set, h.expiryFor_eq]
    cases s.expiryFor now lifetime with
    | ok expiry => exact ⟨rfl, h.put now key value expiry⟩
    | error o => exact ⟨rfl, h⟩
  | delete key => exact ⟨rfl, h.delete key⟩
  | clear => exact ⟨rfl, h.clear⟩
  | contains key => exact ⟨congrArg StoreAnswer.held (h.contains_eq now key), h⟩
  | size => exact ⟨congrArg StoreAnswer.size h.order.length_eq.symm, h⟩
  | stats => exact ⟨congrArg StoreAnswer.stats (h.stats_eq now), h⟩

end Represents

end TimedStore

/-! ### Room -/

namespace RecencyList

/-- A list with a limit keeps to it. -/
def Bounded (capacity : Int) (l : RecencyList α) : Prop :=
  l.capacity = capacity ∧ (0 < capacity → (l.items.length : Int) ≤ capacity)

variable {l : RecencyList α} {capacity : Int}

theorem length_without_le (l : RecencyList α) (key : String) :
    (l.without key).length ≤ l.items.length :=
  List.length_filter_le ..

theorem length_without_lt {key : String} {i : RecencyItem α} (h : l.find? key = some i) :
    (l.without key).length < l.items.length :=
  List.length_filter_lt_length_iff_exists.2
    ⟨i, List.mem_of_find?_eq_some h, by simpa using List.find?_some h⟩

theorem length_roomFor_lt (l : RecencyList α) (now : Int) (h : 0 < l.capacity) :
    ((l.roomFor now).length : Int) < l.capacity := by
  rw [roomFor, List.length_drop]
  omega

namespace Bounded

theorem of_length_le (h : l.Bounded capacity) {items : List (RecencyItem α)} {hits misses : Nat}
    (hlen : items.length ≤ l.items.length) :
    Bounded capacity { l with items, hits, misses } :=
  ⟨h.1, fun hc => Int.le_trans (Int.ofNat_le.2 hlen) (h.2 hc)⟩

theorem get (h : l.Bounded capacity) (now : Int) (key : String) :
    (l.get now key).2.Bounded capacity := by
  unfold RecencyList.get
  split
  · exact h.of_length_le (Nat.le_refl _)
  · rename_i i hi
    split
    · exact h.of_length_le (l.length_without_le key)
    · refine h.of_length_le ?_
      rw [List.length_append]
      exact length_without_lt hi

theorem put (h : l.Bounded capacity) (now : Int) (key : String) (value : α)
    (expiry : Option Int) : (l.put now key value expiry).Bounded capacity := by
  refine ⟨h.1, fun hc => ?_⟩
  have hc' : 0 < l.capacity := h.1 ▸ hc
  simp only [RecencyList.put, List.length_append, List.length_singleton, hc', true_and]
  split
  · have := l.length_roomFor_lt now hc'
    have := h.1
    omega
  · rename_i hold
    obtain ⟨i, hi⟩ := Option.ne_none_iff_exists'.1 (by simpa using hold)
    have := length_without_lt hi
    have := h.2 hc
    omega

theorem call (h : l.Bounded capacity) (now : Int) (c : StoreCall α) :
    (l.call now c).2.Bounded capacity := by
  cases c with
  | get key => exact h.get now key
  | set key value own =>
    rcases l.call_set_cases now key value own with ⟨expiry, -, heq⟩ | ⟨o, -, heq⟩ <;> rw [heq]
    · exact h.put now key value expiry
    · exact h
  | delete key => exact h.of_length_le (l.length_without_le key)
  | clear => exact h.of_length_le (Nat.zero_le _)
  | contains | size | stats => exact h

end Bounded

end RecencyList

namespace TimedStore

variable {s : TimedStore α} {l : RecencyList α} {e : TimedEntry α} {now : Int}

/-- What leaves a store that makes room, though it is live, leaves a full store without expired
entries. -/
theorem full_of_not_mem_evict (hsize : (s.size : Int) ≤ s.capacity) (he : e ∈ s.entries)
    (hlive : e.isExpired now = false) (hgone : e ∉ s.evict now) :
    (s.size : Int) = s.capacity ∧ ∀ d ∈ s.entries, d.isExpired now = false := by
  have hmem : e ∈ s.entries.filter (!·.isExpired now) := List.mem_filter.2 ⟨he, by simp [hlive]⟩
  have hfull : s.capacity.toNat ≤ (s.entries.filter (!·.isExpired now)).length := by
    by_contra hroom
    refine hgone ?_
    rw [evict, makeRoom_of_lt (Nat.lt_of_not_le hroom)]
    exact hmem
  have hle : (s.entries.filter (!·.isExpired now)).length ≤ s.entries.length :=
    List.length_filter_le ..
  rw [size] at hsize ⊢
  have hall : (s.entries.filter (!·.isExpired now)).length = s.entries.length := by omega
  refine ⟨by omega, fun d hd => ?_⟩
  simpa using List.length_filter_eq_length_iff.1 hall d hd

/-- What a write makes go away makes room for a new key. -/
theorem not_mem_evict_of_put {key : String} {value : α} {expiry : Option Int} (he : e ∈ s.entries)
    (hgone : e.key ∉ (s.put now key value expiry).keys) :
    key ∉ s.keys ∧ 0 < s.capacity ∧ e ∉ s.evict now := by
  simp only [put, keys, List.map_append, List.mem_append, not_or, List.map_singleton,
    List.mem_singleton] at hgone
  obtain ⟨hrest, hne⟩ := hgone
  have hkept : e ∉ if 0 < s.capacity ∧ (s.find? key).isNone = true then s.evict now else s.entries :=
    fun hd => hrest (List.mem_map.2 ⟨e, mem_remove.2 ⟨hd, hne⟩, rfl⟩)
  split at hkept
  · rename_i hnew
    exact ⟨find?_eq_none_iff.1 (by simpa using hnew.2), hnew.1, hkept⟩
  · exact absurd he hkept

/-- A live entry goes away only with all others, by name, or to make room for a new key in a full
store in which nothing is expired. -/
theorem gone_of_live (h : s.Represents l) (hsize : 0 < s.capacity → (s.size : Int) ≤ s.capacity)
    (c : StoreCall α) (he : e ∈ s.entries) (hlive : e.isExpired now = false)
    (hgone : e.key ∉ (s.call now c).2.keys) :
    c = .clear ∨ c = .delete e.key ∨
      ∃ key value lifetime expiry, c = .set key value lifetime ∧
        s.expiryFor now lifetime = .ok expiry ∧ key ∉ s.keys ∧
        (s.size : Int) = s.capacity ∧ ∀ d ∈ s.entries, d.isExpired now = false := by
  have hkept : ∀ {entries : List (TimedEntry α)}, e ∈ entries → e.key ∈ entries.map (·.key) :=
    fun hd => List.mem_map.2 ⟨e, hd, rfl⟩
  cases c with
  | clear => exact .inl rfl
  | contains | size | stats => exact absurd (hkept he) hgone
  | delete key =>
    refine .inr (.inl ?_)
    by_contra hne
    exact hgone (hkept (mem_remove.2 ⟨he, fun hk => hne (congrArg StoreCall.delete hk.symm)⟩))
  | get key =>
    refine absurd ?_ hgone
    simp only [TimedStore.call, TimedStore.get]
    split
    · exact hkept he
    · rename_i d hd
      split
      · rename_i hexp
        refine hkept (mem_remove.2 ⟨he, fun hk => ?_⟩)
        obtain rfl : e = d := Option.some.inj
          (((find?_eq_some_iff h.keys_nodup).2 ⟨he, hk⟩).symm.trans hd)
        simp [hlive] at hexp
      · refine List.mem_map.2 ⟨_, List.mem_map.2 ⟨e, he, rfl⟩, ?_⟩
        split <;> rfl
  | set key value lifetime =>
    rcases s.call_set_cases now key value lifetime with ⟨expiry, hexpiry, heq⟩ | ⟨o, -, heq⟩ <;>
      rw [heq] at hgone
    · obtain ⟨hnew, hc, hevict⟩ := not_mem_evict_of_put he hgone
      exact .inr (.inr ⟨key, value, lifetime, expiry, rfl, hexpiry, hnew,
        full_of_not_mem_evict (hsize hc) he hlive hevict⟩)
    · exact absurd (hkept he) hgone

/-! ### Counts -/

/-- Hits and misses together count the values asked for. -/
theorem requests_run (calls : List (Int × StoreCall α)) (s : TimedStore α) :
    (runCalls call s calls).2.hits + (runCalls call s calls).2.misses =
      calls.foldl StoreCall.countGet (s.hits + s.misses) := by
  induction calls generalizing s with
  | nil => rfl
  | cons c calls ih =>
    have hstep : (s.call c.1 c.2).2.hits + (s.call c.1 c.2).2.misses =
        StoreCall.countGet (s.hits + s.misses) c := by
      obtain ⟨now, c⟩ := c
      cases c with
      | get key =>
        simp only [call, TimedStore.get, StoreCall.countGet]
        split
        · rfl
        · split
          · rfl
          · exact Nat.add_right_comm ..
      | set key value lifetime =>
        rcases s.call_set_cases now key value lifetime with ⟨expiry, -, heq⟩ | ⟨o, -, heq⟩ <;>
          exact congrArg (fun r => r.2.hits + r.2.misses) heq
      | _ => rfl
    rw [List.foldl_cons, ← hstep]
    exact ih _

/-- Only a write is refused, for want of an expiry, and then nothing changes. -/
theorem call_of_refused {c : StoreCall α} {o : Overflow} (h : (s.call now c).1 = .refused o) :
    (s.call now c).2 = s ∧ ∃ key value lifetime, c = .set key value lifetime ∧
      s.expiryFor now lifetime = .error o := by
  cases c with
  | set key value lifetime =>
    rcases s.call_set_cases now key value lifetime with ⟨expiry, -, heq⟩ | ⟨o', ho', heq⟩ <;>
      rw [heq] at h ⊢
    · cases h
    · cases h
      exact ⟨rfl, key, value, lifetime, rfl, ho'⟩
  | get | delete | clear | contains | size | stats => cases h

theorem total_eq (s : TimedStore α) (now : Int) :
    (s.stats now).total = (s.stats now).active + (s.stats now).expired :=
  (Nat.sub_add_cancel (List.length_filter_le ..)).symm

end TimedStore

/-- What holds of a store with the given capacity after the given calls. -/
structure TimedStore.Orderly (capacity : Int) (calls : List (Int × StoreCall α))
    (s : TimedStore α) : Prop where
  stamps_nodup : (s.entries.map (·.stamp)).Nodup
  size_le : 0 < capacity → (s.size : Int) ≤ capacity
  /-- A live entry goes away only with all others, by name, or to make room for a new key in a full
  store in which nothing is expired. -/
  gone : ∀ now c, ∀ e ∈ s.entries, e.isExpired now = false → e.key ∉ (s.call now c).2.keys →
    c = .clear ∨ c = .delete e.key ∨
      ∃ key value lifetime expiry, c = .set key value lifetime ∧
        s.expiryFor now lifetime = .ok expiry ∧ key ∉ s.keys ∧
        (s.size : Int) = capacity ∧ ∀ d ∈ s.entries, d.isExpired now = false
  /-- Only a write is refused, for want of an expiry, and then nothing changes. -/
  refused : ∀ now c o, (s.call now c).1 = .refused o → (s.call now c).2 = s ∧
    ∃ key value lifetime, c = .set key value lifetime ∧ s.expiryFor now lifetime = .error o
  look : ∀ now c, c.IsLook → (s.call now c).2 = s
  requests : s.hits + s.misses = StoreCall.getsSinceClear calls
  total : ∀ now, (s.stats now).total = (s.stats now).active + (s.stats now).expired

/-- On every run a store answers as its recency list, refusals included, and stays in its order. -/
theorem run_simulates_recency (lifetime capacity : Int) (calls : List (Int × StoreCall α)) :
    let run := runCalls TimedStore.call { lifetime, capacity } calls
    let list := runCalls RecencyList.call { lifetime, capacity } calls
    run.1 = list.1 ∧ run.2.Represents list.2 ∧ run.2.Orderly capacity calls := by
  intro run list
  obtain ⟨hanswers, h⟩ : run.1 = list.1 ∧ run.2.Represents list.2 :=
    runCalls_simulates (fun now c _ _ h => h.call now c) calls (.empty lifetime capacity)
  have hbounded : list.2.Bounded capacity :=
    runCalls_invariant (fun now c _ _ h => h.call now c)
      ⟨rfl, fun hc => Int.le_of_lt hc⟩
  have hcapacity : run.2.capacity = capacity := h.capacity_eq.symm.trans hbounded.1
  have hsize : 0 < capacity → (run.2.size : Int) ≤ capacity := by
    intro hc
    rw [TimedStore.size, ← h.order.length_eq]
    exact hbounded.2 hc
  refine ⟨hanswers, h, h.order.stamps_nodup, hsize, fun now c e he hlive hgone => ?_,
    fun _ _ _ => TimedStore.call_of_refused, ?_, ?_, ?_⟩
  · rw [← hcapacity]
    exact TimedStore.gone_of_live h (hcapacity ▸ hsize) c he hlive hgone
  · intro now c hlook
    cases c with
    | contains | size | stats => rfl
    | get | set | delete | clear => exact hlook.elim
  · exact TimedStore.requests_run calls _
  · exact run.2.total_eq

/-- A store whose lifetime is too long for the calendar takes no value. -/
theorem exists_write_refused :
    ¬ ∀ (lifetime capacity now : Int) (s : TimedStore Nat) (key : String) (value : Nat),
      TimedStore.new lifetime capacity = .ok s →
        (runCalls TimedStore.call s [(now, .set key value none), (now, .get key)]).1 =
          [.done, .found (some value)] := by
  intro h
  have hanswers := h (10 ^ 12) 1024 0 { lifetime := 10 ^ 12, capacity := 1024 } "k" 1 rfl
  cases hanswers

end StreamLabel

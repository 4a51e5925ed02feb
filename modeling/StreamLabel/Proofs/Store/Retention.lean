import StreamLabel.Proofs.Store.Recency
import Mathlib.Data.Finset.Card

/-!
# What was used lately is still there

A key that was written or found stands at the end of the recency list. Only keys that are used later
come to stand behind it, each of them once (`Retains`), and it is dropped for want of room only when
those behind it fill the list. So a live value stays as long as fewer other keys have been used since
than the store may hold. What is found under a key is what was written there last, unless it has been
deleted since (`Recalls`). A write that is refused is none.
-/

namespace StreamLabel

variable {α : Type}

/-! ### What a run has done -/

/-- A value that was written, when, and the lifetime that it was given. -/
structure StoreWrite (α : Type) where
  moment : Int
  value : α
  lifetime : Option Int

namespace StoreWrite

/-- The last moment at which the value is live, if it expires. A lifetime that is absent or zero leaves
it to that of the store, and zero there means for ever. -/
def expiry (w : StoreWrite α) (lifetime : Int) : Except Overflow (Option Int) :=
  let own := w.lifetime.getD 0
  let lifetime := if own = 0 then lifetime else own
  if lifetime = 0 then .ok none else (Moment.after w.moment lifetime).map some

/-- A store with the given lifetime takes the value: it has an expiry there, or lives for ever. -/
def isTaken (w : StoreWrite α) (lifetime : Int) : Bool := (w.expiry lifetime).isOk

/-- The moment is not past the expiry. -/
def Live (w : StoreWrite α) (lifetime moment : Int) : Prop :=
  ∀ last, w.expiry lifetime = .ok (some last) → moment ≤ last

end StoreWrite

namespace StoreCall

/-- What is to be found under a key after a call, where `last` was to be found before it. The store
has the given lifetime. -/
def noteWrite (lifetime : Int) (key : String) (last : Option (StoreWrite α))
    (c : Int × StoreCall α) : Option (StoreWrite α) :=
  match c.2 with
  | set k value own =>
    let w : StoreWrite α := ⟨c.1, value, own⟩
    if k = key ∧ w.isTaken lifetime then some w else last
  | delete k => if k = key then none else last
  | clear => none
  | get _ | contains _ | size | stats => last

/-- What was written last under a key, if the key has not been deleted since, nor the store cleared. -/
def lastWrite (lifetime : Int) (key : String) (calls : List (Int × StoreCall α)) :
    Option (StoreWrite α) :=
  calls.foldl (noteWrite lifetime key) none

/-- The call neither writes under the key nor deletes what stands there. -/
def Spares (lifetime : Int) (key : String) (c : Int × StoreCall α) : Prop :=
  match c.2 with
  | set k value own => k = key → StoreWrite.isTaken ⟨c.1, value, own⟩ lifetime = false
  | delete k => k ≠ key
  | clear => False
  | get _ | contains _ | size | stats => True

/-- The key that a call uses: it writes there, or it finds a value. -/
def used? : StoreCall α → StoreAnswer α → Option String
  | set key _ _, .done => some key
  | get key, .found (some _) => some key
  | _, _ => none

/-- The keys that calls use, by their answers. -/
def usedKeys (calls : List (Int × StoreCall α)) (answers : List (StoreAnswer α)) : List String :=
  (calls.zip answers).filterMap fun x => x.1.2.used? x.2

variable {lifetime : Int} {key : String}

theorem lastWrite_concat (lifetime : Int) (key : String) (calls : List (Int × StoreCall α))
    (c : Int × StoreCall α) :
    lastWrite lifetime key (calls ++ [c]) =
      noteWrite lifetime key (lastWrite lifetime key calls) c := by
  rw [lastWrite, List.foldl_append]
  rfl

theorem noteWrite_of_spares {last : Option (StoreWrite α)} {c : Int × StoreCall α}
    (h : Spares lifetime key c) : noteWrite lifetime key last c = last := by
  obtain ⟨now, c⟩ := c
  cases c with
  | set k value own => exact if_neg fun hw => by simp [h hw.1] at hw
  | delete k => exact if_neg h
  | clear => exact h.elim
  | get | contains | size | stats => rfl

/-- Calls that spare a key leave what was written there. -/
theorem lastWrite_append {late : List (Int × StoreCall α)} (h : ∀ c ∈ late, Spares lifetime key c)
    (early : List (Int × StoreCall α)) :
    lastWrite lifetime key (early ++ late) = lastWrite lifetime key early := by
  induction late using List.reverseRecOn with
  | nil => rw [List.append_nil]
  | append_singleton late c ih =>
    rw [List.forall_mem_append] at h
    rw [← List.append_assoc, lastWrite_concat,
      noteWrite_of_spares (h.2 c (List.mem_singleton_self _)), ih h.1]

theorem mem_usedKeys_cons {k : String} {c : Int × StoreCall α} {calls : List (Int × StoreCall α)}
    {a : StoreAnswer α} {answers : List (StoreAnswer α)} :
    k ∈ usedKeys (c :: calls) (a :: answers) ↔ c.2.used? a = some k ∨ k ∈ usedKeys calls answers := by
  simp only [usedKeys, List.zip_cons_cons, List.mem_filterMap, List.mem_cons, exists_eq_or_imp]

end StoreCall

theorem runCalls_append {C A S : Type} (call : S → Int → C → A × S) (s : S)
    (early late : List (Int × C)) :
    (runCalls call s (early ++ late)).2 = (runCalls call (runCalls call s early).2 late).2 := by
  induction early generalizing s with
  | nil => rfl
  | cons c early ih => exact ih _

/-! ### Single calls -/

namespace RecencyList

variable {l : RecencyList α} {i j : RecencyItem α} {now : Int} {c : StoreCall α} {key : String}
  {used : Finset String} {items : List (RecencyItem α)} {calls : List (Int × StoreCall α)}

theorem mem_without : i ∈ l.without key ↔ i ∈ l.items ∧ i.key ≠ key := by
  simp [without]

theorem mem_of_find?_eq_some (h : l.find? key = some i) : i ∈ l.items ∧ i.key = key :=
  ⟨List.mem_of_find?_eq_some h, by simpa using List.find?_some h⟩

theorem key_ne_of_find?_eq_none (h : l.find? key = none) (hi : i ∈ l.items) : i.key ≠ key := by
  simpa using List.find?_eq_none.1 h i hi

/-- An item is found by its key. -/
theorem find?_of_mem (h : (l.items.map (·.key)).Nodup) (hi : i ∈ l.items) :
    l.find? i.key = some i := by
  cases hfind : l.find? i.key with
  | none => exact absurd rfl (key_ne_of_find?_eq_none hfind hi)
  | some j =>
    obtain ⟨hj, hkey⟩ := mem_of_find?_eq_some hfind
    rw [List.inj_on_of_nodup_map h hj hi hkey]

theorem get_of_mem (h : (l.items.map (·.key)).Nodup) (hi : i ∈ l.items)
    (hlive : i.isExpired now = false) : (l.get now i.key).1 = some i.value := by
  rw [get, find?_of_mem h hi]
  dsimp only
  rw [hlive]
  rfl

theorem exists_of_get {value : α} (h : (l.get now key).1 = some value) :
    ∃ i ∈ l.items, i.key = key ∧ i.value = value := by
  rw [get] at h
  split at h
  · cases h
  · rename_i i hi
    split at h
    · cases h
    · obtain ⟨hi, hkey⟩ := mem_of_find?_eq_some hi
      exact ⟨i, hi, hkey, Option.some.inj h⟩

theorem roomFor_sublist (l : RecencyList α) (now : Int) : (l.roomFor now).Sublist l.items :=
  (List.drop_sublist ..).trans List.filter_sublist

theorem expiryFor_eq (l : RecencyList α) (now : Int) (value : α) (own : Option Int) :
    l.expiryFor now own = StoreWrite.expiry ⟨now, value, own⟩ l.lifetime := by
  rw [expiryFor, lifetimeFor_eq]
  rfl

theorem isTaken_iff (value : α) {own : Option Int} :
    StoreWrite.isTaken ⟨now, value, own⟩ l.lifetime = true ↔
      ∃ expiry, l.expiryFor now own = .ok expiry := by
  rw [StoreWrite.isTaken, ← l.expiryFor_eq now value own]
  cases l.expiryFor now own <;> simp [Except.isOk, Except.toBool]

theorem limits_call (l : RecencyList α) (now : Int) (c : StoreCall α) :
    (l.call now c).2.lifetime = l.lifetime ∧ (l.call now c).2.capacity = l.capacity := by
  cases c with
  | get key =>
    simp only [call, get]
    split
    · exact ⟨rfl, rfl⟩
    · split <;> exact ⟨rfl, rfl⟩
  | set key value own =>
    rcases l.call_set_cases now key value own with ⟨expiry, -, heq⟩ | ⟨o, -, heq⟩ <;>
      rw [heq] <;> exact ⟨rfl, rfl⟩
  | delete | clear | contains | size | stats => exact ⟨rfl, rfl⟩

/-- What a list holds after a call it held before, and was spared, or it has just been written. -/
theorem mem_call (h : i ∈ (l.call now c).2.items) :
    i ∈ l.items ∧ StoreCall.Spares l.lifetime i.key (now, c) ∨
      ∃ own, c = .set i.key i.value own ∧ l.expiryFor now own = .ok i.expiry := by
  cases c with
  | get key =>
    refine .inl ⟨?_, trivial⟩
    simp only [call, get] at h
    split at h
    · exact h
    · rename_i d hd
      split at h
      · exact (mem_without.1 h).1
      · rcases List.mem_append.1 h with h | h
        · exact (mem_without.1 h).1
        · rw [List.mem_singleton.1 h]
          exact (mem_of_find?_eq_some hd).1
  | set key value own =>
    rcases l.call_set_cases now key value own with ⟨expiry, hexpiry, heq⟩ | ⟨o, ho, heq⟩ <;>
      rw [heq] at h
    · rcases List.mem_append.1 h with h | h
      · left
        split at h
        · rename_i hnew
          have hi := (l.roomFor_sublist now).subset h
          have hnone : l.find? key = none := by simpa using hnew.2
          exact ⟨hi, fun hkey => absurd hkey.symm (key_ne_of_find?_eq_none hnone hi)⟩
        · obtain ⟨hi, hne⟩ := mem_without.1 h
          exact ⟨hi, fun hkey => absurd hkey.symm hne⟩
      · right
        rw [List.mem_singleton.1 h]
        exact ⟨own, rfl, hexpiry⟩
    · refine .inl ⟨h, fun _ => ?_⟩
      rw [Bool.eq_false_iff, Ne, isTaken_iff]
      rintro ⟨expiry, hexpiry⟩
      cases ho.symm.trans hexpiry
  | delete key =>
    obtain ⟨hi, hne⟩ := mem_without.1 h
    exact .inl ⟨hi, hne.symm⟩
  | clear => cases h
  | contains | size | stats => exact .inl ⟨h, trivial⟩

/-- A key that is used goes to the end. -/
theorem exists_last_of_used (h : c.used? (l.call now c).1 = some key) :
    ∃ front i, (l.call now c).2.items = front ++ [i] ∧ i.key = key := by
  cases c with
  | get k =>
    simp only [call, get] at h ⊢
    split at h
    · cases h
    · rename_i i hi
      split at h
      · cases h
      · rename_i hlive
        obtain rfl : k = key := Option.some.inj h
        rw [if_neg hlive]
        exact ⟨_, i, rfl, (mem_of_find?_eq_some hi).2⟩
  | set k value own =>
    rcases l.call_set_cases now k value own with ⟨expiry, -, heq⟩ | ⟨o, -, heq⟩ <;> rw [heq] at h ⊢
    · obtain rfl : k = key := Option.some.inj h
      exact ⟨_, _, rfl, rfl⟩
    · cases h
  | delete | clear | contains | size | stats => cases h

/-! ### What is recalled -/

/-- What stands in the list is what was written last under its key. -/
def Recalls (l : RecencyList α) (calls : List (Int × StoreCall α)) : Prop :=
  ∀ i ∈ l.items, ∃ w, StoreCall.lastWrite l.lifetime i.key calls = some w ∧ w.value = i.value ∧
    w.expiry l.lifetime = .ok i.expiry

theorem Recalls.concat (h : l.Recalls calls) (now : Int) (c : StoreCall α) :
    (l.call now c).2.Recalls (calls ++ [(now, c)]) := by
  intro i hi
  rw [(l.limits_call now c).1, StoreCall.lastWrite_concat]
  rcases mem_call hi with ⟨hi, hspares⟩ | ⟨own, rfl, hexpiry⟩
  · rw [StoreCall.noteWrite_of_spares hspares]
    exact h i hi
  · refine ⟨⟨now, i.value, own⟩, if_pos ⟨rfl, (isTaken_iff i.value).2 ⟨_, hexpiry⟩⟩, rfl, ?_⟩
    rw [← l.expiryFor_eq now i.value own, hexpiry]

/-! ### What is retained -/

/-- The item is there, and only used keys stand behind it. -/
def Retains (used : Finset String) (i : RecencyItem α) (items : List (RecencyItem α)) : Prop :=
  ∃ front back, items = front ++ i :: back ∧ ∀ j ∈ back, j.key ∈ used

namespace Retains

theorem last (used : Finset String) (front : List (RecencyItem α)) (i : RecencyItem α) :
    Retains used i (front ++ [i]) :=
  ⟨front, [], rfl, by simp⟩

theorem mem (h : Retains used i items) : i ∈ items := by
  obtain ⟨front, back, rfl, -⟩ := h
  simp

theorem filter {p : RecencyItem α → Bool} (h : Retains used i items) (hi : p i = true) :
    Retains used i (items.filter p) := by
  obtain ⟨front, back, rfl, hback⟩ := h
  refine ⟨front.filter p, back.filter p, ?_, fun j hj => hback j (List.mem_filter.1 hj).1⟩
  rw [List.filter_append, List.filter_cons_of_pos hi]

theorem concat (h : Retains used i items) (hj : j.key ∈ used) : Retains used i (items ++ [j]) := by
  obtain ⟨front, back, rfl, hback⟩ := h
  refine ⟨front, back ++ [j], by simp, fun k hk => ?_⟩
  rcases List.mem_append.1 hk with hk | hk
  · exact hback k hk
  · rw [List.mem_singleton.1 hk]
    exact hj

/-- Those behind the item and one more used key leave room for the item. -/
theorem drop {capacity : Nat} (h : Retains used i items) (hnodup : (items.map (·.key)).Nodup)
    (hkey : key ∈ used) (hnew : ∀ j ∈ items, j.key ≠ key) (hroom : used.card < capacity) :
    Retains used i (items.drop (items.length + 1 - capacity)) := by
  obtain ⟨front, back, rfl, hback⟩ := h
  have hkeys : (key :: back.map (·.key)).Nodup := by
    rw [List.map_append, List.map_cons] at hnodup
    refine List.nodup_cons.2 ⟨fun hk => ?_, (List.nodup_append.1 hnodup).2.1.of_cons⟩
    obtain ⟨j, hj, hjk⟩ := List.mem_map.1 hk
    exact hnew j (by simp [hj]) hjk
  have hused : (key :: back.map (·.key)).toFinset ⊆ used := by
    intro k hk
    simp only [List.mem_toFinset, List.mem_cons, List.mem_map] at hk
    rcases hk with rfl | ⟨j, hj, rfl⟩
    · exact hkey
    · exact hback j hj
  have hlength := Finset.card_le_card hused
  rw [List.toFinset_card_of_nodup hkeys, List.length_cons, List.length_map] at hlength
  have hdrop : (front ++ i :: back).length + 1 - capacity ≤ front.length := by
    rw [List.length_append, List.length_cons]
    omega
  rw [List.drop_append_of_le_length hdrop]
  exact ⟨_, back, rfl, hback⟩

/-- An item stays through a call that spares it, while it lives and the keys used leave room. -/
theorem call (h : Retains used i l.items) (hnodup : (l.items.map (·.key)).Nodup)
    (hroom : (used.card : Int) < l.capacity)
    (hspares : StoreCall.Spares l.lifetime i.key (now, c))
    (hlive : i.isExpired now = false)
    (hused : ∀ k, c.used? (l.call now c).1 = some k → k ≠ i.key → k ∈ used) :
    Retains used i (l.call now c).2.items := by
  have hwithout : ∀ {key}, key ≠ i.key → Retains used i (l.without key) :=
    fun hne => h.filter (by simpa using hne.symm)
  cases c with
  | get key =>
    simp only [RecencyList.call, RecencyList.get] at hused ⊢
    cases hfind : l.find? key with
    | none => exact h
    | some j =>
      obtain ⟨hj, rfl⟩ := mem_of_find?_eq_some hfind
      rw [hfind] at hused
      dsimp only at hused ⊢
      by_cases hkey : j.key = i.key
      · obtain rfl : j = i := List.inj_on_of_nodup_map hnodup hj h.mem hkey
        rw [hlive]
        exact .last ..
      · cases hexpired : j.isExpired now with
        | true => exact hwithout hkey
        | false =>
          rw [hexpired] at hused
          exact (hwithout hkey).concat (hused j.key rfl hkey)
  | set key value own =>
    rcases l.call_set_cases now key value own with ⟨expiry, hexpiry, heq⟩ | ⟨o, -, heq⟩ <;>
      rw [heq] at hused ⊢
    · have hne : key ≠ i.key := by
        intro hkey
        cases (hspares hkey).symm.trans ((isTaken_iff value).2 ⟨expiry, hexpiry⟩)
      have hkey : key ∈ used := hused key rfl hne
      refine concat ?_ hkey
      split
      · rename_i hnew
        have hnone : l.find? key = none := by simpa using hnew.2
        refine (h.filter (by simp [hlive])).drop ?_ hkey ?_ (by omega)
        · exact hnodup.sublist (List.filter_sublist.map _)
        · exact fun j hj => key_ne_of_find?_eq_none hnone (List.mem_filter.1 hj).1
      · exact hwithout hne
    · exact h
  | delete key => exact hwithout hspares
  | clear => exact hspares.elim
  | contains | size | stats => exact h

end Retains

end RecencyList

/-! ### Runs -/

namespace TimedStore

variable {s : TimedStore α} {l : RecencyList α} {i : RecencyItem α} {used : Finset String}

namespace Represents

theorem items_nodup (h : s.Represents l) : (l.items.map (·.key)).Nodup := by
  obtain ⟨es, hes, -, hitems⟩ := h.order
  have hkeys : l.items.map (·.key) = es.map (·.key) := by
    rw [← hitems, List.map_map]
    rfl
  rw [hkeys]
  exact (hes.map _).symm.nodup h.keys_nodup

/-- An item stays through calls that spare it, while it lives and the keys used leave room. -/
theorem retains_run (h : s.Represents l) (hretains : RecencyList.Retains used i l.items)
    (hroom : (used.card : Int) < l.capacity) {since : List (Int × StoreCall α)}
    (hspares : ∀ c ∈ since, StoreCall.Spares l.lifetime i.key c)
    (hlive : ∀ c ∈ since, i.isExpired c.1 = false)
    (hused : ∀ k ∈ StoreCall.usedKeys since (runCalls TimedStore.call s since).1, k ≠ i.key →
      k ∈ used) :
    ∃ l', (runCalls TimedStore.call s since).2.Represents l' ∧
      RecencyList.Retains used i l'.items := by
  induction since generalizing s l with
  | nil => exact ⟨l, h, hretains⟩
  | cons c since ih =>
    rw [List.forall_mem_cons] at hspares hlive
    obtain ⟨hanswer, hnext⟩ := h.call c.1 c.2
    simp only [runCalls, StoreCall.mem_usedKeys_cons] at hused
    obtain ⟨hlifetime, hcapacity⟩ := l.limits_call c.1 c.2
    refine ih hnext ?_ (hcapacity ▸ hroom) (hlifetime ▸ hspares.2) hlive.2 fun k hk =>
      hused k (.inr hk)
    refine hretains.call h.items_nodup hroom hspares.1 hlive.1 fun k hk => hused k (.inl ?_)
    rw [hanswer]
    exact hk

end Represents

/-- After every run, the store stands for a list that recalls it and keeps to the limit. -/
theorem exists_recalls (lifetime capacity : Int) (calls : List (Int × StoreCall α)) :
    ∃ l : RecencyList α, (runCalls call { lifetime, capacity } calls).2.Represents l ∧
      l.Recalls calls ∧ l.lifetime = lifetime ∧ l.Bounded capacity := by
  induction calls using List.reverseRecOn with
  | nil =>
    exact ⟨_, .empty lifetime capacity, by simp [RecencyList.Recalls], rfl, rfl,
      fun hc => Int.le_of_lt hc⟩
  | append_singleton calls c ih =>
    obtain ⟨l, h, hrecalls, hlifetime, hbounded⟩ := ih
    obtain ⟨hlifetime', -⟩ := l.limits_call c.1 c.2
    rw [runCalls_append]
    exact ⟨_, (h.call c.1 c.2).2, hrecalls.concat c.1 c.2, hlifetime'.trans hlifetime,
      hbounded.call c.1 c.2⟩

/-- A call that uses a key leaves what was written last under it behind all the rest. -/
theorem exists_retains_of_used (lifetime capacity : Int) (earlier : List (Int × StoreCall α))
    (access : Int × StoreCall α) {key : String} :
    let before := (runCalls call { lifetime, capacity } earlier).2
    access.2.used? (before.call access.1 access.2).1 = some key →
    ∃ (l : RecencyList α) (i : RecencyItem α) (w : StoreWrite α),
      (before.call access.1 access.2).2.Represents l ∧ l.lifetime = lifetime ∧
      l.capacity = capacity ∧ (∀ used, RecencyList.Retains used i l.items) ∧ i.key = key ∧
      StoreCall.lastWrite lifetime key (earlier ++ [access]) = some w ∧ w.value = i.value ∧
      w.expiry lifetime = .ok i.expiry := by
  intro before hused
  obtain ⟨l, h, hrecalls, hlifetime, hbounded⟩ := exists_recalls lifetime capacity earlier
  obtain ⟨hanswer, hnext⟩ := h.call access.1 access.2
  rw [hanswer] at hused
  obtain ⟨front, i, hitems, rfl⟩ := RecencyList.exists_last_of_used hused
  have hretains : ∀ used, RecencyList.Retains used i (l.call access.1 access.2).2.items := by
    intro used
    rw [hitems]
    exact .last ..
  obtain ⟨w, hw, hvalue, hexpiry⟩ := hrecalls.concat access.1 access.2 i (hretains ∅).mem
  obtain ⟨hlifetime', hcapacity'⟩ := l.limits_call access.1 access.2
  rw [hlifetime', hlifetime] at hw hexpiry
  exact ⟨_, i, w, hnext, hlifetime'.trans hlifetime, hcapacity'.trans hbounded.1, hretains, rfl, hw,
    hvalue, hexpiry⟩

end TimedStore

/-- What is found under a key is what was written there last, and nothing is found once that has been
deleted; what the store refused to write was not written. A value is found as long as it lives, if
since its key was last used fewer other keys have been used than the store may hold, and the key has
been spared. -/
theorem recently_used_retained (lifetime capacity : Int) (calls : List (Int × StoreCall α))
    (key : String) :
    let empty : TimedStore α := { lifetime, capacity }
    let s := (runCalls TimedStore.call empty calls).2
    (∀ now value, (s.get now key).1 = some value →
      ∃ w, StoreCall.lastWrite lifetime key calls = some w ∧ w.value = value) ∧
    ∀ earlier access since, calls = earlier ++ access :: since →
      let used := (runCalls TimedStore.call empty earlier).2.call access.1 access.2
      let later := StoreCall.usedKeys since (runCalls TimedStore.call used.2 since).1
      access.2.used? used.1 = some key → ((later.toFinset.erase key).card : Int) < capacity →
      (∀ c ∈ since, StoreCall.Spares lifetime key c) →
      ∀ w, StoreCall.lastWrite lifetime key calls = some w →
      ∀ now, (∀ moment ∈ now :: since.map Prod.fst, w.Live lifetime moment) →
        (s.get now key).1 = some w.value := by
  intro empty s
  constructor
  · intro now value hget
    obtain ⟨l, h, hrecalls, rfl, -⟩ := TimedStore.exists_recalls lifetime capacity calls
    rw [(h.get now key).1] at hget
    obtain ⟨i, hi, rfl, rfl⟩ := RecencyList.exists_of_get hget
    obtain ⟨w, hw, hvalue, -⟩ := hrecalls i hi
    exact ⟨w, hw, hvalue⟩
  · intro earlier access since hcalls used later hused hroom hspares w hw now hlive
    obtain ⟨l, i, w', h, rfl, hcapacity, hretains, rfl, hw', hvalue, hexpiry⟩ :=
      TimedStore.exists_retains_of_used lifetime capacity earlier access hused
    obtain rfl : w' = w := by
      rw [hcalls, List.append_cons, StoreCall.lastWrite_append hspares, hw'] at hw
      exact Option.some.inj hw
    rw [List.forall_mem_cons] at hlive
    have hlives : ∀ moment, w'.Live l.lifetime moment → i.isExpired moment = false := by
      intro moment hmoment
      rw [RecencyItem.isExpired, Option.any_eq_false]
      intro last hlast
      simpa using hmoment last (hlast ▸ hexpiry)
    have hroom' : ((later.toFinset.erase i.key).card : Int) < l.capacity := by rwa [hcapacity]
    obtain ⟨l', h', hretains'⟩ := h.retains_run (hretains _) hroom' hspares
      (fun c hc => hlives c.1 (hlive.2 c.1 (List.mem_map_of_mem hc)))
      fun k hk hne => Finset.mem_erase.2 ⟨hne, List.mem_toFinset.2 hk⟩
    have hs : s = (runCalls TimedStore.call used.2 since).2 := by
      simp only [s, hcalls, runCalls_append]
      rfl
    rw [hs, (h'.get now i.key).1, hvalue]
    exact RecencyList.get_of_mem h'.items_nodup hretains'.mem (hlives now hlive.1)

/-- In a store of two, a value that was found once more outlasts one that was written after it. It is
found at the last moment of its life, though a write with a lifetime beyond the calendar was tried. -/
theorem recently_used_retained_twice :
    let empty : TimedStore Nat := { lifetime := 9, capacity := 2 }
    let earlier : List (Int × StoreCall Nat) :=
      [(0, .set "a" 1 (some 5)), (1, .set "b" 2 none), (2, .contains "a")]
    let since : List (Int × StoreCall Nat) := [(3, .set "c" 3 none), (4, .get "b"), (1, .get "c"),
      (2, .set "a" 4 (some 1000000000000))]
    let calls := earlier ++ (3, .get "a") :: since
    let s := (runCalls TimedStore.call empty calls).2
    let used := (runCalls TimedStore.call empty earlier).2.call 3 (.get "a")
    let later := StoreCall.usedKeys since (runCalls TimedStore.call used.2 since).1
    let w : StoreWrite Nat := ⟨0, 1, some 5⟩
    StoreCall.used? (.get "a") used.1 = some "a" ∧ (later.toFinset.erase "a").card = 1 ∧
      (∀ c ∈ since, StoreCall.Spares 9 "a" c) ∧ StoreCall.lastWrite 9 "a" calls = some w ∧
      (∀ moment ∈ 5 :: since.map Prod.fst, w.Live 9 moment) ∧ (s.get 5 "a").1 = some 1 ∧
      StoreCall.lastWrite 9 "b" calls = some ⟨1, 2, none⟩ ∧ (s.get 5 "b").1 = none := by
  intro empty earlier since calls s used later w
  have hused : StoreCall.used? (.get "a") used.1 = some "a" := by decide
  have hcard : (later.toFinset.erase "a").card = 1 := by decide
  have hrefused : StoreWrite.isTaken (⟨2, 4, some 1000000000000⟩ : StoreWrite Nat) 9 = false := by decide
  have hspares : ∀ c ∈ since, StoreCall.Spares 9 "a" c := by
    simpa [since, StoreCall.Spares] using hrefused
  have hwrite : StoreCall.lastWrite 9 "a" calls = some w := by rfl
  have hexpiry : w.expiry 9 = .ok (some 5) := by rfl
  have hlive : ∀ moment ∈ 5 :: since.map Prod.fst, w.Live 9 moment := by
    simp [since, StoreWrite.Live, hexpiry]
  obtain ⟨-, hretained⟩ := recently_used_retained 9 2 calls "a"
  have hget := hretained earlier (3, .get "a") since rfl hused (by rw [hcard]; decide) hspares w
    hwrite 5 hlive
  exact ⟨hused, hcard, hspares, hwrite, hlive, hget, rfl, by decide⟩

end StreamLabel

import StreamLabel.Proofs.Store.Retention
import StreamLabel.Proofs.Store.Transparent

/-!
# When an entry expires

What is stored expires when the lifetime that counts for its last write is over: the own one, unless
that is absent or zero, and then that of the store. All calls that tell say so alike, and an entry that
is there no more was either over by then or has made room (`reported_expired_iff`). A write that was
refused does not count. A write cannot ask for a value that lives for ever in a store with a lifetime,
since zero counts as nothing said (`exists_expired_though_for_ever`).
-/

namespace StreamLabel

variable {α : Type}

theorem Moment.eq_of_after {now seconds moment : Int} (h : Moment.after now seconds = .ok moment) :
    moment = now + seconds := by
  rw [Moment.after] at h
  rcases hspan : Moment.span seconds with o | span <;> rw [hspan] at h
  · cases h
  · have hsame : span = seconds := by
      rw [Moment.span] at hspan
      split at hspan
      · cases hspan
      · split at hspan
        · cases hspan
        · exact (Except.ok.inj hspan).symm
    simp only [bind, Except.bind, hsame] at h
    split at h
    · exact (Except.ok.inj h).symm
    · cases h

/-! ### Lifetimes -/

namespace StoreWrite

/-- The lifetime that was asked for: the own one, also if it is zero, and without one that of the
store. -/
def askedLifetime (w : StoreWrite α) (lifetime : Int) : Int := w.lifetime.getD lifetime

/-- The lifetime that counts: an own one of zero counts as none. -/
def countedLifetime (w : StoreWrite α) (lifetime : Int) : Int :=
  if w.lifetime.getD 0 = 0 then lifetime else w.lifetime.getD 0

/-- A lifetime from the write on is over; one of zero never is. -/
def isOver (w : StoreWrite α) (lifetime now : Int) : Bool :=
  lifetime ≠ 0 && w.moment + lifetime < now

variable {w : StoreWrite α} {lifetime now later : Int}

theorem isOver_eq_true_iff (h : 0 ≤ lifetime) :
    w.isOver lifetime now = true ↔ 0 < lifetime ∧ w.moment + lifetime < now := by
  simp only [isOver, Bool.and_eq_true, decide_eq_true_eq]
  omega

/-- What is over stays over. -/
theorem isOver_of_le (h : w.isOver lifetime now = true) (hle : now ≤ later) :
    w.isOver lifetime later = true := by
  simp only [isOver, Bool.and_eq_true, decide_eq_true_eq] at h ⊢
  omega

theorem any_expiry {expiry : Option Int} (h : w.expiry lifetime = .ok expiry) (now : Int) :
    expiry.any (· < now) = w.isOver (w.countedLifetime lifetime) now := by
  unfold StoreWrite.expiry at h
  unfold isOver countedLifetime
  dsimp only at h
  generalize (if w.lifetime.getD 0 = 0 then lifetime else w.lifetime.getD 0) = counted at h ⊢
  split at h
  · rename_i hzero
    obtain rfl := Except.ok.inj h
    simp [hzero]
  · rename_i hne
    cases hafter : Moment.after w.moment counted with
    | error o => rw [hafter] at h; cases h
    | ok moment =>
      rw [hafter] at h
      obtain rfl := Except.ok.inj h
      simp [Moment.eq_of_after hafter, hne]

/-- The lifetime asked for is the one that counts, unless it is a zero that a store with a lifetime
passes over. -/
theorem isOver_counted_iff_asked (hlifetime : 0 ≤ lifetime) (hown : ∀ t ∈ w.lifetime, 0 ≤ t) :
    (∀ now, w.isOver (w.countedLifetime lifetime) now = true ↔
      0 < w.askedLifetime lifetime ∧ w.moment + w.askedLifetime lifetime < now) ↔
    ¬ (w.lifetime = some 0 ∧ 0 < lifetime) := by
  unfold countedLifetime askedLifetime
  constructor
  · rintro h ⟨hzero, hpos⟩
    have hnow := h (w.moment + lifetime + 1)
    rw [hzero, isOver_eq_true_iff (by simpa using hlifetime)] at hnow
    simp only [Option.getD_some, ↓reduceIte] at hnow
    omega
  · intro h now
    cases hw : w.lifetime with
    | none =>
      simp only [Option.getD_none, ↓reduceIte]
      exact isOver_eq_true_iff hlifetime
    | some t =>
      have ht : 0 ≤ t := hown t hw
      simp only [Option.getD_some]
      split
      · rename_i hzero
        have hnone : lifetime = 0 := by
          by_contra hne
          exact h ⟨by rw [hw, hzero], by omega⟩
        simp [isOver, hzero, hnone]
      · exact isOver_eq_true_iff ht

end StoreWrite

/-! ### Entries -/

namespace TimedStore

variable {s : TimedStore α} {e : TimedEntry α} {now : Int}

theorem get_of_expired (h : s.find? e.key = some e) (hexpired : e.isExpired now = true) :
    (s.get now e.key).1 = none := by
  simp [get, h, hexpired]

/-- What stands in a store is what was written there last. -/
theorem exists_write (lifetime capacity : Int) (calls : List (Int × StoreCall α))
    (he : e ∈ (runCalls call { lifetime, capacity } calls).2.entries) :
    ∃ w, StoreCall.lastWrite lifetime e.key calls = some w ∧ w.value = e.value ∧
      ∀ now, e.isExpired now = w.isOver (w.countedLifetime lifetime) now := by
  obtain ⟨l, h, hrecalls, rfl, -⟩ := exists_recalls lifetime capacity calls
  obtain ⟨es, hes, -, hitems⟩ := h.order
  have hmem : e.item ∈ l.items := hitems ▸ List.mem_map_of_mem (hes.symm.subset he)
  obtain ⟨w, hw, hvalue, hexpiry⟩ := hrecalls e.item hmem
  refine ⟨w, hw, hvalue, fun now => ?_⟩
  exact StoreWrite.any_expiry hexpiry now

/-- In a run with the given calls, the key made room: it left a full store, in which nothing was
expired, when a new key came in, and has been spared since. -/
def MadeRoom (lifetime capacity : Int) (calls : List (Int × StoreCall α)) (key : String) : Prop :=
  ∃ earlier moment new value own since,
    calls = earlier ++ (moment, .set new value own) :: since ∧
    StoreWrite.isTaken ⟨moment, value, own⟩ lifetime = true ∧
    (∀ c ∈ since, StoreCall.Spares lifetime key c) ∧
    let s := (runCalls call { lifetime, capacity } earlier).2
    key ∈ s.keys ∧ new ∉ s.keys ∧ (s.size : Int) = capacity ∧
      ∀ e ∈ s.entries, e.isExpired moment = false

theorem MadeRoom.concat {lifetime capacity : Int} {calls : List (Int × StoreCall α)} {key : String}
    (h : MadeRoom lifetime capacity calls key) {c : Int × StoreCall α}
    (hc : StoreCall.Spares lifetime key c) :
    MadeRoom lifetime capacity (calls ++ [c]) key := by
  obtain ⟨earlier, moment, new, value, own, since, rfl, htaken, hspares, hroom⟩ := h
  refine ⟨earlier, moment, new, value, own, since ++ [c], by simp, htaken, ?_, hroom⟩
  rw [List.forall_mem_append, List.forall_mem_singleton]
  exact ⟨hspares, hc⟩

/-- A key that is spared by a call and goes away was over or makes room. -/
theorem over_or_madeRoom_of_call (lifetime capacity : Int) (calls : List (Int × StoreCall α))
    {c : Int × StoreCall α} {key : String} {w : StoreWrite α} :
    let s := (runCalls call { lifetime, capacity } calls).2
    StoreCall.lastWrite lifetime key calls = some w → StoreCall.Spares lifetime key c →
    key ∈ s.keys →
    key ∉ (s.call c.1 c.2).2.keys →
    w.isOver (w.countedLifetime lifetime) c.1 = true ∨
      MadeRoom lifetime capacity (calls ++ [c]) key := by
  intro s hw hspares hkey hgone
  obtain ⟨e, he, rfl⟩ := List.mem_map.1 hkey
  obtain ⟨w', hw', -, hexpired⟩ := exists_write lifetime capacity calls he
  obtain rfl : w' = w := Option.some.inj (hw'.symm.trans hw)
  rw [← hexpired]
  refine or_iff_not_imp_left.2 fun hlive => ?_
  obtain ⟨l, h, -, hlifetime, hcapacity, hlength⟩ := exists_recalls lifetime capacity calls
  have hsize : 0 < s.capacity → (s.size : Int) ≤ s.capacity := by
    rw [← h.capacity_eq, hcapacity, size, ← h.order.length_eq]
    exact hlength
  obtain ⟨now, c⟩ := c
  rcases gone_of_live h hsize c he (by simpa using hlive) hgone with
    rfl | rfl | ⟨new, value, own, expiry, rfl, hexpiry, hnew, hfull, hnone⟩
  · exact hspares.elim
  · exact absurd rfl hspares
  · rw [← h.expiryFor_eq] at hexpiry
    have htaken := (RecencyList.isTaken_iff value).2 ⟨expiry, hexpiry⟩
    rw [hlifetime] at htaken
    refine ⟨calls, now, new, value, own, [], rfl, htaken, by simp, hkey, hnew, ?_, hnone⟩
    rw [hfull, ← h.capacity_eq, hcapacity]

/-- What a store takes is there. -/
theorem mem_keys_of_taken (lifetime capacity : Int) (calls : List (Int × StoreCall α)) {now : Int}
    {key : String} {value : α} {own : Option Int}
    (h : StoreWrite.isTaken ⟨now, value, own⟩ lifetime = true) :
    key ∈ ((runCalls call { lifetime, capacity } calls).2.call now (.set key value own)).2.keys := by
  obtain ⟨l, hl, -, rfl, -⟩ := exists_recalls lifetime capacity calls
  obtain ⟨expiry, hexpiry⟩ := (RecencyList.isTaken_iff value).1 h
  rw [hl.expiryFor_eq] at hexpiry
  rw [call, set, hexpiry]
  simp [StoreAnswer.ofWrite, Except.map, put, keys]

/-- After every run, what was written last under a key is there, or its lifetime is over, or it has
made room. -/
theorem stored_or_over_or_madeRoom (lifetime capacity : Int) {calls : List (Int × StoreCall α)}
    {now : Int} (hclock : ∀ c ∈ calls, c.1 ≤ now) {key : String} {w : StoreWrite α}
    (hw : StoreCall.lastWrite lifetime key calls = some w) :
    key ∈ (runCalls call { lifetime, capacity } calls).2.keys ∨
      w.isOver (w.countedLifetime lifetime) now = true ∨ MadeRoom lifetime capacity calls key := by
  induction calls using List.reverseRecOn with
  | nil => cases hw
  | append_singleton calls c ih =>
    rw [List.forall_mem_append, List.forall_mem_singleton] at hclock
    rw [StoreCall.lastWrite_concat] at hw
    rw [runCalls_append]
    by_cases hspares : StoreCall.Spares lifetime key c
    · rw [StoreCall.noteWrite_of_spares hspares] at hw
      rcases ih hclock.1 hw with hkey | hover | hroom
      · refine or_iff_not_imp_left.2 fun hgone => ?_
        exact (over_or_madeRoom_of_call lifetime capacity calls hw hspares hkey hgone).imp_left
          fun hover => w.isOver_of_le hover hclock.2
      · exact .inr (.inl hover)
      · exact .inr (.inr (hroom.concat hspares))
    · -- the call writes under the key, or nothing would be there
      obtain ⟨moment, c⟩ := c
      cases c with
      | set k value own =>
        obtain ⟨rfl, htaken⟩ := Classical.not_imp.1 hspares
        exact .inl (mem_keys_of_taken lifetime capacity calls (by simpa using htaken))
      | delete k =>
        obtain rfl : k = key := not_not.1 hspares
        simp [StoreCall.noteWrite] at hw
      | clear => cases hw
      | get | contains | size | stats => exact absurd trivial hspares

end TimedStore

/-- In every run, an entry is reported as expired exactly when the lifetime that counts for its write
is over, be it asked for, looked at or counted, and what is there no more was over or has made room.
The lifetime that counts is the one that was asked for, unless that is an own one of zero in a store
that has a lifetime. -/
theorem reported_expired_iff (lifetime capacity : Int) (calls : List (Int × StoreCall α)) (now : Int)
    (clock : ∀ c ∈ calls, c.1 ≤ now) :
    let s := (runCalls TimedStore.call { lifetime, capacity } calls).2
    (s.stats now).expired = (s.keys.filter fun key =>
      (StoreCall.lastWrite lifetime key calls).any fun w =>
        w.isOver (w.countedLifetime lifetime) now).length ∧
    ∀ key w, StoreCall.lastWrite lifetime key calls = some w →
      (key ∈ s.keys →
        ((s.get now key).1 = none ↔ w.isOver (w.countedLifetime lifetime) now = true) ∧
        (s.contains now key = false ↔ w.isOver (w.countedLifetime lifetime) now = true)) ∧
      (key ∉ s.keys → w.isOver (w.countedLifetime lifetime) now = true ∨
        TimedStore.MadeRoom lifetime capacity calls key) ∧
      (0 ≤ lifetime → (∀ t ∈ w.lifetime, 0 ≤ t) →
        ((∀ moment, w.isOver (w.countedLifetime lifetime) moment = true ↔
          0 < w.askedLifetime lifetime ∧ w.moment + w.askedLifetime lifetime < moment) ↔
        ¬ (w.lifetime = some 0 ∧ 0 < lifetime))) := by
  intro s
  constructor
  · rw [TimedStore.stats, TimedStore.keys, List.filter_map, List.length_map]
    refine congrArg List.length (List.filter_congr fun e he => ?_)
    obtain ⟨w, hw, -, hexpired⟩ := TimedStore.exists_write lifetime capacity calls he
    rw [Function.comp_apply, hw, hexpired, Option.any_some]
  · intro key w hw
    refine ⟨fun hkey => ?_, fun hkey => ?_, StoreWrite.isOver_counted_iff_asked⟩
    · obtain ⟨e, he, rfl⟩ := List.mem_map.1 hkey
      obtain ⟨w', hw', -, hexpired⟩ := TimedStore.exists_write lifetime capacity calls he
      obtain rfl : w' = w := Option.some.inj (hw'.symm.trans hw)
      obtain ⟨l, h, -⟩ := TimedStore.exists_recalls lifetime capacity calls
      have hfind : s.find? e.key = some e := (TimedStore.find?_eq_some_iff h.keys_nodup).2 ⟨he, rfl⟩
      rw [← hexpired, TimedStore.contains, hfind]
      cases hover : e.isExpired now with
      | true => simp [TimedStore.get_of_expired hfind hover, hover]
      | false => simp [TimedStore.get_of_live hfind hover, hover]
    · exact (TimedStore.stored_or_over_or_madeRoom lifetime capacity clock hw).resolve_left hkey

/-- In a store of two with the lifetime nine, a value with a lifetime of its own is over after it and
still counts as stored, since the next write under its key was refused, while one that asked to live
for ever has made room; it would not have lived for ever either. -/
theorem reported_expired_iff_full :
    let calls : List (Int × StoreCall Nat) :=
      [(0, .set "a" 1 (some 0)), (2, .set "b" 2 (some 5)), (3, .contains "a"),
        (4, .set "b" 4 (some 1000000000000)), (7, .set "c" 3 none)]
    let s := (runCalls TimedStore.call { lifetime := 9, capacity := 2 } calls).2
    let a : StoreWrite Nat := ⟨0, 1, some 0⟩
    let b : StoreWrite Nat := ⟨2, 2, some 5⟩
    (∀ c ∈ calls, c.1 ≤ 8) ∧ StoreCall.lastWrite 9 "a" calls = some a ∧
      StoreCall.lastWrite 9 "b" calls = some b ∧
      (s.stats 8).expired = 1 ∧ (s.get 8 "b").1 = none ∧ s.contains 8 "b" = false ∧
      TimedStore.MadeRoom 9 2 calls "a" ∧
      ¬ ∀ moment, a.isOver (a.countedLifetime 9) moment = true ↔
        0 < a.askedLifetime 9 ∧ a.moment + a.askedLifetime 9 < moment := by
  intro calls s a b
  have clock : ∀ c ∈ calls, c.1 ≤ 8 := by decide
  have ha : StoreCall.lastWrite 9 "a" calls = some a := rfl
  have hb : StoreCall.lastWrite 9 "b" calls = some b := rfl
  obtain ⟨hcount, hreported⟩ := reported_expired_iff 9 2 calls 8 clock
  obtain ⟨-, hgone, hasked⟩ := hreported "a" a ha
  obtain ⟨hthere, -⟩ := hreported "b" b hb
  obtain ⟨hget, hcontains⟩ := hthere (by decide)
  have hover : b.isOver (b.countedLifetime 9) 8 = true := rfl
  refine ⟨clock, ha, hb, hcount.trans (by decide), hget.2 hover, hcontains.2 hover, ?_, ?_⟩
  · exact (hgone (by decide)).resolve_left (by decide)
  · rw [hasked (by decide) (by simp [a])]
    exact not_not.2 ⟨rfl, by decide⟩

/-- A value that asks to live for ever expires with the lifetime of its store. -/
theorem exists_expired_though_for_ever :
    ¬ ∀ (lifetime capacity : Int) (calls : List (Int × StoreCall Nat)) (now : Int) (key : String)
      (w : StoreWrite Nat), 0 ≤ lifetime → (∀ c ∈ calls, c.1 ≤ now) → (∀ t ∈ w.lifetime, 0 ≤ t) →
      let s := (runCalls TimedStore.call { lifetime, capacity } calls).2
      StoreCall.lastWrite lifetime key calls = some w → key ∈ s.keys →
        (s.contains now key = false ↔
          0 < w.askedLifetime lifetime ∧ w.moment + w.askedLifetime lifetime < now) := by
  intro h
  have hexpired := h 60 1024 [(0, .set "k" 1 (some 0))] 61 "k" ⟨0, 1, some 0⟩ (by decide) (by decide)
    (by simp) rfl (by decide)
  revert hexpired
  decide

end StreamLabel

import Mathlib.Data.Set.List
import StreamLabel.Metadata.Groups
import StreamLabel.Proofs.Render.CanonicalText

/-!
# Typed and plain metadata

Metadata that is well typed already is read by its schema as it stands (`FieldKind.accept_eq`), up to
what is missing: a field that holds a list becomes an empty one there, and stays away in plain
metadata. An empty list has the text of a missing value, so only comparisons and sizes can tell the
two apart (`typed_renders_as_plain`).
-/

namespace StreamLabel

/-! ### Values of a declared type -/

def Value.isText : Value → Bool
  | .text _ => true
  | _ => false

theorem Value.exists_texts {items : List Value} (h : items.all Value.isText = true) :
    ∃ ss : List String, ss.map .text = items := by
  refine Set.mem_range.1 ?_
  rw [Set.range_list_map]
  intro v hv
  have htext := List.all_eq_true.1 h v hv
  cases v with
  | text s => exact ⟨s, rfl⟩
  | null | bool | int | float | bytes | list | table => cases htext

namespace FieldKind

/-- The value has the type that the kind declares. Of the kinds only the list cannot be null. -/
def admits : FieldKind → Value → Bool
  | .text, .text _ | .whole, .int _ | .truth, .bool _ => true
  | .size, .int n => 0 ≤ n
  | .texts, .list items => items.all Value.isText
  | .texts, .null => false
  | _, .null => true
  | _, _ => false

/-- The value of a field that is not given. -/
def missing (k : FieldKind) : Value := if k = .texts then .list [] else .null

variable {k : FieldKind} {v : Value}

theorem toTexts_texts (ss : List String) : toTexts (ss.map .text) = .ok ss := by
  have hresults : (ss.map Value.text).map toText = ss.map .ok := by
    rw [List.map_map]
    rfl
  unfold toTexts
  dsimp only
  rw [hresults, if_pos]
  · rw [List.filterMap_map]
    exact congrArg Except.ok List.filterMap_some
  · rw [List.isEmpty_iff, List.filterMap_eq_nil_iff]
    rintro ⟨result, i⟩ h
    obtain ⟨s, -, rfl⟩ := List.mem_map.1 (List.fst_mem_of_mem_zipIdx h)
    rfl

/-- A value of the declared type is taken as it is. -/
theorem accept_eq (h : k.admits v = true) : k.accept v = .ok v := by
  cases k <;> cases v <;> try first | rfl | cases h
  case size.int n =>
    have hn : 0 ≤ n := by simpa [admits] using h
    simp only [accept, toSize, toWhole]
    rw [if_neg (by omega)]
    rfl
  case texts.list items =>
    obtain ⟨ss, rfl⟩ := Value.exists_texts h
    simp only [accept, toTexts_texts]

end FieldKind

/-! ### Mappings -/

namespace Properties
variable {ps qs : Properties} {name : String} {v : Value}

/-- The names that something stands under. -/
def names (ps : Properties) : List String := ps.map Prod.fst

/-- What a name stands for; a name without a value is absent. -/
def classify (ps : Properties) (name : String) : Except Unwritable Resolved :=
  match ps.lookup name with
  | some v => v.classify
  | none => .ok .absent

theorem lookup_eq_some_iff (h : ps.names.Nodup) : ps.lookup name = some v ↔ (name, v) ∈ ps := by
  rw [List.lookup_eq_some_iff]
  constructor
  · rintro ⟨before, after, rfl, -⟩
    simp
  · intro hmem
    obtain ⟨before, after, rfl⟩ := List.append_of_mem hmem
    refine ⟨before, after, rfl, fun p hp => ?_⟩
    rw [names, List.map_append, List.nodup_append] at h
    have hne := h.2.2 p.1 (List.mem_map_of_mem hp) name (by simp)
    simpa using hne.symm

theorem isSome_lookup_iff : (ps.lookup name).isSome = true ↔ name ∈ ps.names := by
  rw [List.lookup_isSome_iff, names, List.mem_map]
  refine exists_congr fun p => and_congr_right fun _ => ?_
  rw [beq_iff_eq, eq_comm]

theorem lookup_eq_none_iff : ps.lookup name = none ↔ name ∉ ps.names := by
  rw [← isSome_lookup_iff, Option.not_isSome_iff_eq_none]

theorem mem_dropNulls : (name, v) ∈ dropNulls ps ↔ (name, v) ∈ ps ∧ v ≠ .null := by
  rw [dropNulls, List.mem_filter]
  cases v <;> simp

theorem nodup_dropNulls (h : ps.names.Nodup) : (names (dropNulls ps)).Nodup :=
  h.sublist (List.filter_sublist.map _)

end Properties

/-! ### Reading by a schema -/

/-- The properties have the types that the schema declares: no name stands twice, the fields are given
under their names with values of their kinds, and nothing else has the spelling of a field with low
lines. -/
structure Schema.WellTyped (s : Schema) (ps : Properties) : Prop where
  nodup : ps.names.Nodup
  admits : ∀ f ∈ s, ∀ v ∈ ps.lookup f.name, f.kind.admits v = true
  no_plainName : ∀ f ∈ s, f.plainName ≠ f.name → f.plainName ∉ ps.names

instance (s : Schema) (ps : Properties) : Decidable (s.WellTyped ps) :=
  decidable_of_iff (ps.names.Nodup ∧ (∀ f ∈ s, ∀ v ∈ ps.lookup f.name, f.kind.admits v = true) ∧
    ∀ f ∈ s, f.plainName ≠ f.name → f.plainName ∉ ps.names)
    ⟨fun h => ⟨h.1, h.2.1, h.2.2⟩, fun h => ⟨h.nodup, h.admits, h.no_plainName⟩⟩

/-- The fields, with something in place of what is missing, and then what belongs to no field. -/
def Schema.filled (s : Schema) (ps : Properties) : Properties :=
  s.map (fun f => (f.name, (ps.lookup f.name).getD f.kind.missing)) ++
    ps.filter fun p => p.1 ∉ s.map Field.name

namespace Schema.WellTyped
variable {s : Schema} {ps : Properties} {f : Field} {name : String} {v : Value}

theorem key?_eq (h : s.WellTyped ps) (hf : f ∈ s) :
    f.key? ps = if f.name ∈ ps.names then some f.name else none := by
  rw [Field.key?]
  split
  · rename_i hname
    exact List.find?_cons_of_pos (Properties.isSome_lookup_iff.2 hname)
  · rename_i hname
    have hplain : f.plainName ∉ ps.names := by
      by_cases heq : f.plainName = f.name
      · rwa [heq]
      · exact h.no_plainName f hf heq
    refine List.find?_eq_none.2 fun key hkey => ?_
    rw [Properties.isSome_lookup_iff]
    simp only [List.mem_cons, List.not_mem_nil, or_false] at hkey
    rcases hkey with rfl | rfl
    · exact hname
    · exact hplain

/-- A field that is given is read as it stands. -/
theorem field_read_eq (h : s.WellTyped ps) (hf : f ∈ s) :
    f.read ps = .ok ((ps.lookup f.name).getD f.kind.missing) := by
  rw [Field.read, h.key?_eq hf]
  cases hv : ps.lookup f.name with
  | none =>
    rw [if_neg (Properties.lookup_eq_none_iff.1 hv)]
    rfl
  | some v =>
    have hname : f.name ∈ ps.names := Properties.isSome_lookup_iff.1 (by rw [hv]; rfl)
    rw [if_pos hname, Option.bind_some, hv, Option.map_some]
    dsimp only
    rw [FieldKind.accept_eq (h.admits f hf v hv)]
    rfl

theorem readFields_eq {fs : Schema} {g : Field → Value} (h : ∀ f ∈ fs, f.read ps = .ok (g f)) :
    Schema.readFields ps fs = .ok (fs.map fun f => (f.name, g f)) := by
  induction fs with
  | nil => rfl
  | cons f fs ih =>
    rw [List.forall_mem_cons] at h
    rw [Schema.readFields, h.1, ih h.2]
    rfl

/-- What belongs to no field is kept. -/
theorem extras_eq (h : s.WellTyped ps) :
    s.extras ps = ps.filter fun p => p.1 ∉ s.map Field.name := by
  rw [Schema.extras]
  refine List.filter_congr fun p hp => ?_
  have hname : p.1 ∈ ps.names := List.mem_map_of_mem hp
  rw [Bool.eq_iff_iff, decide_eq_true_iff, Bool.not_eq_true', List.contains_eq_mem,
    decide_eq_false_iff_not, not_iff_not, List.mem_filterMap, List.mem_map]
  refine exists_congr fun f => and_congr_right fun hf => ?_
  rw [h.key?_eq hf]
  constructor
  · intro hkey
    split at hkey
    · exact Option.some.inj hkey
    · cases hkey
  · intro heq
    rw [if_pos (heq ▸ hname), heq]

/-- Well-typed properties are read without a fault. -/
theorem read_eq (h : s.WellTyped ps) : s.read ps = .ok (dropNulls (s.filled ps)) := by
  rw [Schema.read, readFields_eq fun f hf => h.field_read_eq hf, h.extras_eq]
  rfl

theorem nodup_filled (h : s.WellTyped ps) (hs : (s.map Field.name).Nodup) :
    (Properties.names (s.filled ps)).Nodup := by
  rw [Properties.names, Schema.filled, List.map_append, List.map_map]
  refine List.nodup_append.2 ⟨hs, h.nodup.sublist (List.filter_sublist.map _), ?_⟩
  rintro name hname _ hother rfl
  obtain ⟨p, hp, rfl⟩ := List.mem_map.1 hother
  exact of_decide_eq_true (List.mem_filter.1 hp).2 hname

theorem mem_filled : (name, v) ∈ s.filled ps ↔
    (∃ f ∈ s, f.name = name ∧ (ps.lookup name).getD f.kind.missing = v) ∨
      (name, v) ∈ ps ∧ name ∉ s.map Field.name := by
  rw [Schema.filled, List.mem_append, List.mem_map, List.mem_filter, decide_eq_true_iff]
  refine or_congr (exists_congr fun f => and_congr_right fun _ => ?_) Iff.rfl
  rw [Prod.mk.injEq]
  exact and_congr_right fun hname => by rw [hname]

/-- What is given is read as it stands. -/
theorem lookup_read_of_mem (h : s.WellTyped ps) (hs : (s.map Field.name).Nodup)
    (hname : name ∈ ps.names) :
    (dropNulls (s.filled ps)).lookup name = (dropNulls ps).lookup name := by
  obtain ⟨w, hw⟩ := Option.isSome_iff_exists.1 (Properties.isSome_lookup_iff.2 hname)
  ext v
  rw [Properties.lookup_eq_some_iff (Properties.nodup_dropNulls (h.nodup_filled hs)),
    Properties.lookup_eq_some_iff (Properties.nodup_dropNulls h.nodup), Properties.mem_dropNulls,
    Properties.mem_dropNulls, mem_filled, ← Properties.lookup_eq_some_iff h.nodup, hw]
  simp only [Option.getD_some, Option.some.injEq]
  refine and_congr_left fun _ => ?_
  constructor
  · rintro (⟨f, -, -, hv⟩ | ⟨hv, -⟩)
    · exact hv
    · exact hv
  · intro hv
    by_cases hfield : name ∈ s.map Field.name
    · obtain ⟨f, hf, hfname⟩ := List.mem_map.1 hfield
      exact .inl ⟨f, hf, hfname, hv⟩
    · exact .inr ⟨hv, hfield⟩

/-- Of what is not given, nothing is read but empty lists. -/
theorem lookup_read_of_not_mem (h : s.WellTyped ps) (hs : (s.map Field.name).Nodup)
    (hname : name ∉ ps.names) :
    (dropNulls (s.filled ps)).lookup name = none ∨
      (dropNulls (s.filled ps)).lookup name = some (.list []) ∧
        ∃ f ∈ s, f.name = name ∧ f.kind = .texts := by
  have hnone := Properties.lookup_eq_none_iff.2 hname
  refine or_iff_not_imp_left.2 fun hsome => ?_
  obtain ⟨v, hv⟩ := Option.ne_none_iff_exists'.1 hsome
  have hmem := hv
  rw [Properties.lookup_eq_some_iff (Properties.nodup_dropNulls (h.nodup_filled hs)),
    Properties.mem_dropNulls, mem_filled, hnone] at hmem
  simp only [Option.getD_none] at hmem
  obtain ⟨⟨f, hf, hfname, rfl⟩ | ⟨hp, -⟩, hnull⟩ := hmem
  · -- a null is dropped again, so the field holds a list
    have hkind : f.kind = .texts := by
      by_contra hkind
      exact hnull (if_neg hkind)
    rw [hv, FieldKind.missing, if_pos hkind]
    exact ⟨rfl, f, hf, hfname, hkind⟩
  · exact absurd (List.mem_map_of_mem hp) hname

end Schema.WellTyped

/-! ### Two ways to give metadata -/

theorem Schema.nodup_names (space : Namespace) : ((Schema.ofSpace space).map Field.name).Nodup := by
  cases space <;> decide

/-- A field of the schema that holds a list and is not given. -/
def Schema.LacksList (s : Schema) (given : Option Properties) (name : String) : Prop :=
  ∃ ps ∈ given, name ∉ ps.names ∧ ∃ f ∈ s, f.name = name ∧ f.kind = .texts

instance (s : Schema) (given : Option Properties) (name : String) :
    Decidable (s.LacksList given name) :=
  inferInstanceAs (Decidable (∃ ps ∈ given, name ∉ ps.names ∧
    ∃ f ∈ s, f.name = name ∧ f.kind = .texts))

/-- Only streams have lists. -/
theorem Schema.LacksList.space_eq {space : Namespace} {given : Option Properties} {name : String}
    (h : (Schema.ofSpace space).LacksList given name) : space = .stream := by
  obtain ⟨_, -, -, f, hf, -, hkind⟩ := h
  revert f
  cases space <;> decide

/-- The group, to be read by its schema or taken as it is. -/
def Metadata.give (typed : Bool) : Option Properties → Metadata
  | none => .missing
  | some ps => if typed then .typed ps else .plain ps

/-- The groups that are given, each in its own way. -/
def Context.given (groups : Namespace → Option Properties) (typed : Namespace → Bool) :
    Except (List FieldError) Context :=
  Context.ofMetadata (.give (typed .stream) (groups .stream)) (.give (typed .provider) (groups .provider))
    (.give (typed .addon) (groups .addon))

namespace Properties

/-- The groups give the same under each name; or it satisfies `P`, and they give values with the same
text. -/
def AgreeBut (P : String → Prop) (ps qs : Properties) : Prop :=
  ∀ name, ps.classify name = qs.classify name ∨
    P name ∧ ∃ v w, ps.classify name = .ok v ∧ qs.classify name = .ok w ∧ v.SameWritten w

namespace AgreeBut
variable {P : String → Prop} {ps qs rs : Properties}

theorem refl (ps : Properties) : AgreeBut P ps ps := fun _ => .inl rfl

theorem trans (h : AgreeBut P ps qs) (h' : AgreeBut P qs rs) : AgreeBut P ps rs := by
  intro name
  rcases h name with heq | ⟨hname, v, w, hv, hw, hvw⟩
  · rw [heq]
    exact h' name
  rcases h' name with heq' | ⟨-, w', x, hw', hx, hwx⟩
  · exact .inr ⟨hname, v, w, hv, heq' ▸ hw, hvw⟩
  · obtain rfl := Except.ok.inj (hw.symm.trans hw')
    exact .inr ⟨hname, v, x, hv, hx, Eq.trans hvw hwx⟩

theorem symm (h : AgreeBut P ps qs) : AgreeBut P qs ps := fun name =>
  (h name).imp Eq.symm fun ⟨hname, v, w, hv, hw, hvw⟩ => ⟨hname, w, v, hw, hv, Eq.symm hvw⟩

end AgreeBut

end Properties

/-- Well-typed properties that are read by their schema agree with those that are taken as they are. -/
theorem Schema.WellTyped.agreeBut {s : Schema} {ps : Properties} (h : s.WellTyped ps)
    (hs : (s.map Field.name).Nodup) :
    Properties.AgreeBut (s.LacksList (some ps)) (dropNulls (s.filled ps)) (dropNulls ps) := by
  intro name
  by_cases hname : name ∈ ps.names
  · exact .inl (by rw [Properties.classify, Properties.classify, h.lookup_read_of_mem hs hname])
  have hplain : List.lookup name (dropNulls ps) = none := by
    refine Properties.lookup_eq_none_iff.2 fun hmem => hname ?_
    exact (List.filter_sublist.map _).subset hmem
  rw [Properties.classify, Properties.classify, hplain]
  rcases h.lookup_read_of_not_mem hs hname with hnone | ⟨hlist, hfield⟩
  · rw [hnone]
    exact .inl rfl
  · have hempty : Value.classify (.list []) = .ok (.text "") := by
      simp [Value.classify, Value.isWritable, Value.isWritableAll, Value.resolve, Value.resolveItems,
        joinWords]
    rw [hlist]
    exact .inr ⟨⟨ps, rfl, hname, hfield⟩, _, _, hempty, rfl, rfl⟩

/-- Whichever way a well-typed group is given, it can be read, and agrees with the plain one. -/
theorem Metadata.exists_properties (space : Namespace) (given : Option Properties)
    (h : ∀ ps ∈ given, (Schema.ofSpace space).WellTyped ps) (typed : Bool) :
    ∃ qs, (Metadata.give typed given).properties space = .ok qs ∧
      Properties.AgreeBut ((Schema.ofSpace space).LacksList given) qs
        (dropNulls (given.getD [])) := by
  cases given with
  | none => exact ⟨[], rfl, .refl _⟩
  | some ps =>
    have hps := h ps rfl
    cases typed with
    | false => exact ⟨_, rfl, .refl _⟩
    | true => exact ⟨_, hps.read_eq, hps.agreeBut (Schema.nodup_names space)⟩

theorem Context.exists_given (groups : Namespace → Option Properties)
    (h : ∀ space, ∀ ps ∈ groups space, (Schema.ofSpace space).WellTyped ps)
    (typed : Namespace → Bool) :
    ∃ c, Context.given groups typed = .ok c ∧ ∀ space,
      Properties.AgreeBut ((Schema.ofSpace space).LacksList (groups space)) (c.properties space)
        (dropNulls ((groups space).getD [])) := by
  obtain ⟨s, hs, hstream⟩ := Metadata.exists_properties .stream _ (h .stream) (typed .stream)
  obtain ⟨p, hp, hprovider⟩ := Metadata.exists_properties .provider _ (h .provider) (typed .provider)
  obtain ⟨a, ha, haddon⟩ := Metadata.exists_properties .addon _ (h .addon) (typed .addon)
  refine ⟨⟨s, p, a⟩, ?_, fun space => ?_⟩
  · rw [Context.given, Context.ofMetadata, hs, hp, ha]
    rfl
  · cases space
    · exact hstream
    · exact hprovider
    · exact haddon

/-- Each group of metadata may be read by its schema or taken as it is: well-typed groups can be read
either way, and a template whose formatters are built in has the same rendering for both, unless it
compares a list of the stream that is not given, or shows it as a size. -/
theorem typed_renders_as_plain (groups : Namespace → Option Properties)
    (h : ∀ space, ∀ ps ∈ groups space, (Schema.ofSpace space).WellTyped ps)
    (typed typed' : Namespace → Bool) :
    ∃ c d, Context.given groups typed = .ok c ∧ Context.given groups typed' = .ok d ∧
      ∀ (r : Renderer) (t : Template), r.BuiltIn t.formatters →
        (∀ ref ∈ t.examined, ref.space = .stream →
          ¬ Schema.stream.LacksList (groups .stream) ref.property) →
        r.render t c = r.render t d := by
  obtain ⟨c, hc, hcplain⟩ := Context.exists_given groups h typed
  obtain ⟨d, hd, hdplain⟩ := Context.exists_given groups h typed'
  refine ⟨c, d, hc, hd, fun r t hnames hexamined => ?_⟩
  have hagree := fun space => (hcplain space).trans (hdplain space).symm
  refine Renderer.renderNodes_eq_of_examined 0 t.nodes hnames (fun ref _ => ?_) fun ref href => ?_
  · rcases hagree ref.space ref.property with heq | ⟨-, v, w, hv, hw, hvw⟩
    · exact .of_eq (fun _ => rfl) heq
    · exact .ok hv hw hvw
  · refine .of_eq Resolved.Indistinct.refl ((hagree ref.space ref.property).resolve_right ?_)
    rintro ⟨hlacks, -⟩
    have hspace := hlacks.space_eq
    rw [hspace] at hlacks
    exact hexamined ref href hspace hlacks

/-- A list that is not given is shown in capitals and searched for a pattern; one that is given is
compared. -/
theorem typed_renders_as_plain_missing_list :
    let groups : Namespace → Option Properties
      | .stream => some [("title", .null), ("size", .int 5), ("extra", .table [("a", .null)]),
          ("audioTags", .list [.text "AAC", .text "DTS"])]
      | .provider => none
      | .addon => some [("id", .text "x"), ("none", .null)]
    let tags : Reference := ⟨.stream, "visualTags"⟩
    let t : Template := ⟨[.formatted {} tags "upper",
      .choice {} tags (.regex "^$") [.formatted {} ⟨.stream, "size"⟩ "size"] [],
      .choice {} ⟨.stream, "audioTags"⟩ (.compare .eq "AAC DTS") [.value {} ⟨.stream, "extra"⟩] []], ""⟩
    ∃ c d, Context.given groups (fun _ => true) = .ok c ∧
      Context.given groups (fun _ => false) = .ok d ∧
      (c.value? tags).isSome = true ∧ (d.value? tags).isSome = false ∧
      Renderer.render ⟨.builtIn, 1⟩ t c = Renderer.render ⟨.builtIn, 1⟩ t d := by
  intro groups tags t
  have h : ∀ space, ∀ ps ∈ groups space, (Schema.ofSpace space).WellTyped ps := by
    rintro (_ | _ | _) ps hps
    · obtain rfl := Option.some.inj hps
      decide
    · cases hps
    · obtain rfl := Option.some.inj hps
      decide
  obtain ⟨c, d, hc, hd, hrender⟩ :=
    typed_renders_as_plain groups h (fun _ => true) fun _ => false
  refine ⟨c, d, hc, hd, ?_, ?_, hrender _ t ?_ ?_⟩
  · obtain rfl := Except.ok.inj (hc.symm.trans rfl)
    rfl
  · obtain rfl := Except.ok.inj (hd.symm.trans rfl)
    rfl
  · exact fun _ _ _ hf => List.mem_of_find?_eq_some hf
  · decide

end StreamLabel

import StreamLabel.Proofs.Session.Nesting
import StreamLabel.Proofs.Template.Place

/-!
# References that the catalog lacks

A template may refer to anything. The references that the catalog lacks are found at every depth and
in both branches, and listed once each, in the order in which they first occur in pre-order
(`Template.listsUnknown_iff`). When a labeller is made, they are noted for both of its templates
together, those of the description only where the name does not have them, and nothing is noted
where there are none (`unknown_references_noted`). The texts of a definition are strings. One with half
of a surrogate pair would have no key to be stored under, so no labeller would be made of it.
-/

namespace StreamLabel

/-! ### Lists without repetition -/

namespace Catalog
variable {rs xs ys : List Reference} {r : Reference}

theorem distinct_concat (rs : List Reference) (r : Reference) :
    distinct (rs ++ [r]) = if r ∈ distinct rs then distinct rs else distinct rs ++ [r] := by
  simp [distinct]

@[simp] theorem mem_distinct : r ∈ distinct rs ↔ r ∈ rs := by
  induction rs using List.reverseRecOn with
  | nil => rfl
  | append_singleton rs q ih =>
    rw [distinct_concat, List.mem_append, List.mem_singleton, ← ih]
    split
    · rename_i hq
      exact ⟨.inl, fun h => h.elim id fun h => h ▸ hq⟩
    · rw [List.mem_append, List.mem_singleton]

theorem nodup_distinct (rs : List Reference) : (distinct rs).Nodup := by
  induction rs using List.reverseRecOn with
  | nil => exact .nil
  | append_singleton rs q ih =>
    rw [distinct_concat]
    split
    · exact ih
    · rename_i hq
      rw [← List.concat_eq_append]
      exact ih.concat hq

theorem distinct_append (xs ys : List Reference) :
    distinct (xs ++ ys) = distinct xs ++ (distinct ys).filter (· ∉ xs) := by
  induction ys using List.reverseRecOn with
  | nil => simp [distinct]
  | append_singleton ys q ih =>
    rw [← List.append_assoc, distinct_concat, distinct_concat, ih]
    by_cases hx : q ∈ xs <;> by_cases hy : q ∈ ys <;> simp [hx, hy]

theorem distinct_of_nodup (h : rs.Nodup) : distinct rs = rs := by
  induction rs using List.reverseRecOn with
  | nil => rfl
  | append_singleton rs q ih =>
    obtain ⟨hrs, -, hq⟩ := List.nodup_append.1 h
    rw [distinct_concat, ih hrs, if_neg fun hmem => hq q hmem q (List.mem_singleton_self q) rfl]

/-- Each reference in the list first occurs before all occurrences of those after it. -/
theorem distinct_in_order {β : Type} [LT β] {placed : List (β × Reference)}
    (h : placed.Pairwise (·.1 < ·.1)) :
    (distinct (placed.map Prod.snd)).Pairwise fun r r' =>
      ∃ place, (place, r) ∈ placed ∧ ∀ place', (place', r') ∈ placed → place < place' := by
  induction placed using List.reverseRecOn with
  | nil => exact .nil
  | append_singleton placed x ih =>
    obtain ⟨last, ref⟩ := x
    obtain ⟨hplaced, -, hlast⟩ := List.pairwise_append.1 h
    -- the last place comes after all others, so what was in order stays in order
    have hbefore : ∀ place r, (place, r) ∈ placed → place < last :=
      fun place r hmem => hlast _ hmem _ (List.mem_singleton_self _)
    have hold : (distinct (placed.map Prod.snd)).Pairwise fun r r' =>
        ∃ place, (place, r) ∈ placed ++ [(last, ref)] ∧
          ∀ place', (place', r') ∈ placed ++ [(last, ref)] → place < place' := by
      refine (ih hplaced).imp fun {r r'} ⟨place, hr, hr'⟩ => ?_
      refine ⟨place, List.mem_append_left _ hr, fun place' hplace' => ?_⟩
      rcases List.mem_append.1 hplace' with hmem | hmem
      · exact hr' place' hmem
      · obtain ⟨rfl, -⟩ : place' = last ∧ r' = ref := by simpa using hmem
        exact hbefore place r hr
    rw [List.map_append, List.map_singleton, distinct_concat]
    split
    · exact hold
    · rename_i hnew
      refine List.pairwise_append.2 ⟨hold, List.pairwise_singleton .., fun r hr r' hr' => ?_⟩
      obtain rfl : r' = ref := List.mem_singleton.1 hr'
      obtain ⟨⟨place, r⟩, hmem, rfl⟩ := List.mem_map.1 (mem_distinct.1 hr)
      refine ⟨place, List.mem_append_left _ hmem, fun place' hplace' => ?_⟩
      rcases List.mem_append.1 hplace' with hmem' | hmem'
      · exact absurd (mem_distinct.2 (List.mem_map_of_mem hmem')) hnew
      · obtain rfl : place' = last := by simpa using hmem'
        exact hbefore place r hmem

theorem isKnown_iff :
    isKnown r = true ↔ ∃ p ∈ entries, p.space = r.space ∧ p.name = r.property := by
  rw [isKnown, find?, List.find?_isSome]
  refine exists_congr fun p => and_congr_right fun _ => ?_
  rw [beq_iff_eq, PropertyEntry.reference, Reference.mk.injEq]

end Catalog

/-- No two references have the same text. -/
theorem Reference.text_injective : Function.Injective Reference.text := by
  rintro ⟨space, property⟩ ⟨space', property'⟩ h
  have hchars : space.name.toList ++ '.' :: property.toList =
      space'.name.toList ++ '.' :: property'.toList := by
    simpa [Reference.text] using congrArg String.toList h
  obtain rfl : space = space' := by
    cases space <;> cases space' <;> simp [Namespace.name] at hchars ⊢
  simpa [Reference.text] using h

/-! ### The references of a template -/

namespace Template

/-- The references that the catalog lacks and that a placeholder of the template has, once each. They
stand in the order in which they first occur. -/
structure ListsUnknown (t : Template) (refs : List Reference) : Prop where
  mem_iff : ∀ ref, ref ∈ refs ↔ (∃ place, t.RefersAt ref place) ∧
    ¬ ∃ p ∈ Catalog.entries, p.space = ref.space ∧ p.name = ref.property
  nodup : (refs.map Reference.text).Nodup
  in_order : refs.Pairwise fun ref ref' =>
    ∃ place, t.RefersAt ref place ∧ ∀ place', t.RefersAt ref' place' → place < place'

variable {t : Template} {refs refs' : List Reference}

theorem listsUnknown_unknownReferences (t : Template) : t.ListsUnknown t.unknownReferences := by
  obtain ⟨placed, hrefs, hsorted, hmem⟩ := t.exists_placed_references
  have hunknown : t.unknownReferences =
      Catalog.distinct ((placed.filter fun x => !Catalog.isKnown x.2).map Prod.snd) := by
    rw [unknownReferences, ← hrefs, List.filter_map]
    rfl
  constructor
  · intro ref
    rw [unknownReferences, Catalog.mem_distinct, List.mem_filter, Bool.not_eq_true',
      ← Bool.not_eq_true, Catalog.isKnown_iff, ← hrefs]
    refine and_congr_left fun _ => ?_
    simp [hmem]
  · exact (Catalog.nodup_distinct _).map Reference.text_injective
  · rw [hunknown]
    refine (Catalog.distinct_in_order (hsorted.filter _)).imp_of_mem ?_
    rintro ref ref' - href' ⟨place, hplace, hbefore⟩
    refine ⟨place, (hmem _ _).1 (List.mem_of_mem_filter hplace), fun place' hplace' => ?_⟩
    refine hbefore place' (List.mem_filter.2 ⟨(hmem _ _).2 hplace', ?_⟩)
    obtain ⟨x, hx, rfl⟩ := List.mem_map.1 (Catalog.mem_distinct.1 href')
    exact (List.mem_filter.1 hx).2

theorem ListsUnknown.unique (h : t.ListsUnknown refs) (h' : t.ListsUnknown refs') : refs = refs' := by
  have hperm : refs.Perm refs' :=
    (List.perm_ext_iff_of_nodup (List.Nodup.of_map _ h.nodup) (List.Nodup.of_map _ h'.nodup)).2
      fun ref => (h.mem_iff ref).trans (h'.mem_iff ref).symm
  -- two references cannot each come first
  refine hperm.eq_of_pairwise (fun ref ref' _ _ => ?_) h.in_order h'.in_order
  rintro ⟨place, hplace, hbefore⟩ ⟨place', hplace', hbefore'⟩
  exact absurd (hbefore place' hplace') (lt_asymm (hbefore' place hplace))

theorem listsUnknown_iff : t.ListsUnknown refs ↔ refs = t.unknownReferences :=
  ⟨fun h => h.unique t.listsUnknown_unknownReferences,
    fun h => h ▸ t.listsUnknown_unknownReferences⟩

end Template

/-! ### Labellers -/

namespace Session

/-- What is noted about the references of two templates that the catalog lacks. -/
def unknownNotices (name description : Template) : List Notice :=
  let refs := name.unknownReferences ++
    description.unknownReferences.filter (· ∉ name.unknownReferences)
  if name.unknownReferences = [] ∧ description.unknownReferences = [] then []
  else [⟨.info, "[FORMATTER] Template references unknown properties: " ++
    ", ".intercalate (refs.map Reference.text)⟩]

theorem unknownReferences_eq (name description : Template) :
    unknownReferences name description = name.unknownReferences ++
      description.unknownReferences.filter (· ∉ name.unknownReferences) := by
  have hdistinct : ∀ t : Template, Catalog.distinct t.unknownReferences = t.unknownReferences :=
    fun t => Catalog.distinct_of_nodup (Catalog.nodup_distinct _)
  rw [unknownReferences, Catalog.distinct_append, hdistinct, hdistinct]

theorem unknownNotices_eq (name description : Template) :
    unknownNotices name description =
      let refs := unknownReferences name description
      if refs = [] then []
      else [⟨.info, "[FORMATTER] Template references unknown properties: " ++
        ", ".intercalate (refs.map Reference.text)⟩] := by
  rw [unknownReferences_eq, unknownNotices]
  refine if_congr ?_ rfl rfl
  rw [List.append_eq_nil_iff]
  refine and_congr_right fun hname => ?_
  simp [hname]

theorem exists_run_defaultRenderer (s : Session) :
    ∃ r ready, defaultRenderer.run.run s = (.ok r, ready) ∧ ready.notices = s.notices ∧
      ready.templates = s.templates ∧ ready.now = s.now := by
  cases h : s.renderLimit with
  | none => exact ⟨_, _, run_defaultRenderer_of_none h, rfl, rfl, rfl⟩
  | some limit => exact ⟨_, _, run_defaultRenderer_of_some h, rfl, rfl, rfl⟩

theorem notices_parseShared (source : String) (s : Session) :
    ((parseShared source).run.run s).2.notices = s.notices := by
  rw [run_parseShared]
  cases s.templatesOf <;> rfl

/-- Without a store of templates no labeller is made. -/
theorem run_labeller_of_error {s : Session} {o : Overflow} (h : s.templatesOf = .error o)
    (d : Definition) : (labeller d).run.run s = (.error (.overflow o), s) := by
  rw [labeller, run_bind, run_templateStore, h]

/-- What is shared is made ready first, then both texts are parsed, and what the catalog lacks is
noted. -/
theorem run_labeller (asked : String → Prop) (d : Definition) {s : Session} {store : TemplateStore}
    (hstore : s.templatesOf = .ok store) :
    ∃ renderer ready, ready.notices = s.notices ∧ ready.templates = some store ∧
      ready.now = s.now ∧ Relation.ReflTransGen (Change asked) s ready ∧
      (labeller d).run.run s =
        match (parseShared d.name).run.run ready with
        | (.error e, named) => (.error e, named)
        | (.ok name, named) =>
          match (parseShared d.description).run.run named with
          | (.error e, described) => (.error e, described)
          | (.ok description, described) =>
            (.ok ⟨name.template, description.template, renderer⟩,
              { described with
                notices := described.notices ++
                  unknownNotices name.template description.template }) := by
  let made : Session := { s with templates := some store }
  have hmade : templateStore.run.run s = (.ok store, made) := by rw [run_templateStore, hstore]
  obtain ⟨renderer, ready, hready, hnotices, htemplates, hnow⟩ := exists_run_defaultRenderer made
  refine ⟨renderer, ready, hnotices, htemplates, hnow, ?_, ?_⟩
  · refine (change_of_templatesOf hstore).trans ?_
    have hchanges : Changes asked defaultRenderer := changes_defaultRenderer
    have hchain := hchanges.chain made
    rwa [hready] at hchain
  · rw [labeller, run_bind, hmade]
    dsimp only
    rw [run_bind, hready]
    dsimp only
    rw [run_bind]
    rcases (parseShared d.name).run.run ready with ⟨e | name, named⟩
    · rfl
    · dsimp only
      rw [run_bind]
      rcases (parseShared d.description).run.run named with ⟨e | description, described⟩
      · rfl
      · dsimp only
        rw [unknownNotices_eq]
        split
        · rename_i h
          rw [Bool.not_eq_true', List.isEmpty_eq_false_iff] at h
          rw [if_neg h]
          rfl
        · rename_i h
          rw [Bool.not_eq_true', Bool.not_eq_false, List.isEmpty_iff] at h
          rw [if_pos h, List.append_nil]
          rfl

/-- A tree can be stored now: there is a store of templates, or one can be made, and there is a moment
at which the tree expires, or it lives for ever. -/
def CanStore (s : Session) : Prop :=
  ∃ store expiry, s.templatesOf = .ok store ∧ store.trees.expiryFor s.now none = .ok expiry

/-- The settings set no lifetime, and set none when the store of templates was made. -/
structure Forever (s : Session) : Prop where
  settings_eq : s.settings.templateLifetime = 0
  store_eq : ∀ store, s.templates = some store → store.trees.lifetime = 0

namespace Forever
variable {asked : String → Prop} {s s' : Session}

theorem changes (h : s.Forever) (hs : Relation.ReflTransGen (Change asked) s s') : s'.Forever := by
  induction hs with
  | refl => exact h
  | tail _ hchange ih =>
    cases hchange with
    | notices | environment | now | patterns | renderer => exact ⟨ih.settings_eq, ih.store_eq⟩
    | templates _ hmade =>
      obtain rfl := TemplateStore.new_eq hmade
      refine ⟨ih.settings_eq, ?_⟩
      rintro store ⟨⟩
      exact congrArg Int.ofNat ih.settings_eq
    | parsed hold =>
      refine ⟨ih.settings_eq, ?_⟩
      rintro store ⟨⟩
      rw [TemplateStore.lifetime_getOrParse]
      exact ih.store_eq _ hold

/-- Where trees live for ever they can be stored at any time. -/
theorem canStore (h : s.Forever) : s.CanStore := by
  cases hstore : s.templates with
  | some store =>
    exact ⟨store, none, templatesOf_of_some hstore,
      TimedStore.expiryFor_of_forever (h.store_eq store hstore) _⟩
  | none =>
    refine ⟨{ trees := { lifetime := 0, capacity := s.settings.templateCapacity }, limit := none },
      none, ?_, TimedStore.expiryFor_of_forever rfl _⟩
    rw [templatesOf_of_none hstore, newTemplateStore, h.settings_eq]
    rfl

end Forever

/-- In a session where the digest tells a text from all that were asked for, the store of templates
answers it with its parse, if it can be stored. -/
theorem ParsedUnder.exists_parseShared {H : Nat → Prop} {asked : String → Prop} {s : Session}
    (h : s.ParsedUnder H asked) (hcan : s.CanStore) {source : String} (hsource : asked source)
    (digest : ∀ x, asked x → contentKey x = contentKey source → x = source) {t : Template}
    (ht : Template.parse source s.settings.nestingLimit = .ok t) :
    ∃ serial next, (parseShared source).run.run s = (.ok ⟨serial, t⟩, next) ∧
      next.ParsedUnder H asked ∧ next.CanStore ∧ next.settings = s.settings := by
  obtain ⟨store, expiry, hstore, hexpiry⟩ := hcan
  have hrun := run_parseShared source s
  rw [hstore] at hrun
  let next : Session := { s with
    templates := some (store.getOrParse s.now s.settings.nestingLimit (.ofString source)).2 }
  obtain ⟨tree, htree⟩ : ∃ tree,
      (store.getOrParse s.now s.settings.nestingLimit (.ofString source)).1 = .ok tree := by
    have hanswer := TemplateStore.answers_getOrParse (CodePoints.encode_ofString source) store s.now
      s.settings.nestingLimit
    generalize store.getOrParse s.now s.settings.nestingLimit (.ofString source) = out at hanswer
    cases hanswer with
    | live | parsed => exact ⟨_, rfl⟩
    | failed _ read =>
      rw [(h.withStore hstore).open_limit _ rfl, Option.getD_none,
        Template.read_ofString_eq_ok_iff.2 ht] at read
      cases read
    | overflowed _ _ beyond => cases hexpiry.symm.trans beyond
  have hanswered : (parseShared source).run.run s = (.ok tree, next) := by
    rw [hrun]
    dsimp only
    rw [htree]
    rfl
  obtain ⟨x, hx, hkey, limit, -, hu⟩ := h.returned hsource (congrArg Prod.fst hanswered)
  obtain rfl := digest x hx (TemplateStore.keyFor_inj.1 hkey)
  obtain rfl : tree.template = t := parse_ok_unique hu ht
  refine ⟨tree.serial, next, hanswered, ?_, ⟨_, expiry, rfl, ?_⟩, rfl⟩
  · exact h.changes ((change_of_templatesOf hstore).tail (.parsed _ rfl hsource))
  · rw [TimedStore.expiryFor, store.lifetime_getOrParse]
    exact hexpiry

end Session

open Session

/-- The references of a template that the catalog lacks are all listed, once each and in the order of
their first occurrence. A session notes them when a labeller is made, and otherwise nothing. Two
texts that parse under the limit in force make a labeller of their trees, whatever has been done
before, where trees can be stored and the digest tells all the texts apart. -/
theorem unknown_references_noted :
    (∀ (t : Template) (refs : List Reference), t.ListsUnknown refs ↔ refs = t.unknownReferences) ∧
    (∀ (s : Session) (d : Definition),
      let (made, after) := (labeller d).run.run s
      after.notices = s.notices ++ match made with
        | .ok l => unknownNotices l.name l.description
        | .error _ => []) ∧
    ∀ (e : Environment) (formatters : Registry) (acts : List SessionAct) (d : Definition)
      (name description : Template),
      let s := (start e formatters).after acts
      let sources := d.name :: d.description :: acts.flatMap SessionAct.sources
      (∀ x ∈ sources, ∀ y ∈ sources, contentKey x = contentKey y → x = y) → s.CanStore →
      Template.parse d.name s.settings.nestingLimit = .ok name →
      Template.parse d.description s.settings.nestingLimit = .ok description →
      ∃ renderer after, (labeller d).run.run s = (.ok ⟨name, description, renderer⟩, after) ∧
        after.notices = s.notices ++ unknownNotices name description := by
  refine ⟨fun t refs => Template.listsUnknown_iff, fun s d => ?_, ?_⟩
  · cases hstore : s.templatesOf with
    | error o =>
      rw [run_labeller_of_error hstore]
      exact (List.append_nil _).symm
    | ok store =>
      obtain ⟨renderer, ready, hready, -, -, -, hrun⟩ := run_labeller (fun _ => True) d hstore
      have hsame := notices_parseShared d.name ready
      rw [hrun]
      rcases hnamed : (parseShared d.name).run.run ready with ⟨f | name, named⟩ <;>
        rw [hnamed] at hsame
      · exact (hsame.trans hready).trans (List.append_nil _).symm
      · have hsame' := notices_parseShared d.description named
        dsimp only
        rcases hdescribed : (parseShared d.description).run.run named with
          ⟨f | description, described⟩ <;> rw [hdescribed] at hsame'
        · exact ((hsame'.trans hsame).trans hready).trans (List.append_nil _).symm
        · exact congrArg (· ++ _) ((hsame'.trans hsame).trans hready)
  · intro e formatters acts d name description s sources digest hcan hname hdescription
    obtain ⟨store, expiry, hstore, hexpiry⟩ := hcan
    obtain ⟨renderer, ready, hready, htemplates, hnow, hchain, hrun⟩ :=
      run_labeller (· ∈ sources) d hstore
    have hs : s.ParsedUnder (fun _ => True) (· ∈ sources) := by
      refine .after e formatters acts (fun _ _ => trivial) fun a ha source hsource => ?_
      exact List.mem_cons_of_mem _ (List.mem_cons_of_mem _ (List.mem_flatMap.2 ⟨a, ha, hsource⟩))
    have hcan : ready.CanStore := ⟨store, expiry, templatesOf_of_some htemplates, hnow ▸ hexpiry⟩
    obtain ⟨hmem, hmem'⟩ : d.name ∈ sources ∧ d.description ∈ sources := by simp [sources]
    rw [← settings_eq hchain] at hname hdescription
    obtain ⟨_, named, hnamed, hs', hcan', hsettings⟩ := (hs.changes hchain).exists_parseShared hcan
      hmem (fun x hx => digest x hx _ hmem) hname
    rw [← hsettings] at hdescription
    obtain ⟨_, described, hdescribed, -, -, -⟩ := hs'.exists_parseShared hcan' hmem'
      (fun x hx => digest x hx _ hmem') hdescription
    rw [hnamed] at hrun
    dsimp only at hrun
    rw [hdescribed] at hrun
    have hsame := notices_parseShared d.name ready
    have hsame' := notices_parseShared d.description named
    rw [hnamed] at hsame
    rw [hdescribed] at hsame'
    exact ⟨renderer, _, hrun, congrArg (· ++ _) ((hsame'.trans hsame).trans hready)⟩

/-- A labeller is made for the second time, from stored trees. The name has an unknown reference
twice, in a branch too, and the description one that the name has and one that differs in case. -/
theorem unknown_references_noted_again :
    let name := "\x7baddon.url::=x[\"\x7bstream.nope\x7d\"||\"\"]\x7d\x7bstream.nope\x7d"
    let description := "\x7baddon.url\x7d\x7bstream.Title\x7d"
    let d : Definition := ⟨name, description⟩
    ∃ l after, (labeller d).run.run ((start [] .builtIn).after [.labeller d]) = (.ok l, after) ∧
      after.notices = ((start [] .builtIn).after [.labeller d]).notices ++
        [⟨.info, "[FORMATTER] Template references unknown properties: " ++
          "addon.url, stream.nope, stream.Title"⟩] := by
  intro name description d
  let t : Template := ⟨[.choice ⟨0, "\x7bstream.nope\x7d", ""⟩ ⟨.addon, "url"⟩ (.compare .eq "x")
    [.value ⟨16, "", ""⟩ ⟨.stream, "nope"⟩] [], .value ⟨36, "", ""⟩ ⟨.stream, "nope"⟩], name⟩
  let u : Template :=
    ⟨[.value ⟨0, "", ""⟩ ⟨.addon, "url"⟩, .value ⟨11, "", ""⟩ ⟨.stream, "Title"⟩], description⟩
  have hchanges : Changes (fun _ => True) (SessionAct.step (.labeller d)) :=
    (changes_labeller trivial trivial).bind fun _ => .pure _
  have hlimit : ((start [] .builtIn).after [.labeller d]).settings.nestingLimit = 32 := by
    rw [after, List.foldl_cons, List.foldl_nil, afterOne, settings_eq (hchanges.chain _)]
    decide
  have hname : Template.parse name
      ((start [] .builtIn).after [.labeller d]).settings.nestingLimit = .ok t := by
    rw [hlimit]
    cbv
  have hdescription : Template.parse description
      ((start [] .builtIn).after [.labeller d]).settings.nestingLimit = .ok u := by
    rw [hlimit]
    cbv
  have hne : contentKey name ≠ contentKey description := by decide +kernel
  have digest : ∀ x ∈ name :: description :: [SessionAct.labeller d].flatMap SessionAct.sources,
      ∀ y ∈ name :: description :: [SessionAct.labeller d].flatMap SessionAct.sources,
        contentKey x = contentKey y → x = y := by
    simp [SessionAct.sources, d, hne, hne.symm]
  have hstart : (start [] .builtIn).Forever := ⟨by decide, fun _ h => by cases h⟩
  have hcan : ((start [] .builtIn).after [.labeller d]).CanStore :=
    (hstart.changes (hchanges.chain _)).canStore
  obtain ⟨renderer, after, hrun, hnotices⟩ :=
    unknown_references_noted.2.2 [] .builtIn [.labeller d] d t u digest hcan hname hdescription
  exact ⟨_, after, hrun, hnotices.trans (congrArg _ (by decide))⟩

end StreamLabel

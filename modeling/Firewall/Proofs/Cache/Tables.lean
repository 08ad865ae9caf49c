/-
The tables hold what the cache holds.

`Tables.cache` forgets how things are kept: an owner's record is the one in its place in the entry
of its host name, and its set name is the one that is kept under it.  What is lost is that the
owners of names have a table of their own, and that there may be entries with nothing in them.
`Sound` says of these what the operations see to, and so each operation on tables is that operation
on the cache, with the same result, and leaves the tables sound (`Sound.perform`).

By induction the tables are sound after every history, and hold what the cache holds after it; what
is known of the names in the cache (`Cache.Consistent`) is then known of what is in the tables.
-/
import Firewall.Proofs.Cache.Consistent
import Firewall.Proofs.Cache.NameTables

namespace Firewall

/-! ### Entries -/

namespace Entry

/-- The records of an entry, with their owners. -/
def records (fqdn : String) (e : Entry) : List (Owner × Record) :=
  Family.all.flatMap fun family => (e.get family).toList.map fun r => (⟨fqdn, family⟩, r)

theorem mem_records {fqdn : String} {e : Entry} {o : Owner} {r : Record} :
    (o, r) ∈ records fqdn e ↔ o.fqdn = fqdn ∧ e.get o.family = some r := by
  unfold records
  simp only [List.mem_flatMap, List.mem_map, Option.mem_toList, Family.mem_all, true_and]
  constructor
  · rintro ⟨family, r', hr, heq⟩
    cases heq
    exact ⟨rfl, hr⟩
  · rintro ⟨rfl, hr⟩
    exact ⟨o.family, r, hr, rfl⟩

theorem isEmpty_iff {e : Entry} : isEmpty e = true ↔ ∀ family, e.get family = none := by
  unfold isEmpty
  rw [Bool.and_eq_true, Option.isNone_iff_eq_none, Option.isNone_iff_eq_none]
  constructor
  · rintro ⟨hv4, hv6⟩ family
    cases family
    · exact hv4
    · exact hv6
  · intro h
    exact ⟨h .v4, h .v6⟩

theorem get_dropOver (e : Entry) (now : Instant) (here there : Family) :
    (dropOver e now here).1.get there =
      if there = here then (e.get there).filter (·.isLive now) else e.get there := by
  by_cases hsame : there = here
  · rw [if_pos hsame, hsame]
    unfold dropOver
    cases hr : e.get here with
    | none => simp [hr]
    | some r =>
      rw [Option.filter_some]
      cases hlive : r.isLive now <;> simp [hr, hlive, PerFamily.get_modify]
  · rw [if_neg hsame]
    unfold dropOver
    split
    · rw [PerFamily.get_modify, if_neg hsame]
    · rfl

theorem dropOver_snd (e : Entry) (now : Instant) (family : Family) :
    (dropOver e now family).2 = (e.get family).toList.countP fun r => !r.isLive now := by
  unfold dropOver
  cases e.get family with
  | none => rfl
  | some r => cases hlive : r.isLive now <;> simp [hlive]

theorem get_purge (e : Entry) (now : Instant) (family : Family) :
    (purge e now).1.get family = (e.get family).filter (·.isLive now) := by
  show (dropOver (dropOver e now .v4).1 now .v6).1.get family = _
  rw [get_dropOver, get_dropOver]
  cases family <;> rfl

theorem purge_snd (fqdn : String) (e : Entry) (now : Instant) :
    (purge e now).2 = (records fqdn e).countP fun e => !e.2.isLive now := by
  show 0 + (dropOver e now .v4).2 + (dropOver (dropOver e now .v4).1 now .v6).2 = _
  rw [dropOver_snd, dropOver_snd, get_dropOver, if_neg fun h => nomatch h]
  simp [records, Family.all, List.countP_map, Function.comp_def]

end Entry

theorem Owner.compare_of_fqdn {o o' : Owner} (h : compare o.fqdn o'.fqdn = .lt) :
    compare o o' = .lt := by
  show compareLex (compareOn fqdn) (compareOn family) o o' = .lt
  simp [compareLex, compareOn, h]

theorem Owner.compare_v4_v6 (fqdn : String) :
    compare (⟨fqdn, .v4⟩ : Owner) ⟨fqdn, .v6⟩ = .lt := by
  show compareLex (compareOn Owner.fqdn) (compareOn Owner.family) _ _ = .lt
  have hfamilies : compare Family.v4 Family.v6 = .lt := rfl
  simp [compareLex, compareOn, hfamilies, Std.ReflCmp.compare_self]

theorem Entry.pairwise_records (fqdn : String) (e : Entry) :
    (records fqdn e).Pairwise fun a b => compare a.1 b.1 = .lt := by
  obtain ⟨v4, v6⟩ := e
  cases v4 <;> cases v6 <;>
    simp [records, Family.all, PerFamily.get, Owner.compare_v4_v6]

namespace Tables

/-! ### What the tables hold -/

/-- The records of all entries, each under its owner. -/
def records (t : Tables) : Dictionary Owner Record where
  entries := t.entries.entries.flatMap fun e => Entry.records e.1 e.2
  ascending := by
    refine List.pairwise_flatMap.2 ⟨fun e _ => Entry.pairwise_records e.1 e.2, ?_⟩
    refine t.entries.ascending.imp fun hlt x hx y hy => Owner.compare_of_fqdn ?_
    rwa [(Entry.mem_records.1 hx).1, (Entry.mem_records.1 hy).1]

/-- The cache of which these are the tables. -/
def cache (t : Tables) : Cache := ⟨t.records, t.names.registry, t.restored, t.forwarder⟩

theorem get?_records (t : Tables) (o : Owner) : t.records.get? o = t.record? o := by
  refine Option.ext fun r => ?_
  rw [Dictionary.get?_eq_some_iff, record?, Option.bind_eq_some_iff]
  show (o, r) ∈ List.flatMap _ _ ↔ _
  simp only [List.mem_flatMap, Entry.mem_records, Dictionary.get?_eq_some_iff]
  constructor
  · rintro ⟨⟨fqdn, e⟩, hmem, rfl, hr⟩
    exact ⟨e, hmem, hr⟩
  · rintro ⟨e, hmem, hr⟩
    exact ⟨(o.fqdn, e), hmem, rfl, hr⟩

theorem record?_setRecord (t : Tables) (o o' : Owner) (r : Record) :
    (t.setRecord o r).record? o' = if o = o' then some r else t.record? o' := by
  unfold record?
  show ((t.entries.insert o.fqdn _).get? o'.fqdn).bind _ = _
  by_cases hname : o.fqdn = o'.fqdn
  · rw [← hname, Dictionary.get?_insert_self, Option.bind_some, PerFamily.get_modify]
    by_cases hfamily : o'.family = o.family
    · rw [if_pos hfamily, if_pos (Owner.ext hname hfamily.symm)]
    · rw [if_neg hfamily, if_neg fun ho => hfamily (congrArg Owner.family ho.symm)]
      cases t.entries.get? o.fqdn with
      | none =>
        -- the new entry has nothing in the other place
        cases o'.family <;> rfl
      | some e => rfl
  · rw [Dictionary.get?_insert_of_ne hname, if_neg fun ho => hname (congrArg Owner.fqdn ho)]

/-- Putting a record in the place of an owner puts it in under the owner. -/
theorem records_setRecord (t : Tables) (o : Owner) (r : Record) :
    (t.setRecord o r).records = t.records.insert o r := by
  refine Dictionary.ext_get? fun o' => ?_
  rw [get?_records, record?_setRecord]
  by_cases ho : o = o'
  · rw [if_pos ho, ← ho, Dictionary.get?_insert_self]
  · rw [if_neg ho, Dictionary.get?_insert_of_ne ho, get?_records]

theorem cache_setRecord (t : Tables) (o : Owner) (r : Record) :
    (t.setRecord o r).cache = { t.cache with records := t.cache.records.insert o r } := by
  unfold cache
  rw [records_setRecord]
  rfl

theorem declares_eq (t : Tables) : t.declares = t.cache.declares := by
  funext o
  show ((t.record? o).isSome || _) = ((t.records.get? o).isSome || _)
  rw [get?_records]
  rfl

/-! ### What the operations see to -/

/-- The two tables of names are inverse to each other, and no entry is empty. -/
structure Sound (t : Tables) : Prop where
  inverse : t.names.Inverse
  filled : ∀ {fqdn e}, t.entries.get? fqdn = some e → Entry.isEmpty e = false

variable {t : Tables}

theorem Sound.fresh (forwarder : Endpoint) : (Tables.fresh forwarder).Sound where
  inverse := NameTables.inverse_empty
  filled h := nomatch h

theorem Sound.setRecord (h : t.Sound) (o : Owner) (r : Record) : (t.setRecord o r).Sound where
  inverse := h.inverse
  filled := by
    intro fqdn e he
    have hinsert : (t.entries.insert o.fqdn _).get? fqdn = some e := he
    by_cases hname : o.fqdn = fqdn
    · rw [hname, Dictionary.get?_insert_self] at hinsert
      cases hinsert
      refine Bool.eq_false_iff.2 fun hempty => ?_
      have hnone := Entry.isEmpty_iff.1 hempty o.family
      rw [PerFamily.get_modify, if_pos rfl] at hnone
      exact nomatch hnone
    · rw [Dictionary.get?_insert_of_ne hname] at hinsert
      exact h.filled hinsert

/-! ### Purging -/

theorem record?_dropOver (t : Tables) (now : Instant) (o : Owner) :
    (t.dropOver now).record? o = (t.record? o).filter (·.isLive now) := by
  show ((t.entries.filterMap _).get? o.fqdn).bind _ = Option.filter _ (Option.bind _ _)
  rw [Dictionary.get?_filterMap]
  cases t.entries.get? o.fqdn with
  | none => rfl
  | some e =>
    rw [Option.bind_some, Option.bind_some, ← Entry.get_purge, Option.filter_some]
    cases hempty : Entry.isEmpty (Entry.purge e now).1 with
    | false => rfl
    | true => exact (Entry.isEmpty_iff.1 hempty o.family).symm

/-- **A purge of the tables is a purge of the cache.** -/
theorem cache_purge (t : Tables) (now : Instant) : (t.purge now).1.cache = t.cache.purge now := by
  have hrecords : (t.dropOver now).records = t.records.filter fun _ r => r.isLive now := by
    refine Dictionary.ext_get? fun o => ?_
    rw [Dictionary.get?_filter, get?_records, get?_records, record?_dropOver]
  have hkept : (t.dropOver now).cache = { t.cache with
      records := t.records.filter fun _ r => r.isLive now
      restored := t.restored.filter (·.isLive now) } := by
    unfold cache
    rw [hrecords]
    rfl
  show { (t.dropOver now).cache with
    names := (t.dropOver now).cache.names.retain (t.dropOver now).declares } = _
  rw [declares_eq, hkept]
  rfl

theorem purge_snd (t : Tables) (now : Instant) :
    (t.purge now).2 = t.cache.expiredCount now := by
  have hentries : ∀ (entries : List (String × Entry)) dropped,
      (entries.map (·.2)).foldl (fun dropped e => dropped + (Entry.purge e now).2) dropped =
        dropped + (entries.flatMap fun e => Entry.records e.1 e.2).countP
          fun e => !e.2.isLive now := by
    intro entries
    induction entries with
    | nil => exact fun _ => rfl
    | cons e rest ih =>
      intro dropped
      rw [List.map_cons, List.foldl_cons, ih, Entry.purge_snd e.1, List.flatMap_cons,
        List.countP_append, Nat.add_assoc]
  have hrecords : t.entries.values.foldl (fun dropped e => dropped + (Entry.purge e now).2) 0 =
      t.records.entries.countP fun e => !e.2.isLive now :=
    (hentries t.entries.entries 0).trans (Nat.zero_add _)
  have hrestored : t.restored.length - (t.restored.filter (·.isLive now)).length =
      t.restored.countP fun s => !s.isLive now := by
    have hsplit := List.length_eq_countP_add_countP (fun s : NamedSet => s.isLive now)
      (l := t.restored)
    simp only [Bool.not_eq_true, Bool.decide_eq_false] at hsplit
    rw [← List.countP_eq_length_filter, hsplit, Nat.add_sub_cancel_left]
  exact congrArg₂ (· + ·) hrecords hrestored

theorem Sound.purge (h : t.Sound) (now : Instant) : (t.purge now).1.Sound where
  inverse := h.inverse.retain _
  filled := by
    intro fqdn e he
    have hkept : (t.entries.filterMap _).get? fqdn = some e := he
    rw [Dictionary.get?_filterMap] at hkept
    obtain ⟨e', -, hkept⟩ := Option.bind_eq_some_iff.1 hkept
    obtain ⟨-, hfilled⟩ := Option.filter_eq_some_iff.1 hkept
    simpa using hfilled

/-! ### Restoring -/

/-- A name that is adopted although a restored set has it is there already. -/
theorem names_eq_of_adopt? (h : t.Sound) (hc : t.cache.Consistent) {s r : NamedSet}
    {names : NameTables} {o : Owner} (hadopt : t.names.adopt? s.setName o = some names)
    (hr : r ∈ t.restored) (hname : r.setName = s.setName) : names = t.names := by
  rcases NameTables.adopt?_cases hadopt with ⟨-, heq⟩ | ⟨hfree, -, -⟩
  · exact heq
  · have howner : t.names.owners.get? r.setName = some r.owner :=
      (h.inverse _ _).2 (hc.restored hr)
    rw [hname, hfree] at howner
    exact nomatch howner

/-- A set is refused if its name cannot be adopted or a restored set has it, and is taken up
otherwise. -/
theorem restoreOne_cases (t : Tables) (s : NamedSet) :
    (t.names.adopt? s.setName s.qualified.owner = none ∧ t.restoreOne s = (t, false)) ∨
      ∃ names, t.names.adopt? s.setName s.qualified.owner = some names ∧
        t.restoreOne s = if t.restored.any fun r => r.setName = s.setName then
            ({ t with names := names }, false)
          else ({ t with names := names, restored := t.restored ++ [s.qualified] }, true) := by
  unfold restoreOne
  cases hadopt : t.names.adopt? s.setName s.qualified.owner with
  | none =>
    refine .inl ⟨rfl, ?_⟩
    simp only [NamedSet.qualified] at hadopt
    simp only [hadopt]
  | some names =>
    refine .inr ⟨names, rfl, ?_⟩
    simp only [NamedSet.qualified] at hadopt
    simp only [hadopt]
    rfl

/-- **Taking up a set in the tables is taking it up in the cache**, and it is refused where it is
refused there. -/
theorem restoreOne_eq (h : t.Sound) (hc : t.cache.Consistent) (s : NamedSet) :
    (t.restoreOne s).1.cache = (t.cache.restoreOne? s).getD t.cache ∧
      (t.restoreOne s).2 = (t.cache.restoreOne? s).isSome := by
  have hregistry : t.cache.names.adopt? s.setName s.qualified.owner = _ :=
    (h.inverse.adopt?_eq s.setName s.qualified.owner).symm
  have hcache : t.cache.restoreOne? s = (t.cache.names.adopt? s.setName s.qualified.owner).bind
      fun names => if t.restored.any fun r => r.setName = s.setName then none
        else some { t.cache with names := names, restored := t.restored ++ [s.qualified] } := rfl
  rw [hcache, hregistry]
  rcases restoreOne_cases t s with ⟨hadopt, heq⟩ | ⟨names, hadopt, heq⟩
  · rw [hadopt, heq]
    exact ⟨rfl, rfl⟩
  · rw [hadopt, heq, Option.map_some, Option.bind_some]
    by_cases hany : t.restored.any (fun r => r.setName = s.setName) = true
    · obtain ⟨r, hr, hname⟩ := List.any_eq_true.1 hany
      rw [names_eq_of_adopt? h hc hadopt hr (of_decide_eq_true hname), if_pos hany, if_pos hany]
      exact ⟨rfl, rfl⟩
    · rw [if_neg hany, if_neg hany]
      exact ⟨rfl, rfl⟩

theorem Sound.restoreOne (h : t.Sound) (s : NamedSet) : (t.restoreOne s).1.Sound := by
  rcases restoreOne_cases t s with ⟨-, heq⟩ | ⟨names, hadopt, heq⟩
  · rw [heq]
    exact h
  · have hinverse := h.inverse.adopt? hadopt
    rw [heq]
    split
    · exact ⟨hinverse, h.filled⟩
    · exact ⟨hinverse, h.filled⟩

/-- **Restoring sets in the tables is restoring them in the cache**, with the same number. -/
theorem Sound.restore (h : t.Sound) (hc : t.cache.Consistent) (sets : List NamedSet) :
    (t.restore sets).1.Sound ∧ (t.restore sets).map cache id = t.cache.restore sets := by
  unfold Tables.restore Cache.restore
  generalize 0 = n
  induction sets generalizing t n with
  | nil => exact ⟨h, rfl⟩
  | cons s rest ih =>
    obtain ⟨hcache, htaken⟩ := restoreOne_eq h hc s
    have hconsistent : ((t.cache.restoreOne? s).getD t.cache).Consistent := by
      cases hone : t.cache.restoreOne? s with
      | none => exact hc
      | some c => exact hc.restoreOne? hone
    have hrest := ih (h.restoreOne s) (hcache ▸ hconsistent) (n + (t.restoreOne s).2.toNat)
    simp only [List.foldl_cons, hcache, htaken] at hrest ⊢
    cases hone : t.cache.restoreOne? s with
    | none =>
      rw [hone] at hrest
      exact hrest
    | some c =>
      rw [hone] at hrest
      exact hrest

/-! ### Responses -/

/-- The tables once an owner is registered and its restored sets are dropped. -/
def registering (t : Tables) (o : Owner) : Tables :=
  { t with
    names := (t.names.register o).1
    restored := t.restored.filter fun s => s.owner ≠ o }

theorem Sound.registering (h : t.Sound) (o : Owner) : (t.registering o).Sound :=
  ⟨h.inverse.register o, h.filled⟩

theorem Sound.cache_registering (h : t.Sound) (o : Owner) :
    (t.registering o).cache = { t.cache with
      names := t.cache.names.register o
      restored := t.cache.restored.filter fun s => s.owner ≠ o } := by
  show Cache.mk t.records (t.names.register o).1.registry _ _ = _
  rw [(h.inverse.register_eq o).1]
  rfl

/-- **What a response does to the tables for one family is what it does to the cache**, and it
reports the same. -/
theorem Sound.observeFamily (h : t.Sound) (seen : Instant) (o : Dns.Observation)
    (family : Family) : (t.observeFamily seen o family).1.Sound ∧
      (t.observeFamily seen o family).map cache id = t.cache.observeFamily seen o family := by
  have hknown : t.cache.records.get? ⟨o.name, family⟩ = t.record? ⟨o.name, family⟩ :=
    get?_records t _
  unfold Tables.observeFamily Cache.observeFamily
  dsimp only
  rw [hknown]
  by_cases hnone : o.ofFamily family = []
  · rw [if_pos hnone, if_pos hnone]
    cases t.record? ⟨o.name, family⟩ with
    | none => exact ⟨h, rfl⟩
    | some r =>
      dsimp only
      split
      · exact ⟨h.setRecord _ _, Prod.ext (cache_setRecord t _ _) rfl⟩
      · exact ⟨h, rfl⟩
  · rw [if_neg hnone, if_neg hnone]
    have hsound := h.registering ⟨o.name, family⟩
    have hcache := h.cache_registering ⟨o.name, family⟩
    have hname := (h.inverse.register_eq ⟨o.name, family⟩).2
    -- nothing has been put into the place of the owner yet
    have hplace : (t.registering ⟨o.name, family⟩).record? ⟨o.name, family⟩ =
        t.record? ⟨o.name, family⟩ := rfl
    rw [← Tables.registering, hplace]
    cases t.record? ⟨o.name, family⟩ with
    | none =>
      refine ⟨hsound.setRecord _ _, Prod.ext ?_ rfl⟩
      show ((t.registering _).setRecord _ ⟨(t.names.register _).2, _, _⟩).cache = _
      rw [cache_setRecord, hcache, hname]
      rfl
    | some r =>
      refine ⟨hsound.setRecord _ _, Prod.ext ?_ rfl⟩
      show ((t.registering _).setRecord _ _).cache = _
      rw [cache_setRecord, hcache]

/-- What an observation does to the tables is what it does to the cache. -/
theorem Sound.observe (h : t.Sound) (seen : Instant) (o : Dns.Observation) :
    (t.observe seen o).1.Sound ∧ (t.observe seen o).map cache id = t.cache.observe seen o := by
  obtain ⟨hv4, hsame⟩ := (h.purge seen).observeFamily seen o .v4
  obtain ⟨hv6, hsame'⟩ := hv4.observeFamily seen o .v6
  rw [cache_purge] at hsame
  -- the second family finds what the first one has left
  have hcache : ((t.purge seen).1.observeFamily seen o .v4).1.cache = _ := congrArg Prod.fst hsame
  rw [hcache] at hsame'
  have hchanged : ((t.purge seen).1.observeFamily seen o .v4).2 = _ :=
    congrArg (fun p : Cache × Bool => p.2) hsame
  have hcache' : (((t.purge seen).1.observeFamily seen o .v4).1.observeFamily seen o .v6).1.cache
      = _ := congrArg (fun p : Cache × Bool => p.1) hsame'
  have hchanged' : (((t.purge seen).1.observeFamily seen o .v4).1.observeFamily seen o .v6).2 = _ :=
    congrArg (fun p : Cache × Bool => p.2) hsame'
  exact ⟨hv6, Prod.ext hcache' (congrArg₂ or hchanged hchanged')⟩

/-- What a response does to the tables is what it does to the cache, with the same result. -/
theorem Sound.apply_eq (h : t.Sound) (seen : Instant) (m : Dns.Message) :
    (t.apply seen m).map (Prod.map cache id) = t.cache.apply seen m := by
  unfold Tables.apply Cache.apply
  cases Dns.Observation.ofMessage m with
  | error e => rfl
  | ok o => exact congrArg Except.ok (h.observe seen o).2

/-! ### Histories -/

/-- The tables after something has happened to the cache. -/
def perform (t : Tables) : Cache.Operation → Tables
  | .event (.response seen m) =>
    match t.apply seen m with
    | .ok (t, _) => t
    | .error _ => t
  | .event (.purge now) => (t.purge now).1
  | .restore sets => (t.restore sets).1
  | .forward forwarder => t.setForwarder forwarder

/-- The tables after many things have happened. -/
def history (t : Tables) (operations : List Cache.Operation) : Tables := operations.foldl perform t

/-- **Every operation leaves the tables sound**, and does to them what it does to the cache. -/
theorem Sound.perform (h : t.Sound) (hc : t.cache.Consistent) (operation : Cache.Operation) :
    (t.perform operation).Sound ∧ (t.perform operation).cache = t.cache.perform operation := by
  cases operation with
  | event e =>
    cases e with
    | response seen m =>
      show _ ∧ _ = t.cache.after (.response seen m)
      unfold Tables.perform
      cases hm : Dns.Observation.ofMessage m with
      | error e =>
        rw [Cache.after_response_of_error hm]
        have happly : t.apply seen m = .error e := by
          unfold Tables.apply
          rw [hm]
          rfl
        simp only [happly]
        exact ⟨h, trivial⟩
      | ok o =>
        rw [Cache.after_response_of_ok hm]
        have happly : t.apply seen m = .ok (t.observe seen o) := by
          unfold Tables.apply
          rw [hm]
          rfl
        simp only [happly]
        exact ⟨(h.observe seen o).1, congrArg Prod.fst (h.observe seen o).2⟩
    | purge now => exact ⟨h.purge now, cache_purge t now⟩
  | restore sets =>
    obtain ⟨hsound, hsame⟩ := h.restore hc sets
    exact ⟨hsound, congrArg Prod.fst hsame⟩
  | forward forwarder => exact ⟨⟨h.inverse, h.filled⟩, rfl⟩

theorem Sound.history (h : t.Sound) (hc : t.cache.Consistent)
    (operations : List Cache.Operation) : (t.history operations).Sound ∧
      (t.history operations).cache = t.cache.history operations := by
  induction operations generalizing t with
  | nil => exact ⟨h, rfl⟩
  | cons operation rest ih =>
    obtain ⟨hsound, hcache⟩ := h.perform hc operation
    have hconsistent : (t.perform operation).cache.Consistent := by
      rw [hcache]
      exact hc.history [operation]
    obtain ⟨hrest, hsame⟩ := ih hsound hconsistent
    refine ⟨hrest, hsame.trans ?_⟩
    rw [hcache]
    rfl

/-- The tables hold what a cache holds, and every operation on them has the results that it has
on the cache. -/
structure Keeps (t : Tables) (c : Cache) : Prop where
  holds : t.cache = c
  purged : ∀ now, (t.purge now).map cache id = (c.purge now, c.expiredCount now)
  restored : ∀ sets, (t.restore sets).map cache id = c.restore sets
  applied : ∀ seen m, (t.apply seen m).map (Prod.map cache id) = c.apply seen m

theorem Sound.keeps (h : t.Sound) (hc : t.cache.Consistent) : t.Keeps t.cache where
  holds := rfl
  purged now := Prod.ext (cache_purge t now) (purge_snd t now)
  restored sets := (h.restore hc sets).2
  applied := h.apply_eq

/-- A record of the cache is in the place of its owner. -/
theorem get?_cache_eq_some {o : Owner} {r : Record} : t.cache.records.get? o = some r ↔
    ∃ e, t.entries.get? o.fqdn = some e ∧ e.get o.family = some r := by
  show t.records.get? o = some r ↔ _
  rw [get?_records, record?, Option.bind_eq_some_iff]

theorem Sound.exists_record (h : t.Sound) {fqdn : String} {e : Entry}
    (he : t.entries.get? fqdn = some e) : ∃ family r, e.get family = some r := by
  have hempty := h.filled he
  by_contra hnone
  refine Bool.eq_false_iff.1 hempty (Entry.isEmpty_iff.2 fun family => ?_)
  exact Option.eq_none_iff_forall_not_mem.2 fun r hr => hnone ⟨family, r, hr⟩

theorem exists_name_iff (hc : t.cache.Consistent) (o : Owner) :
    (∃ name, t.names.byOwner.get? o = some name) ↔
      (∃ e r, t.entries.get? o.fqdn = some e ∧ e.get o.family = some r) ∨
        ∃ s ∈ t.restored, s.owner = o := by
  constructor
  · rintro ⟨name, hname⟩
    obtain ⟨expiration, ⟨r, hr, -⟩ | ⟨s, hs, ho, -⟩⟩ := hc.registered hname
    · obtain ⟨e, he, hr⟩ := get?_cache_eq_some.1 hr
      exact .inl ⟨e, r, he, hr⟩
    · exact .inr ⟨s, hs, ho⟩
  · rintro (⟨e, r, he, hr⟩ | ⟨s, hs, rfl⟩)
    · exact ⟨r.setName, hc.recorded (get?_cache_eq_some.2 ⟨e, he, hr⟩)⟩
    · exact ⟨s.setName, hc.restored hs⟩

/--
**The tables of names, after any history.**  The two tables of names are inverse to each other; an
owner is registered exactly if there is a record in its place or a restored set of its own, and
these carry its name; no two restored sets have a name or an owner in common; every entry has a
record; and all names are in the form in which names are compared.  What the tables hold is what
the cache holds after that history, and what happens next has the same result for both.
-/
theorem names_after_history (forwarder : Endpoint) (operations : List Cache.Operation) :
    let t := (Tables.fresh forwarder).history operations
    (∀ name o, t.names.owners.get? name = some o ↔ t.names.byOwner.get? o = some name) ∧
    (∀ o, (∃ name, t.names.byOwner.get? o = some name) ↔
      (∃ e r, t.entries.get? o.fqdn = some e ∧ e.get o.family = some r) ∨
        ∃ s ∈ t.restored, s.owner = o) ∧
    (∀ fqdn e family r, t.entries.get? fqdn = some e → e.get family = some r →
      t.names.byOwner.get? ⟨fqdn, family⟩ = some r.setName) ∧
    (∀ s ∈ t.restored, t.names.byOwner.get? s.owner = some s.setName) ∧
    (t.restored.Pairwise fun s s' => s.setName ≠ s'.setName ∧ s.owner ≠ s'.owner) ∧
    (∀ fqdn e, t.entries.get? fqdn = some e →
      (∃ family r, e.get family = some r) ∧ Name.fullyQualified fqdn = fqdn) ∧
    (∀ s ∈ t.restored, Name.fullyQualified s.fqdn = s.fqdn) ∧
    t.Keeps ((Cache.fresh forwarder).history operations) := by
  intro t
  have hfresh : (Tables.fresh forwarder).cache.Consistent := Cache.Consistent.fresh forwarder
  obtain ⟨hsound, hcache⟩ : t.Sound ∧ t.cache = (Cache.fresh forwarder).history operations :=
    (Sound.fresh forwarder).history hfresh operations
  have hc : t.cache.Consistent := hcache ▸ hfresh.history operations
  rw [← hcache]
  clear_value t
  refine ⟨hsound.inverse, exists_name_iff hc, fun fqdn e family r he hr => ?_,
    fun s => hc.restored, hc.distinct_owners, fun fqdn e he => ?_, fun s hs => ?_,
    hsound.keeps hc⟩
  · have hmem := get?_cache_eq_some (o := ⟨fqdn, family⟩).2 ⟨e, he, hr⟩
    exact hc.recorded hmem
  · obtain ⟨family, r, hr⟩ := hsound.exists_record he
    have hmem := get?_cache_eq_some (o := ⟨fqdn, family⟩).2 ⟨e, he, hr⟩
    have hqualified := hc.qualified (.inl ⟨r, hmem, rfl, rfl⟩)
    exact ⟨⟨family, r, hr⟩, hqualified⟩
  · have hqualified := hc.qualified (.inr ⟨s, hs, rfl, rfl, rfl⟩)
    exact hqualified

/-- Of two names that come to the same letters the second gets a number, in both tables, and of the
saved sets only the first is taken up. -/
example : let t := (Tables.fresh default).history Cache.sampleHistory
    t.names.owners.get? "fqdn_a_b_com_v4" = some ⟨"a-b.com.", .v4⟩ ∧
      t.names.owners.get? "fqdn_a_b_com_v4_1" = some ⟨"a.b.com.", .v4⟩ ∧
      t.names.byOwner.get? ⟨"c.com.", .v4⟩ = none ∧
      t.restored = [Cache.sampleSaved "a-b.com." "fqdn_a_b_com_v4"] := by decide +kernel

end Tables

end Firewall

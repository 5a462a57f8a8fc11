import Mathlib.Data.List.Induction
import Mathlib.Data.List.Nodup
import PromptForm.Table
import PromptForm.Value

/-!
# Reading and writing tables

Reading a table under a key gives what was last put under it, and other keys are not affected. Keys of
forms are compared more loosely than by equality, so the laws ask of a key only that nothing else is
taken for it. A table whose keys are pairwise different is a mapping: reading it depends neither on the
order of its entries nor on how it was made. Tables put over one another are read from the last one that has
the key, and their keys keep the places in which they came first.

## Main definitions

* `LastWith`: the last of some things with a property.
* `Table.Exact`: a key for which no other key is taken.
* `Table.override`: a table with the entries of another one put over its own.
* `Table.overlaid`: several tables, each put over those before it.
-/

namespace PromptForm

/-- The last of some things with a property. -/
def LastWith {α : Type u} (P : α → Prop) (as : List α) (a : α) : Prop :=
  ∃ before after, as = before ++ a :: after ∧ P a ∧ ∀ b ∈ after, ¬P b

theorem getLast?_filter_eq_some_iff {α : Type u} {P : α → Prop} [DecidablePred P] {as : List α} {a : α} :
    (as.filter fun b => P b).getLast? = some a ↔ LastWith P as a := by
  rw [List.getLast?_eq_head?_reverse, ← List.filter_reverse, List.head?_filter,
    List.find?_eq_some_iff_append, LastWith]
  -- what comes first in the other direction comes last
  constructor
  · rintro ⟨ha, after, before, hsplit, hafter⟩
    refine ⟨before.reverse, after.reverse, ?_, by simpa using ha, fun b hb => ?_⟩
    · rw [← as.reverse_reverse, hsplit]
      simp
    · simpa using hafter b (List.mem_reverse.1 hb)
  · rintro ⟨before, after, rfl, ha, hafter⟩
    refine ⟨by simpa using ha, after.reverse, before.reverse, by simp, fun b hb => ?_⟩
    simpa using hafter b (List.mem_reverse.1 hb)

namespace Table

variable {κ : Type u} {ν : Type v} [BEq κ]

def Exact (key : κ) : Prop :=
  ∀ k : κ, (k == key) = true ↔ k = key

theorem exact_of_lawful [LawfulBEq κ] (key : κ) : Exact key :=
  fun _ => beq_iff_eq

theorem Exact.beq_eq_false {key k : κ} (h : Exact key) (hne : k ≠ key) : (k == key) = false := by
  cases hk : k == key with
  | false => rfl
  | true => exact absurd ((h k).1 hk) hne

@[simp] theorem get?_empty (key : κ) : (∅ : Table κ ν).get? key = none := rfl

theorem get?_cons (entry : κ × ν) (entries : List (κ × ν)) (key : κ) :
    (⟨entry :: entries⟩ : Table κ ν).get? key =
      if entry.1 == key then some entry.2 else (⟨entries⟩ : Table κ ν).get? key := by
  rw [get?, List.find?_cons]
  cases entry.1 == key <;> rfl

/-- Nothing is read exactly under the keys that are not there. -/
theorem get?_eq_none_iff {key : κ} (h : Exact key) {t : Table κ ν} :
    t.get? key = none ↔ key ∉ t.keys := by
  rw [get?, Option.map_eq_none_iff, List.find?_eq_none]
  constructor
  · intro hnone hkey
    obtain ⟨entry, hentry, rfl⟩ := List.mem_map.1 hkey
    exact hnone entry hentry ((h entry.1).2 rfl)
  · intro hkey entry hentry hsame
    exact hkey ((h entry.1).1 hsame ▸ List.mem_map_of_mem hentry)

/-- What is read from a table is one of its values. -/
theorem mem_values_of_get? {t : Table κ ν} {key : κ} {value : ν} (h : t.get? key = some value) :
    value ∈ t.values := by
  obtain ⟨entry, hentry, rfl⟩ := Option.map_eq_some_iff.1 h
  exact List.mem_map_of_mem (List.mem_of_find?_eq_some hentry)

/-! ### Putting -/

theorem get?_put_self {key : κ} (h : Exact key) (t : Table κ ν) (value : ν) :
    (t.put key value).get? key = some value := by
  have hself : (key == key) = true := (h key).2 rfl
  obtain ⟨entries⟩ := t
  induction entries with
  | nil => simp [put, putEntry, get?, hself]
  | cons entry entries ih =>
    rw [put] at ih
    rw [put, putEntry]
    split
    · next heq => rw [get?_cons, if_pos heq]
    · next hne => rw [get?_cons, if_neg hne, ih]

theorem get?_put_of_ne {key other : κ} (h : Exact key) (ho : Exact other) (hne : key ≠ other)
    (t : Table κ ν) (value : ν) : (t.put key value).get? other = t.get? other := by
  have hcross : ∀ {k : κ}, (k == key) = true → (k == other) = false := by
    intro k hk
    rw [(h k).1 hk]
    exact ho.beq_eq_false hne
  obtain ⟨entries⟩ := t
  induction entries with
  | nil => simp [put, putEntry, get?, ho.beq_eq_false hne]
  | cons entry entries ih =>
    rw [put] at ih
    rw [put, putEntry]
    split
    · next heq => simp only [get?_cons, hcross heq, Bool.false_eq_true, if_false]
    · rw [get?_cons, get?_cons, ih]

theorem mem_entries_put {key : κ} (h : Exact key) {t : Table κ ν} {value : ν} {entry : κ × ν}
    (hentry : entry ∈ (t.put key value).entries) : entry = (key, value) ∨ entry ∈ t.entries := by
  obtain ⟨entries⟩ := t
  rw [put] at hentry
  induction entries with
  | nil => exact .inl (List.mem_singleton.1 hentry)
  | cons first entries ih =>
    rw [putEntry] at hentry
    split at hentry
    · next hfirst =>
      rcases List.mem_cons.1 hentry with rfl | hentry
      · exact .inl (congrArg (·, value) ((h first.1).1 hfirst))
      · exact .inr (List.mem_cons_of_mem _ hentry)
    · rcases List.mem_cons.1 hentry with rfl | hentry
      · exact .inr List.mem_cons_self
      · exact (ih hentry).imp_right (List.mem_cons_of_mem _)

/-- Putting a value under a key that is not there adds an entry at the end. -/
theorem put_of_not_mem {key : κ} (h : Exact key) {t : Table κ ν} (hkey : key ∉ t.keys) (value : ν) :
    t.put key value = ⟨t.entries ++ [(key, value)]⟩ := by
  obtain ⟨entries⟩ := t
  rw [put, mk.injEq]
  induction entries with
  | nil => rfl
  | cons entry entries ih =>
    rw [keys, List.map_cons, List.mem_cons, not_or] at hkey
    have hne : (entry.1 == key) = false := h.beq_eq_false fun he => hkey.1 he.symm
    rw [putEntry, hne, List.cons_append]
    exact congrArg (entry :: ·) (ih hkey.2)

theorem keys_put_of_mem {key : κ} (h : Exact key) {t : Table κ ν} (hkey : key ∈ t.keys) (value : ν) :
    (t.put key value).keys = t.keys := by
  obtain ⟨entries⟩ := t
  simp only [put, keys] at hkey ⊢
  induction entries with
  | nil => cases hkey
  | cons entry entries ih =>
    rw [putEntry]
    split
    · rfl
    · next hne =>
      rw [List.map_cons, List.mem_cons] at hkey
      have htail : key ∈ entries.map Prod.fst :=
        hkey.resolve_left fun he => hne ((h entry.1).2 he.symm)
      rw [List.map_cons, List.map_cons, ih htail]

theorem mem_keys_put {key other : κ} (h : Exact key) {t : Table κ ν} {value : ν} :
    other ∈ (t.put key value).keys ↔ other ∈ t.keys ∨ other = key := by
  by_cases hkey : key ∈ t.keys
  · rw [keys_put_of_mem h hkey]
    constructor
    · exact .inl
    · rintro (hother | rfl)
      · exact hother
      · exact hkey
  · rw [put_of_not_mem h hkey]
    simp [keys]

theorem nodup_keys_put {key : κ} (h : Exact key) {t : Table κ ν} (hnodup : t.keys.Nodup)
    (value : ν) : (t.put key value).keys.Nodup := by
  by_cases hkey : key ∈ t.keys
  · rwa [keys_put_of_mem h hkey]
  · rw [put_of_not_mem h hkey, keys, List.map_append]
    refine List.nodup_append.2 ⟨hnodup, List.nodup_cons.2 ⟨List.not_mem_nil, List.nodup_nil⟩, ?_⟩
    rintro k hk k' hk' rfl
    rw [List.mem_singleton.1 hk'] at hk
    exact hkey hk

/-- Of two values put under a key the second one counts. -/
theorem put_put {key : κ} (h : Exact key) (t : Table κ ν) (value next : ν) :
    (t.put key value).put key next = t.put key next := by
  have hself : (key == key) = true := (h key).2 rfl
  obtain ⟨entries⟩ := t
  rw [put, put, put, mk.injEq]
  induction entries with
  | nil => simp [putEntry, hself]
  | cons entry entries ih =>
    rw [putEntry, putEntry]
    split
    · next heq => rw [putEntry, if_pos heq]
    · next hne => rw [putEntry, if_neg hne, ih]

/-- Putting the value back that a key has changes nothing. -/
theorem put_of_get? {t : Table κ ν} {key : κ} {value : ν} (h : t.get? key = some value) :
    t.put key value = t := by
  obtain ⟨entries⟩ := t
  rw [put, mk.injEq]
  induction entries with
  | nil => cases h
  | cons entry entries ih =>
    rw [get?_cons] at h
    rw [putEntry]
    split
    · next heq =>
      rw [if_pos heq] at h
      rw [← Option.some.inj h]
    · next hne =>
      rw [if_neg hne] at h
      rw [ih h]

/-- Another value can be put before or after that of a key that is there. -/
theorem put_put_of_ne {key other : κ} (h : Exact key) (ho : Exact other) (hne : other ≠ key)
    {t : Table κ ν} (hkey : key ∈ t.keys) (value next : ν) :
    (t.put other next).put key value = (t.put key value).put other next := by
  obtain ⟨entries⟩ := t
  rw [put, put, put, put, mk.injEq]
  induction entries with
  | nil => cases hkey
  | cons entry entries ih =>
    rcases List.mem_cons.1 hkey with rfl | htail
    · have hself : (entry.1 == entry.1) = true := (h entry.1).2 rfl
      simp [putEntry, hself, ho.beq_eq_false hne.symm]
    · by_cases hentry : entry.1 = other
      · have hother : (entry.1 == other) = true := (ho entry.1).2 hentry
        have hother' : (entry.1 == key) = false := h.beq_eq_false (hentry ▸ hne)
        simp [putEntry, hother, hother']
      · by_cases hself : entry.1 == key
        · simp [putEntry, hself, ho.beq_eq_false hentry]
        · simp [putEntry, hself, ho.beq_eq_false hentry, ih htail]

/-! ### Tables with different keys -/

theorem get?_eq_some_iff {key : κ} (h : Exact key) {t : Table κ ν} (hnodup : t.keys.Nodup)
    {value : ν} : t.get? key = some value ↔ (key, value) ∈ t.entries := by
  obtain ⟨entries⟩ := t
  induction entries with
  | nil => simp [get?]
  | cons entry entries ih =>
    obtain ⟨k, v⟩ := entry
    obtain ⟨hk, htail⟩ := List.nodup_cons.1 hnodup
    rw [get?_cons]
    by_cases heq : k = key
    · subst heq
      rw [if_pos ((h k).2 rfl), List.mem_cons]
      constructor
      · intro hv
        exact .inl (congrArg (Prod.mk k) (Option.some.inj hv).symm)
      · rintro (hv | hmem)
        · rw [(Prod.mk.inj hv).2]
        · exact absurd (List.mem_map_of_mem hmem) hk
    · rw [if_neg (by rw [h.beq_eq_false heq]; decide), ih htail, List.mem_cons]
      constructor
      · exact .inr
      · rintro (hv | hmem)
        · exact absurd (Prod.mk.inj hv).1.symm heq
        · exact hmem

/-- Apart from the value that was put, the entries of other keys are left. -/
theorem mem_entries_put_of_nodup {key : κ} (h : Exact key) {t : Table κ ν} (hnodup : t.keys.Nodup)
    {value : ν} {entry : κ × ν} (hentry : entry ∈ (t.put key value).entries) :
    entry = (key, value) ∨ entry ∈ t.entries ∧ entry.1 ≠ key := by
  by_cases hkey : entry.1 = key
  · obtain ⟨k, v⟩ := entry
    obtain rfl : k = key := hkey
    have hread := (get?_eq_some_iff h (nodup_keys_put h hnodup value)).2 hentry
    rw [get?_put_self h] at hread
    exact .inl (congrArg (Prod.mk k) (Option.some.inj hread).symm)
  · rcases mem_entries_put h hentry with rfl | hentry
    · exact absurd rfl hkey
    · exact .inr ⟨hentry, hkey⟩

/-- Reading a table does not depend on the order of its entries. -/
theorem get?_eq_of_perm {key : κ} (h : Exact key) {t u : Table κ ν} (hnodup : t.keys.Nodup)
    (hperm : u.entries.Perm t.entries) : u.get? key = t.get? key := by
  have hnodup' : u.keys.Nodup := ((hperm.map Prod.fst).nodup_iff).2 hnodup
  apply Option.ext
  intro value
  rw [get?_eq_some_iff h hnodup', get?_eq_some_iff h hnodup, hperm.mem_iff]

/-- Tables from which the same is read under all their keys differ in the order of their entries
only. -/
theorem perm_of_get?_eq {t u : Table κ ν} (ht : t.keys.Nodup) (hu : u.keys.Nodup)
    (h : ∀ key, key ∈ t.keys ∨ key ∈ u.keys → Exact key ∧ u.get? key = t.get? key) :
    u.entries.Perm t.entries := by
  have hentries : ∀ {s : Table κ ν}, s.keys.Nodup → s.entries.Nodup := fun hs =>
    List.Nodup.of_map Prod.fst hs
  refine (List.perm_ext_iff_of_nodup (hentries hu) (hentries ht)).2 fun entry => ?_
  constructor
  · intro hentry
    obtain ⟨hkey, hread⟩ := h entry.1 (.inr (List.mem_map_of_mem hentry))
    exact (get?_eq_some_iff hkey ht).1 (hread ▸ (get?_eq_some_iff hkey hu).2 hentry)
  · intro hentry
    obtain ⟨hkey, hread⟩ := h entry.1 (.inl (List.mem_map_of_mem hentry))
    exact (get?_eq_some_iff hkey hu).1 (hread.trans ((get?_eq_some_iff hkey ht).2 hentry))

/-- A table is what is read from it under its keys. -/
theorem entries_eq_filterMap {t : Table κ ν} (hexact : ∀ key ∈ t.keys, Exact key)
    (hnodup : t.keys.Nodup) :
    t.entries = t.keys.filterMap fun key => (t.get? key).map (Prod.mk key) := by
  have hread : ∀ entry ∈ t.entries,
      (t.get? entry.1).map (Prod.mk entry.1) = some entry := by
    intro entry hentry
    have hkey := hexact entry.1 (List.mem_map_of_mem hentry)
    rw [(get?_eq_some_iff hkey hnodup).2 hentry]
    rfl
  rw [keys, List.filterMap_map]
  exact (List.filterMap_some.symm.trans (List.filterMap_congr fun entry h => (hread entry h).symm))

/-! ### Tables of pairs -/

section Pairs

variable [LawfulBEq κ]

/-- No key comes twice in a table that is put together of pairs. -/
theorem nodup_keys_ofPairs (pairs : List (κ × ν)) : (ofPairs pairs).keys.Nodup :=
  List.foldlRecOn (motive := fun t : Table κ ν => t.keys.Nodup) pairs _ List.nodup_nil
    fun _ h pair _ => nodup_keys_put (exact_of_lawful pair.1) h _

/-- The entries of a table that is put together of pairs are among the pairs. -/
theorem mem_of_mem_ofPairs {pairs : List (κ × ν)} {entry : κ × ν}
    (h : entry ∈ (ofPairs pairs).entries) : entry ∈ pairs := by
  refine List.foldlRecOn (motive := fun t : Table κ ν => ∀ entry ∈ t.entries, entry ∈ pairs)
    pairs _ (fun _ h => absurd h List.not_mem_nil) (fun t ht pair hpair entry hentry => ?_) entry h
  rcases mem_entries_put (exact_of_lawful pair.1) hentry with rfl | hentry
  · exact hpair
  · exact ht entry hentry

/-- Of the pairs with a key the last one counts. -/
theorem get?_ofPairs (pairs : List (κ × ν)) (key : κ) :
    (ofPairs pairs).get? key = (pairs.filter fun pair => pair.1 == key).getLast?.map Prod.snd := by
  induction pairs using List.reverseRecOn with
  | nil => rfl
  | append_singleton pairs pair ih =>
    have hput : ofPairs (pairs ++ [pair]) = (ofPairs pairs).put pair.1 pair.2 :=
      List.foldl_append
    rw [hput, List.filter_append]
    by_cases hkey : pair.1 = key
    · subst hkey
      rw [get?_put_self (exact_of_lawful pair.1)]
      simp
    · rw [get?_put_of_ne (exact_of_lawful pair.1) (exact_of_lawful key) hkey, ih]
      simp [hkey]

/-- Pairs with different keys are the entries of their table. -/
theorem ofPairs_of_nodup {pairs : List (κ × ν)} (h : (pairs.map Prod.fst).Nodup) :
    ofPairs pairs = ⟨pairs⟩ := by
  have hput : ∀ t : Table κ ν, (t.keys ++ pairs.map Prod.fst).Nodup →
      pairs.foldl (fun t pair => t.put pair.1 pair.2) t = ⟨t.entries ++ pairs⟩ := by
    clear h
    -- the keys of the table so far count among the different ones
    induction pairs with
    | nil => intro t _; simp
    | cons pair pairs ih =>
      intro t ht
      rw [List.map_cons, List.append_cons] at ht
      have hkey : pair.1 ∉ t.keys := fun hmem =>
        (List.nodup_append.1 (List.nodup_append.1 ht).1).2.2 _ hmem _ List.mem_cons_self rfl
      rw [List.foldl_cons, put_of_not_mem (exact_of_lawful pair.1) hkey, ih]
      · simp
      · simpa [keys] using ht
  exact hput ∅ h

end Pairs

/-! ### Tables put over one another -/

section Override

/-- The table with the entries of another one put over its own. -/
def override (t upper : Table κ ν) : Table κ ν :=
  upper.entries.foldl (fun t entry => t.put entry.1 entry.2) t

theorem override_cons (t : Table κ ν) (entry : κ × ν) (entries : List (κ × ν)) :
    t.override ⟨entry :: entries⟩ = (t.put entry.1 entry.2).override ⟨entries⟩ := rfl

variable [LawfulBEq κ]

theorem nodup_keys_override {t : Table κ ν} (h : t.keys.Nodup) (upper : Table κ ν) :
    (t.override upper).keys.Nodup :=
  List.foldlRecOn (motive := fun t : Table κ ν => t.keys.Nodup) upper.entries _ h
    fun _ h entry _ => nodup_keys_put (exact_of_lawful entry.1) h _

/-- What is put over a table is read first. -/
theorem get?_override (t : Table κ ν) {upper : Table κ ν} (hnodup : upper.keys.Nodup) (key : κ) :
    (t.override upper).get? key = (upper.get? key).or (t.get? key) := by
  obtain ⟨entries⟩ := upper
  induction entries generalizing t with
  | nil => rfl
  | cons entry entries ih =>
    obtain ⟨hnew, hrest⟩ := List.nodup_cons.1 hnodup
    have hstep : t.override ⟨entry :: entries⟩ = (t.put entry.1 entry.2).override ⟨entries⟩ := rfl
    rw [hstep, ih (t.put entry.1 entry.2) hrest, get?_cons]
    by_cases hkey : entry.1 = key
    · subst hkey
      -- the key comes no more, so that the value put under it stays
      have hnone : (⟨entries⟩ : Table κ ν).get? entry.1 = none :=
        (get?_eq_none_iff (exact_of_lawful _)).2 hnew
      rw [hnone, if_pos (beq_self_eq_true _), get?_put_self (exact_of_lawful _)]
      rfl
    · rw [get?_put_of_ne (exact_of_lawful _) (exact_of_lawful _) hkey,
        if_neg (by simpa using hkey)]

/-- A value under a key that is there can be put before or after a table that does not have the key. -/
theorem override_put_of_not_mem {t upper : Table κ ν} {key : κ} (hkey : key ∈ t.keys)
    (hupper : key ∉ upper.keys) (value : ν) :
    (t.override upper).put key value = (t.put key value).override upper := by
  obtain ⟨entries⟩ := upper
  induction entries generalizing t with
  | nil => rfl
  | cons entry entries ih =>
    rw [keys, List.map_cons, List.mem_cons, not_or] at hupper
    have hne : entry.1 ≠ key := fun he => hupper.1 he.symm
    have hkey' : key ∈ (t.put entry.1 entry.2).keys :=
      (mem_keys_put (exact_of_lawful _)).2 (.inl hkey)
    rw [override_cons, override_cons, ih hkey' hupper.2,
      put_put_of_ne (exact_of_lawful _) (exact_of_lawful _) hne hkey]

/-- What is put into the upper table is put last. -/
theorem override_put {upper : Table κ ν} (hnodup : upper.keys.Nodup) (t : Table κ ν) (key : κ)
    (value : ν) : t.override (upper.put key value) = (t.override upper).put key value := by
  obtain ⟨entries⟩ := upper
  induction entries generalizing t with
  | nil => rfl
  | cons entry entries ih =>
    obtain ⟨hnew, hrest⟩ := List.nodup_cons.1 hnodup
    rw [put, putEntry]
    split
    · next heq =>
      -- the key comes here and no more, so that its value may be put at once
      obtain rfl : entry.1 = key := beq_iff_eq.1 heq
      have hmem : entry.1 ∈ (t.put entry.1 entry.2).keys :=
        (mem_keys_put (exact_of_lawful _)).2 (.inr rfl)
      rw [override_cons, override_cons, override_put_of_not_mem hmem hnew, put_put (exact_of_lawful _)]
    · exact ih (t.put entry.1 entry.2) hrest

/-- The pairs of a list after another one are put over the table of that. -/
theorem ofPairs_append (pairs more : List (κ × ν)) :
    ofPairs (pairs ++ more) = (ofPairs pairs).override (ofPairs more) := by
  induction more using List.reverseRecOn with
  | nil => rw [List.append_nil]; rfl
  | append_singleton more pair ih =>
    have hput : ∀ pairs : List (κ × ν), ofPairs (pairs ++ [pair]) = (ofPairs pairs).put pair.1 pair.2 :=
      fun _ => List.foldl_append
    rw [← List.append_assoc, hput, hput, ih, override_put (nodup_keys_ofPairs more)]

/-- In a list without duplicates none is left out. -/
theorem eraseDups_of_nodup {keys : List κ} (h : keys.Nodup) : keys.eraseDups = keys := by
  induction keys with
  | nil => rfl
  | cons key keys ih =>
    obtain ⟨hnew, hrest⟩ := List.nodup_cons.1 h
    have hother : keys.filter (fun k => !k == key) = keys :=
      List.filter_eq_self.2 fun k hk => by
        have hne : k ≠ key := fun he => hnew (he ▸ hk)
        simpa using hne
    rw [List.eraseDups_cons, hother, ih hrest]

/-- Each of the tables put over those before it. -/
def overlaid (tables : List (Table κ ν)) : Table κ ν :=
  tables.foldl override ∅

omit [LawfulBEq κ] in
theorem overlaid_append_singleton (tables : List (Table κ ν)) (t : Table κ ν) :
    overlaid (tables ++ [t]) = (overlaid tables).override t :=
  List.foldl_append

/-- A table of pairs from several sources is their tables put over one another. -/
theorem ofPairs_flatMap {α : Type w} (f : α → List (κ × ν)) (as : List α) :
    ofPairs (as.flatMap f) = overlaid (as.map fun a => ofPairs (f a)) := by
  induction as using List.reverseRecOn with
  | nil => rfl
  | append_singleton as a ih =>
    rw [List.flatMap_append, List.flatMap_singleton, ofPairs_append, ih, List.map_append,
      List.map_singleton, overlaid_append_singleton]

/-- What stands under a key stands there in the last table that has the key. -/
theorem get?_overlaid {tables : List (Table κ ν)} (h : ∀ t ∈ tables, t.keys.Nodup) (key : κ) :
    (overlaid tables).get? key = tables.reverse.findSome? (·.get? key) := by
  induction tables using List.reverseRecOn with
  | nil => rfl
  | append_singleton tables t ih =>
    obtain ⟨htables, ht⟩ := List.forall_mem_append.1 h
    rw [overlaid_append_singleton, get?_override _ (ht t List.mem_cons_self), ih htables,
      List.reverse_append, List.reverse_singleton, List.singleton_append, List.findSome?_cons]
    cases t.get? key <;> rfl

/-- The keys of a table that is put over another one come after the keys of that, unless they are there. -/
theorem keys_override (t : Table κ ν) {upper : Table κ ν} (hnodup : upper.keys.Nodup) :
    (t.override upper).keys = t.keys ++ upper.keys.removeAll t.keys := by
  obtain ⟨entries⟩ := upper
  induction entries generalizing t with
  | nil => exact (List.append_nil _).symm
  | cons entry entries ih =>
    obtain ⟨hnew, hrest⟩ := List.nodup_cons.1 hnodup
    have hkeys : keys ⟨entry :: entries⟩ = entry.1 :: keys ⟨entries⟩ := rfl
    rw [override_cons, ih _ hrest, hkeys, List.cons_removeAll]
    by_cases hkey : entry.1 ∈ t.keys
    · rw [keys_put_of_mem (exact_of_lawful _) hkey, if_neg (by simpa using hkey)]
    · have hput : (t.put entry.1 entry.2).keys = t.keys ++ [entry.1] := by
        rw [put_of_not_mem (exact_of_lawful _) hkey, keys, List.map_append]
        rfl
      have hother : (keys ⟨entries⟩).removeAll (t.keys ++ [entry.1]) =
          (keys ⟨entries⟩).removeAll t.keys := by
        refine List.filter_congr fun key hmem => ?_
        have hne : key ≠ entry.1 := fun he => hnew (he ▸ hmem)
        simp [hne]
      rw [hput, if_pos (by simpa using hkey), hother, List.append_assoc]
      rfl

/-- The keys of tables stand in the places where they come first. -/
theorem keys_overlaid {tables : List (Table κ ν)} (h : ∀ t ∈ tables, t.keys.Nodup) :
    (overlaid tables).keys = (tables.flatMap keys).eraseDups := by
  induction tables using List.reverseRecOn with
  | nil => rfl
  | append_singleton tables t ih =>
    obtain ⟨htables, ht⟩ := List.forall_mem_append.1 h
    have hnodup := ht t List.mem_cons_self
    rw [overlaid_append_singleton, keys_override _ hnodup, ih htables, List.flatMap_append,
      List.flatMap_singleton, List.eraseDups_append]
    have hthere : t.keys.removeAll (tables.flatMap keys).eraseDups =
        t.keys.removeAll (tables.flatMap keys) :=
      List.filter_congr fun key _ => by simp [List.mem_eraseDups]
    have hremoved : (t.keys.removeAll (tables.flatMap keys)).Nodup := hnodup.filter _
    rw [hthere, eraseDups_of_nodup hremoved]

/-- The keys of a table that is put together of pairs stand in the places where they come first. -/
theorem keys_ofPairs (pairs : List (κ × ν)) : (ofPairs pairs).keys = (pairs.map Prod.fst).eraseDups := by
  have hone : ∀ t ∈ pairs.map fun pair => ofPairs [pair], t.keys.Nodup := by
    refine List.forall_mem_map.2 fun pair _ => ?_
    exact nodup_keys_ofPairs [pair]
  have hpairs : ofPairs pairs = overlaid (pairs.map fun pair => ofPairs [pair]) := by
    rw [← ofPairs_flatMap, List.flatMap_singleton']
  have hkey : ∀ pair : κ × ν, keys (ofPairs [pair]) = [pair.1] := fun _ => rfl
  rw [hpairs, keys_overlaid hone, List.flatMap_map]
  simp only [hkey]
  rw [List.map_eq_flatMap]

end Override

end Table

/-- A text names only itself among all values. -/
theorem Value.exact_text (name : String) : Table.Exact (Value.text name) := by
  intro v
  cases v with
  | text s => simp
  | _ => simp [BEq.beq, Value.same, Value.wholeNumber?]

end PromptForm

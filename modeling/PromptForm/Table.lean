/-!
# Tables

A table maps keys to values and remembers the order in which its keys came. Putting a value under a
key that is there already replaces the value and keeps the key's place.

## Main definitions

* `Table`: the entries, in order.
* `Table.put`, `Table.get?`: writing and reading.
* `Table.ofPairs`: the table of a list of pairs, the last value of a repeated key winning.
-/

namespace PromptForm

structure Table (κ : Type u) (ν : Type v) where
  /-- The entries in the order in which their keys were first put. -/
  entries : List (κ × ν)
  deriving Repr, DecidableEq

namespace Table

variable {κ : Type u} {ν : Type v}

def empty : Table κ ν := ⟨[]⟩

instance : EmptyCollection (Table κ ν) := ⟨empty⟩

instance : Inhabited (Table κ ν) := ⟨empty⟩

def keys (t : Table κ ν) : List κ := t.entries.map Prod.fst

/-- The values in the order of their keys. -/
def values (t : Table κ ν) : List ν := t.entries.map Prod.snd

def size (t : Table κ ν) : Nat := t.entries.length

variable [BEq κ]

def get? (t : Table κ ν) (key : κ) : Option ν :=
  (t.entries.find? fun entry => entry.1 == key).map Prod.snd

def contains (t : Table κ ν) (key : κ) : Bool :=
  t.entries.any fun entry => entry.1 == key

/-- The entries with the value of a key replaced, or with a new entry at the end. -/
def putEntry (key : κ) (value : ν) : List (κ × ν) → List (κ × ν)
  | [] => [(key, value)]
  | entry :: rest =>
    if entry.1 == key then (entry.1, value) :: rest else entry :: putEntry key value rest

/-- The table with a value put under a key. -/
def put (t : Table κ ν) (key : κ) (value : ν) : Table κ ν :=
  ⟨putEntry key value t.entries⟩

/-- The table in which the pairs were put one after the other. -/
def ofPairs (pairs : List (κ × ν)) : Table κ ν :=
  pairs.foldl (fun t pair => t.put pair.1 pair.2) empty

@[simp] theorem ofPairs_nil : ofPairs ([] : List (κ × ν)) = empty := rfl

/-- A key is in a table exactly when it has a value there. -/
theorem isSome_get? (t : Table κ ν) (key : κ) : (t.get? key).isSome = t.contains key := by
  rw [get?, contains, Option.isSome_map, Bool.eq_iff_iff]
  simp

end Table

end PromptForm

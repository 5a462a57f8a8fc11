import PromptForm.Yaml.Datum

/-!
# The order of a set of numbers

A set keeps its members in a table of slots, more than there are members, and lists them slot after
slot. The slot of a number follows from its residue; where that slot is taken, others are tried in a
fixed order. Sets that hold anything but numbers are listed in the order in which their members came.

## Main definitions

* `Slots.residue?`: the residue of a number.
* `Slots.slotFrom`: the slot that a member gets.
* `Slots.ordered`: the members of a set in the order in which it lists them.
-/

namespace PromptForm

namespace Yaml

namespace Slots

/-- The modulus of residues, a prime number: one less than the 61st power of two. -/
def modulus : Nat := 2305843009213693951

/-- The residue with a sign; minus one is not used. -/
def signed (negative : Bool) (n : Nat) : Int :=
  if negative then (if n = 1 then -2 else -(n : Int)) else n

/-- The residue of a number. Halving is multiplication by the 60th power of two, since the 61st has
the residue one. -/
def residue? : Datum → Option Int
  | .scalar (.bool b) => some (if b then 1 else 0)
  | .scalar (.int n) => some (signed (n < 0) (n.natAbs % modulus))
  | .scalar (.real (.infinite negative)) => some (if negative then -314159 else 314159)
  | .scalar (.real x) =>
    x.toRatio?.map fun (num, den) =>
      signed (num < 0) (num.natAbs * Nat.pow 2 (60 * den.log2 % 61) % modulus)
  | _ => none

def slotCount (members : Nat) : Nat :=
  if members < 5 then 8 else Nat.pow 2 ((2 * members).log2 + 1)

/-- The slots that are tried from one on: the next ten, or it alone near the end of the table. -/
def tried (count first : Nat) : List Nat :=
  if first + 9 < count then (List.range 10).map (first + ·) else [first]

/-- The slot that a member gets: the first free one of those that are tried, `left` being what is left
of its residue to tell where to try next. -/
def slotFrom (table : Array (Option Datum)) : Nat → Nat → Nat → Option Nat
  | 0, _, _ => none
  | fuel + 1, first, left =>
    match (tried table.size first).find? fun i => (table.getD i none).isNone with
    | some i => some i
    | none => slotFrom table fuel ((first * 5 + 1 + left / 32) % table.size) (left / 32)

/-- The table with a member put into a slot. Its residue counts as a word of 64 bits. -/
def insert (table : Array (Option Datum)) (member : Datum) (residue : Int) :
    Array (Option Datum) :=
  let word := (residue % (Nat.pow 2 64 : Nat)).toNat
  match slotFrom table (table.size + 16) (word % table.size) word with
  | some i => table.setIfInBounds i (some member)
  | none => table

/-- The members of a set in the order in which it lists them. -/
def ordered (members : List Datum) : List Datum :=
  match members.mapM fun d => (residue? d).map fun residue => (d, residue) with
  | none => members
  | some rows =>
    let table := Array.replicate (slotCount rows.length) none
    (rows.foldl (fun table row => insert table row.1 row.2) table).toList.filterMap id

end Slots

end Yaml

end PromptForm

import PromptForm.Proofs.Schema.Defaults
import PromptForm.Proofs.Xml.Order

/-!
# The variables that a tree declares

Every element of a variable leaves a trace: it gives its name to the table of the variables, or it has no name
and a warning tells so, or a variable of its name came before and a record tells so. The names stand in the
table in the order in which they come first, and each leads to what the last element of that name declares.

## Main definitions

* `Variable.newNames`: the names that come up in elements for the first time.

## Main results

* `Variable.length_eventsFrom`: the elements are as many as the new names and the records of the others.
* `Variable.tableOf_accounts`: where the elements of variables are left.
-/

namespace PromptForm

open Relation (ReflTransGen)
open Xml (Element)

/-- Whether the event tells of a variable that replaces an earlier one. -/
def Event.isRepetition : Event → Bool
  | repeatedVariable _ => true
  | _ => false

namespace Variable

/-- The names that come up in the elements, without those that came up before; an empty name is none. -/
def newNames (seen : List String) (es : List Element) : List String :=
  ((es.map nameOf).filter fun name => name != "" && !seen.contains name).eraseDups

theorem newNames_cons_of_unnamed {e : Element} (hname : nameOf e = "") (seen : List String)
    (es : List Element) : newNames seen (e :: es) = newNames seen es := by
  rw [newNames, List.map_cons, List.filter_cons_of_neg (by simp [hname])]
  rfl

theorem newNames_cons_of_seen {e : Element} {seen : List String} (hseen : nameOf e ∈ seen)
    (es : List Element) : newNames seen (e :: es) = newNames (nameOf e :: seen) es := by
  rw [newNames, List.map_cons, List.filter_cons_of_neg (by simp [hseen]), newNames]
  congr 1
  refine List.filter_congr fun name _ => ?_
  by_cases hsame : name = nameOf e
  · simp [hsame, hseen]
  · simp [hsame]

theorem newNames_cons_of_new {e : Element} {seen : List String} (hname : nameOf e ≠ "")
    (hseen : nameOf e ∉ seen) (es : List Element) :
    newNames seen (e :: es) = nameOf e :: newNames (nameOf e :: seen) es := by
  rw [newNames, List.map_cons, List.filter_cons_of_pos (by simp [hname, hseen]), List.eraseDups_cons,
    List.filter_filter, newNames]
  congr 2
  refine List.filter_congr fun name _ => ?_
  by_cases hsame : name = nameOf e
  · simp [hsame]
  · simp [hsame]

/-- The records of captions tell of no variable. -/
theorem count_tickEvents (owner : String) (e : Element) :
    (tickEvents owner e).count .unnamedVariable = 0 ∧
      (tickEvents owner e).countP (·.isRepetition) = 0 := by
  constructor
  · refine List.count_eq_zero.2 fun h => ?_
    obtain ⟨tick, -, htick⟩ := List.mem_map.1 h
    cases htick
  · refine List.countP_eq_zero.2 fun event h => ?_
    obtain ⟨tick, -, rfl⟩ := List.mem_map.1 h
    exact Bool.false_ne_true

/-- Of the elements each has a new name, or no name, or a name that came up before. -/
theorem length_eventsFrom (seen : List String) (es : List Element) :
    es.length = (newNames seen es).length + (eventsFrom seen es).count .unnamedVariable +
      (eventsFrom seen es).countP (·.isRepetition) := by
  induction es generalizing seen with
  | nil => rfl
  | cons e es ih =>
    rw [eventsFrom]
    split
    · next hname =>
      have hrest := ih seen
      rw [newNames_cons_of_unnamed hname, List.count_cons_self, List.countP_cons_of_neg (by decide),
        List.length_cons]
      omega
    · next hname =>
      have hrest := ih (nameOf e :: seen)
      obtain ⟨hunnamed, hrepeated⟩ := count_tickEvents (nameOf e) e
      simp only [List.count_append, List.countP_append, hunnamed, hrepeated, List.length_cons]
      by_cases hseen : nameOf e ∈ seen
      · have hrecord : (if seen.contains (nameOf e) then [Event.repeatedVariable (nameOf e)] else []) =
            [.repeatedVariable (nameOf e)] := if_pos (by simpa using hseen)
        have hone : ([.repeatedVariable (nameOf e)] : List Event).count .unnamedVariable = 0 := rfl
        have hcount : ([.repeatedVariable (nameOf e)] : List Event).countP (·.isRepetition) = 1 := rfl
        rw [newNames_cons_of_seen hseen, hrecord, hone, hcount]
        omega
      · have hrecord : (if seen.contains (nameOf e) then [Event.repeatedVariable (nameOf e)] else []) =
            [] := if_neg (by simpa using hseen)
        rw [newNames_cons_of_new hname hseen, hrecord, List.length_cons, List.count_nil, List.countP_nil]
        omega

theorem keys_tableOf (root : Element) : (tableOf root).keys = newNames [] (elements root) := by
  have hnames : ((namedElements root).map fun e => (nameOf e, ofElement e)).map Prod.fst =
      ((elements root).map nameOf).filter (· != "") := by
    rw [List.map_map, namedElements, List.filter_map]
    rfl
  rw [tableOf, Table.keys_ofPairs, hnames, newNames]
  simp

theorem mem_keys_tableOf {root : Element} {name : String} :
    name ∈ (tableOf root).keys ↔ name ≠ "" ∧ ∃ e ∈ elements root, e.attribute? "name" = some name := by
  rw [keys_tableOf, newNames, List.mem_eraseDups, List.mem_filter, List.mem_map]
  constructor
  · rintro ⟨⟨e, he, rfl⟩, hname⟩
    have hne : nameOf e ≠ "" := by simpa using hname
    refine ⟨hne, e, he, ?_⟩
    cases hattribute : e.attribute? "name" with
    | none => exact absurd (by rw [nameOf, hattribute]; rfl) hne
    | some name => rw [nameOf, hattribute, Option.getD_some]
  · rintro ⟨hname, e, he, hattribute⟩
    exact ⟨⟨e, he, by rw [nameOf, hattribute, Option.getD_some]⟩, by simpa using hname⟩

/-- What stands in the table under a name is what the last element of that name declares. -/
theorem lastWith_of_mem_tableOf {root : Element} {entry : String × Variable}
    (h : entry ∈ (tableOf root).entries) :
    ∃ e, LastWith (nameOf · = entry.1) (elements root) e ∧ entry.2 = ofElement e := by
  have hget : (tableOf root).get? entry.1 = some entry.2 :=
    (Table.get?_eq_some_iff (Table.exact_of_lawful _) (Table.nodup_keys_ofPairs _)).2 h
  have hname : entry.1 ≠ "" := (mem_keys_tableOf.1 (List.mem_map_of_mem h)).1
  rw [get?_tableOf root hname] at hget
  obtain ⟨e, hlast, hentry⟩ := Option.map_eq_some_iff.1 hget
  exact ⟨e, getLast?_filter_eq_some_iff.1 hlast, hentry.symm⟩

/-- **Every element of a variable is accounted for.** The elements of variables are those with that tag that
children lead to from the root, the root included. The keys of the table are their names that are not empty,
each once and in the place where it comes first; under each key stands what the last element of that name
declares, with the key as its name and with a label. The elements are as many as the keys, the warnings of a
missing name and the records of a repeated one together. -/
theorem tableOf_accounts (root : Element) :
    (∀ e, e ∈ elements root ↔
        e.tag = "variable" ∧ ReflTransGen (fun parent child : Element => child ∈ parent.children) root e) ∧
      (∀ name, name ∈ (tableOf root).keys ↔
        name ≠ "" ∧ ∃ e ∈ elements root, e.attribute? "name" = some name) ∧
      (tableOf root).keys.Nodup ∧
      (tableOf root).keys = (((elements root).map nameOf).filter (· != "")).eraseDups ∧
      (∀ entry ∈ (tableOf root).entries,
        (∃ e, LastWith (nameOf · = entry.1) (elements root) e ∧ entry.2 = ofElement e) ∧
          entry.2.name = entry.1 ∧ entry.2.label ≠ "") ∧
      (elements root).length = (tableOf root).size + (eventsOf root).count .unnamedVariable +
        (eventsOf root).countP (·.isRepetition) := by
  refine ⟨fun e => ?_, fun name => mem_keys_tableOf, Table.nodup_keys_ofPairs _, ?_,
    fun entry hentry => ?_, ?_⟩
  · rw [elements, Element.withTag, List.mem_filter, Element.mem_all_iff, beq_iff_eq, and_comm]
  · rw [keys_tableOf, newNames]
    simp
  · obtain ⟨e, hname, rfl⟩ := exists_of_mem_tableOf hentry
    exact ⟨lastWith_of_mem_tableOf hentry, rfl, (readable_ofElement hname).label⟩
  · have hsize : (tableOf root).size = (newNames [] (elements root)).length := by
      rw [← keys_tableOf, Table.keys, List.length_map, Table.size]
    rw [hsize, eventsOf]
    exact length_eventsFrom [] (elements root)

end Variable

end PromptForm

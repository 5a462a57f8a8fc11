/-!
# Cutting texts at a pattern

Finding, replacing and splitting at a literal pattern, on lists of characters. Occurrences are
searched from the left and do not overlap.

## Main definitions

* `cut?`: the parts before and after the first occurrence of a pattern.
* `replaceAll`: every occurrence replaced by another text.
* `splitOn`: the parts between the occurrences of one character.
* `joinWith`: parts joined by a separator.
-/

namespace PromptForm

namespace Text

/-- The text after the pattern, when the text begins with it. -/
def afterPrefix? : List Char → List Char → Option (List Char)
  | [], s => some s
  | _ :: _, [] => none
  | p :: ps, c :: cs => if p = c then afterPrefix? ps cs else none

/-- The parts before and after the first occurrence of the pattern. -/
def cut? (pattern : List Char) : List Char → Option (List Char × List Char)
  | [] => (afterPrefix? pattern []).map fun rest => ([], rest)
  | c :: cs =>
    match afterPrefix? pattern (c :: cs) with
    | some rest => some ([], rest)
    | none => (cut? pattern cs).map fun (before, rest) => (c :: before, rest)

/-- Replaces the occurrences of the pattern that begin after the first `skip` characters, and drops
these. -/
def replaceFrom (pattern replacement : List Char) : Nat → List Char → List Char
  | _, [] => []
  | skip + 1, _ :: cs => replaceFrom pattern replacement skip cs
  | 0, c :: cs =>
    match afterPrefix? pattern (c :: cs) with
    | some _ => replacement ++ replaceFrom pattern replacement (pattern.length - 1) cs
    | none => c :: replaceFrom pattern replacement 0 cs

/-- The text with every occurrence of a pattern replaced; a pattern has at least one character. -/
def replaceAll (pattern replacement s : List Char) : List Char :=
  replaceFrom pattern replacement 0 s

/-- The parts of the text between the occurrences of a character: at least one part. -/
def splitOn (separator : Char) : List Char → List (List Char)
  | [] => [[]]
  | c :: cs =>
    match splitOn separator cs with
    | [] => [[c]]
    | part :: parts => if c = separator then [] :: part :: parts else (c :: part) :: parts

/-- The parts one after the other, with the separator between them. -/
def joinWith (separator : List Char) : List (List Char) → List Char
  | [] => []
  | [part] => part
  | part :: next :: parts => part ++ separator ++ joinWith separator (next :: parts)

theorem afterPrefix?_eq_some_iff {pattern s rest : List Char} :
    afterPrefix? pattern s = some rest ↔ s = pattern ++ rest := by
  induction pattern generalizing s with
  | nil => simp [afterPrefix?, eq_comm]
  | cons p ps ih =>
    cases s with
    | nil => simp [afterPrefix?]
    | cons c cs =>
      by_cases h : p = c
      · simp [afterPrefix?, h, ih]
      · simp [afterPrefix?, h, Ne.symm h]

theorem eq_of_cut?_eq_some {pattern s before rest : List Char}
    (h : cut? pattern s = some (before, rest)) : s = before ++ pattern ++ rest := by
  induction s generalizing before with
  | nil =>
    simp only [cut?, Option.map_eq_some_iff] at h
    obtain ⟨r, hr, he⟩ := h
    obtain ⟨rfl, rfl⟩ := Prod.mk.inj he
    simpa using afterPrefix?_eq_some_iff.1 hr
  | cons c cs ih =>
    rw [cut?] at h
    split at h
    · next r hr =>
      obtain ⟨rfl, rfl⟩ := Prod.mk.inj (Option.some.inj h)
      simpa using afterPrefix?_eq_some_iff.1 hr
    · obtain ⟨⟨b, r⟩, hr, he⟩ := Option.map_eq_some_iff.1 h
      obtain ⟨rfl, rfl⟩ := Prod.mk.inj he
      simp [ih hr]

theorem splitOn_ne_nil (separator : Char) (s : List Char) : splitOn separator s ≠ [] := by
  cases s with
  | nil => simp [splitOn]
  | cons c cs =>
    rw [splitOn]
    split
    · simp
    · split <;> simp

end Text

end PromptForm

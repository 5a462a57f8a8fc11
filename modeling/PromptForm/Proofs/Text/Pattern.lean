import Mathlib.Data.List.Basic
import PromptForm.Proofs.Text.Cut

/-!
# Patterns

A small part of the regular expressions: characters that stand for themselves, signs after a backslash,
and groups of any characters, as few as possible. A pattern that does not match in one way is tried in the
next one, with a character more in a group, and where it does not match at all the search goes on at the
next character. Here this is a list of all ways in order, of which the first one counts. For a literal text
it comes to the cutting of `Text.cut?`.

## Main definitions

* `Pattern.Piece`, `Pattern.read?`: the pieces of a pattern, and how they are written.
* `Pattern.ways`, `Pattern.matchAt?`: the ways to match a text from its start, and the preferred one.
* `Pattern.search?`: the leftmost match.
* `Pattern.Matches`: all matches in a text, one after the other.

## Main results

* `Pattern.matchAt?_literals_append`, `Pattern.matchAt?_fewest_cons`: how a pattern is matched piece by piece.
* `Pattern.search?_between`: searching a group between two literal texts.
-/

namespace PromptForm

namespace Text

namespace Pattern

inductive Piece where
  | literal (c : Char)
  /-- A group of any characters, line breaks included, that takes as few as it can. -/
  | fewest
  deriving DecidableEq, Repr

/-- The characters that do not stand for themselves in a pattern. -/
def signs : List Char := ".^$*+?\x7b\x7d[]\\|()".toList

/-- The pieces of a pattern. Other signs, and letters and digits after a backslash, mean something else than
a character and are not read here. -/
def read? : List Char → Option (List Piece)
  | [] => some []
  | '\\' :: c :: rest => if c.isAlphanum then none else (read? rest).map (.literal c :: ·)
  | '(' :: '.' :: '*' :: '?' :: ')' :: rest => (read? rest).map (.fewest :: ·)
  | c :: rest => if signs.contains c then none else (read? rest).map (.literal c :: ·)

/-- A text as the pattern of itself alone. -/
def literals (s : List Char) : List Piece := s.map .literal

/-- A text cut in two at each place, from the left. -/
def cuts : List Char → List (List Char × List Char)
  | [] => [([], [])]
  | c :: s => ([], c :: s) :: (cuts s).map fun cut => (c :: cut.1, cut.2)

/-- The ways in which a pattern matches from the start of a text, the preferred one first: what its groups
take, and what is left of the text. -/
def ways : List Piece → List Char → List (List (List Char) × List Char)
  | [], s => [([], s)]
  | .literal _ :: _, [] => []
  | .literal c :: pieces, d :: s => if c = d then ways pieces s else []
  | .fewest :: pieces, s =>
    (cuts s).flatMap fun cut => (ways pieces cut.2).map fun way => (cut.1 :: way.1, way.2)

/-- The groups of the match at the start of a text, and the text after it. -/
def matchAt? (pieces : List Piece) (s : List Char) : Option (List (List Char) × List Char) :=
  (ways pieces s).head?

/-- A match with the text before and after it. -/
structure Match where
  before : List Char
  groups : List (List Char)
  after : List Char
  deriving DecidableEq, Repr

/-- The leftmost match in a text. -/
def search? (pieces : List Piece) (s : List Char) : Option Match :=
  (cuts s).findSome? fun cut => (matchAt? pieces cut.2).map fun way => ⟨cut.1, way.1, way.2⟩

/-- The matches in a text, each searched after the one before it, with the text that is left after the last
one. A pattern that matches the empty text is not meant. -/
inductive Matches (pieces : List Piece) : List Char → List Match → List Char → Prop
  | none {s : List Char} (h : search? pieces s = none) : Matches pieces s [] s
  | next {s last : List Char} {m : Match} {ms : List Match} (h : search? pieces s = some m)
      (rest : Matches pieces m.after ms last) : Matches pieces s (m :: ms) last

/-- What is matched, and what is left of the text, is settled. -/
theorem Matches.unique {pieces : List Piece} {s last last' : List Char} {ms ms' : List Match}
    (h : Matches pieces s ms last) (h' : Matches pieces s ms' last') : ms' = ms ∧ last' = last := by
  induction h generalizing ms' with
  | none hnone =>
    cases h' with
    | none => exact ⟨rfl, rfl⟩
    | next hsome => cases hnone.symm.trans hsome
  | next hsome _ ih =>
    cases h' with
    | none hnone => cases hnone.symm.trans hsome
    | next hsome' hrest =>
      obtain rfl := Option.some.inj (hsome.symm.trans hsome')
      obtain ⟨rfl, rfl⟩ := ih hrest
      exact ⟨rfl, rfl⟩

/-! ### Reading patterns -/

theorem read?_group (rest : List Char) :
    read? ("(.*?)".toList ++ rest) = (read? rest).map (.fewest :: ·) := rfl

theorem read?_escaped {c : Char} (hc : c.isAlphanum = false) (rest : List Char) :
    read? ('\\' :: c :: rest) = (read? rest).map (.literal c :: ·) := by
  simp [read?, hc]

/-- A character that is no sign stands for itself. -/
theorem read?_cons {c : Char} (hc : c ∉ signs) (rest : List Char) :
    read? (c :: rest) = (read? rest).map (.literal c :: ·) := by
  have hslash : c ≠ '\\' := by
    rintro rfl
    exact hc (by decide)
  have hparen : c ≠ '(' := by
    rintro rfl
    exact hc (by decide)
  rw [read?]
  · simp [hc]
  · exact fun _ _ h => absurd h hslash
  · exact fun _ h => absurd h hparen

/-! ### Matching -/

/-- A literal text matches where the text begins with it. -/
theorem matchAt?_literals_append (p : List Char) (pieces : List Piece) (s : List Char) :
    matchAt? (literals p ++ pieces) s = (afterPrefix? p s).bind (matchAt? pieces) := by
  induction p generalizing s with
  | nil => rfl
  | cons c p ih =>
    cases s with
    | nil => rfl
    | cons d s =>
      have hstep : matchAt? (literals (c :: p) ++ pieces) (d :: s) =
          if c = d then matchAt? (literals p ++ pieces) s else none := by
        change (if c = d then ways (literals p ++ pieces) s else []).head? = _
        split <;> rfl
      rw [hstep, afterPrefix?, ih]
      split <;> rfl

/-- A group takes as little as the rest of the pattern allows. -/
theorem matchAt?_fewest_cons (pieces : List Piece) (s : List Char) :
    matchAt? (.fewest :: pieces) s =
      (cuts s).findSome? fun cut =>
        (matchAt? pieces cut.2).map fun way => (cut.1 :: way.1, way.2) := by
  change ((cuts s).flatMap fun cut =>
    (ways pieces cut.2).map fun way => (cut.1 :: way.1, way.2)).head? = _
  rw [List.head?_flatMap]
  simp only [List.head?_map]
  rfl

/-- Cutting at the first occurrence of a text is trying all cuts from the left. -/
theorem cut?_eq_findSome? (p s : List Char) :
    cut? p s = (cuts s).findSome? fun cut => (afterPrefix? p cut.2).map fun rest => (cut.1, rest) := by
  induction s with
  | nil => rw [cut?, cuts, List.findSome?_singleton]
  | cons c s ih =>
    rw [cut?, cuts, List.findSome?_cons, List.findSome?_map]
    cases afterPrefix? p (c :: s) with
    | some rest => rfl
    | none =>
      rw [ih, List.map_findSome?]
      show List.findSome? _ (cuts s) = List.findSome? _ (cuts s)
      congr 1
      funext cut
      exact Option.map_map _ _ (afterPrefix? p cut.2)

/-- A group before a literal text takes what stands before the first occurrence of that. -/
theorem matchAt?_fewest_literals (p s : List Char) :
    matchAt? (.fewest :: literals p) s = (cut? p s).map fun found => ([found.1], found.2) := by
  have hrest : ∀ t, matchAt? (literals p) t = (afterPrefix? p t).map fun rest => ([], rest) := by
    intro t
    have h := matchAt?_literals_append p [] t
    rw [List.append_nil] at h
    rw [h]
    cases afterPrefix? p t <;> rfl
  rw [matchAt?_fewest_cons, cut?_eq_findSome?, List.map_findSome?]
  congr 1
  funext cut
  rw [hrest]
  show _ = Option.map _ (Option.map _ _)
  rw [Option.map_map, Option.map_map]
  rfl

/-! ### Searching -/

/-- Where a pattern does not match, the search goes on at the next character. -/
theorem search?_cons (pieces : List Piece) (c : Char) (s : List Char) :
    search? pieces (c :: s) =
      match matchAt? pieces (c :: s) with
      | some way => some ⟨[], way.1, way.2⟩
      | none => (search? pieces s).map fun m => { m with before := c :: m.before } := by
  rw [search?, cuts, List.findSome?_cons, List.findSome?_map]
  cases matchAt? pieces (c :: s) with
  | some way => rfl
  | none =>
    rw [search?, List.map_findSome?]
    show List.findSome? _ (cuts s) = List.findSome? _ (cuts s)
    congr 1
    funext cut
    show Option.map _ (matchAt? pieces cut.2) = Option.map _ (Option.map _ (matchAt? pieces cut.2))
    rw [Option.map_map]
    rfl

/-- What stands between two literal texts. -/
def between (p q : List Char) : List Piece := literals p ++ .fewest :: literals q

theorem matchAt?_between (p q s : List Char) :
    matchAt? (between p q) s =
      (afterPrefix? p s).bind fun rest => (cut? q rest).map fun closed => ([closed.1], closed.2) := by
  rw [between, matchAt?_literals_append]
  congr 1
  funext rest
  exact matchAt?_fewest_literals q rest

example : matchAt? (between ['<'] ['>']) "<a>b>".toList = some ([['a']], "b>".toList) := by decide

/-- The leftmost match between two texts is that of the first occurrence of the one and the first occurrence
of the other after it: where the other one does not come after the first occurrence, it comes after none. -/
theorem search?_between (p q s : List Char) :
    search? (between p q) s =
      (cut? p s).bind fun opened =>
        (cut? q opened.2).map fun closed => ⟨opened.1, [closed.1], closed.2⟩ := by
  induction s with
  | nil =>
    rw [search?, cuts, List.findSome?_singleton, matchAt?_between, cut?]
    cases afterPrefix? p [] with
    | none => rfl
    | some rest => exact Option.map_map _ _ (cut? q rest)
  | cons c s ih =>
    rw [search?_cons, matchAt?_between, ih, cut?]
    cases hbegins : afterPrefix? p (c :: s) with
    | none =>
      cases cut? p s with
      | none => rfl
      | some opened => exact Option.map_map _ _ (cut? q opened.2)
    | some rest =>
      cases hclose : cut? q rest with
      | some closed => simp [hclose]
      | none =>
        have hlater : ∀ opened, cut? p s = some opened → cut? q opened.2 = none := by
          rintro ⟨before, later⟩ hopened
          have hs := eq_of_cut?_eq_some hopened
          have hrest : c :: s = p ++ rest := afterPrefix?_eq_some_iff.1 hbegins
          have hlength := congrArg List.length hrest
          have hsuffix : later <:+ c :: s := ⟨c :: (before ++ p), by rw [hs, List.cons_append]⟩
          refine cut?_eq_none_of_suffix hclose (List.suffix_of_suffix_length_le hsuffix ⟨p, hrest.symm⟩ ?_)
          show later.length ≤ rest.length
          simp only [hs, List.length_cons, List.length_append] at hlength
          omega
        cases hopened : cut? p s with
        | none => simp [hclose]
        | some opened => simp [hclose, hlater opened hopened]

end Pattern

end Text

end PromptForm

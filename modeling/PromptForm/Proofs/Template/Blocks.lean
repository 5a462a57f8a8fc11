import PromptForm.Proofs.Template.Passes
import PromptForm.Proofs.Text.Pattern

/-!
# Taking a text apart into blocks

Any text, however its tokens are nested or left alone, is taken apart in one way only into the blocks of a
name and the parts between them: each opening token is the first one that is left, each closing token is the
first one after it, and behind the last block no closing token follows an opening one. The regular expression
of the blocks, in which every character of the name is escaped, matches just these blocks.

## Main definitions

* `Template.Decomposes`: a text is taken apart into the blocks of a name.

## Main results

* `Template.decomposes_iff`: the blocks of a text are the one way to take it apart.
* `Template.read?_blockPattern`, `Template.exists_matches`: the regular expression of the blocks, and what it
  matches.
* `Template.resolve_decomposed`: what becomes of a text when the blocks of a name are resolved.
-/

namespace PromptForm

namespace Template

open Text

/-- A text is taken apart into blocks. The parts and the tokens after them are those of the first opening
token and of the first closing token in what is left of the text. -/
inductive Decomposes (name : List Char) : List Char → Blocks → Prop
  | last {s : List Char} (h : ∀ a b c, s ≠ a ++ (opener name ++ (b ++ (closer name ++ c)))) :
      Decomposes name s ⟨[], s⟩
  | block {before inside after : List Char} {next : Blocks}
      (opens : FirstAfter (opener name) before (inside ++ (closer name ++ after)))
      (closes : FirstAfter (closer name) inside after) (h : Decomposes name after next) :
      Decomposes name (before ++ (opener name ++ (inside ++ (closer name ++ after))))
        ⟨(before, inside) :: next.blocks, next.last⟩

/-! ### There is one way -/

section Decomposition

variable {name s : List Char}

/-- When no closing token comes after the first opening one, none comes after any. -/
theorem ne_of_no_closer {before rest : List Char} (hopen : cut? (opener name) s = some (before, rest))
    (hclose : cut? (closer name) rest = none) (a b c : List Char) :
    s ≠ a ++ (opener name ++ (b ++ (closer name ++ c))) := by
  intro hs
  have hfirst := firstAfter_of_cut?_eq_some hopen
  have hcut := eq_of_cut?_eq_some hopen
  rw [List.append_assoc] at hcut
  have hbefore : before.length ≤ a.length := hfirst a _ (hcut.symm.trans hs)
  have hlength := congrArg List.length (hcut.symm.trans hs)
  simp only [List.length_append] at hlength
  have hsuffix : b ++ (closer name ++ c) <:+ rest := by
    have hinner : b ++ (closer name ++ c) <:+ s := ⟨a ++ opener name, by rw [hs, List.append_assoc]⟩
    have hrest : rest <:+ s := ⟨before ++ opener name, by rw [hcut, List.append_assoc]⟩
    refine List.suffix_of_suffix_length_le hinner hrest ?_
    simp only [List.length_append]
    omega
  exact cut?_eq_none_iff.1 (cut?_eq_none_of_suffix hclose hsuffix) b c rfl

theorem decomposes_blocks (name s : List Char) : Decomposes name s (blocks name s) := by
  induction s using blocks.induct name with
  | case1 s hopen =>
    rw [blocks_of_no_opener hopen]
    exact .last fun a b c => cut?_eq_none_iff.1 hopen a _
  | case2 s before rest hopen hclose =>
    rw [blocks_of_no_closer hopen hclose]
    exact .last (ne_of_no_closer hopen hclose)
  | case3 s before rest hopen inside after hclose ih =>
    rw [blocks_of_cut hopen hclose]
    have hs := eq_of_cut?_eq_some hopen
    have hrest := eq_of_cut?_eq_some hclose
    rw [List.append_assoc] at hs hrest
    subst hrest
    subst hs
    exact .block (firstAfter_of_cut?_eq_some hopen) (firstAfter_of_cut?_eq_some hclose) ih

theorem Decomposes.eq_blocks {b : Blocks} (h : Decomposes name s b) : b = blocks name s := by
  induction h with
  | @last s hnone =>
    cases hopen : cut? (opener name) s with
    | none => rw [blocks_of_no_opener hopen]
    | some opened =>
      obtain ⟨before, rest⟩ := opened
      have hclose : cut? (closer name) rest = none := by
        refine cut?_eq_none_iff.2 fun b c hrest => hnone before b c ?_
        rw [eq_of_cut?_eq_some hopen, hrest, List.append_assoc]
      rw [blocks_of_no_closer hopen hclose]
  | block opens closes _ ih =>
    rw [blocks_of_cut (cut?_append_of_firstAfter opens) (cut?_append_of_firstAfter closes), ih]

/-- The blocks of a text are the one way to take it apart. -/
theorem decomposes_iff {b : Blocks} : Decomposes name s b ↔ b = blocks name s := by
  constructor
  · exact Decomposes.eq_blocks
  · rintro rfl
    exact decomposes_blocks name s

end Decomposition

/-! ### The regular expression -/

/-- An escaped text is read as a pattern of itself. -/
theorem read?_escaped_append (s rest : List Char) :
    Pattern.read? (escaped s ++ rest) = (Pattern.read? rest).map (Pattern.literals s ++ ·) := by
  have hspecial : ∀ c ∈ specialChars, c.isAlphanum = false := by
    have hall : (specialChars.all fun c => !c.isAlphanum) = true := by decide
    simpa using hall
  have hsigns : Pattern.signs ⊆ specialChars := by decide
  induction s with
  | nil => simp [escaped, Pattern.literals]
  | cons c s ih =>
    have hstep : Pattern.read? (escaped (c :: s) ++ rest) =
        (Pattern.read? (escaped s ++ rest)).map (.literal c :: ·) := by
      by_cases hc : c ∈ specialChars
      · have hescaped : escaped (c :: s) = '\\' :: c :: escaped s := by simp [escaped, hc]
        rw [hescaped]
        exact Pattern.read?_escaped (hspecial c hc) _
      · have hescaped : escaped (c :: s) = c :: escaped s := by simp [escaped, hc]
        rw [hescaped]
        exact Pattern.read?_cons (fun hsign => hc (hsigns hsign)) _
    rw [hstep, ih, Option.map_map]
    rfl

/-- Whatever characters a name has, the pattern of its blocks is a group between the two tokens. -/
theorem read?_blockPattern (name : List Char) :
    Pattern.read? (blockPattern name) = some (Pattern.between (opener name) (closer name)) := by
  have hclose := read?_escaped_append (closer name) []
  rw [List.append_nil] at hclose
  rw [blockPattern, List.append_assoc, read?_escaped_append, Pattern.read?_group, hclose]
  simp [Pattern.read?, Pattern.between]

/-- The matches of the pattern of blocks, each before the text that is left after it. -/
theorem exists_matches (name s : List Char) :
    ∃ ms, Pattern.Matches (Pattern.between (opener name) (closer name)) s ms (blocks name s).last ∧
      ms.map (fun m => (m.before, m.groups)) =
        (blocks name s).blocks.map fun block => (block.1, [block.2]) := by
  induction s using blocks.induct name with
  | case1 s hopen =>
    rw [blocks_of_no_opener hopen]
    exact ⟨[], .none (by rw [Pattern.search?_between, hopen]; rfl), rfl⟩
  | case2 s before rest hopen hclose =>
    rw [blocks_of_no_closer hopen hclose]
    refine ⟨[], .none ?_, rfl⟩
    rw [Pattern.search?_between, hopen]
    simp [hclose]
  | case3 s before rest hopen inside after hclose ih =>
    obtain ⟨ms, hms, hblocks⟩ := ih
    rw [blocks_of_cut hopen hclose]
    refine ⟨⟨before, [inside], after⟩ :: ms, .next ?_ hms, ?_⟩
    · rw [Pattern.search?_between, hopen]
      simp [hclose]
    · rw [List.map_cons, hblocks, List.map_cons]

/-- **The blocks of one name in any text.** Whatever the name is, the text is taken apart in one way into the
blocks and the parts between them. The pattern of the blocks can be read, and its matches are the blocks, with
their insides as its group. Resolving the one name keeps of each block its inside or nothing, as the value of
the name says, and leaves the parts between the blocks as they are. -/
theorem resolve_decomposed (key : String) (s : List Char) :
    ∃ b, (∀ b', Decomposes key.toList s b' ↔ b' = b) ∧
      (∃ pieces ms, Pattern.read? (blockPattern key.toList) = some pieces ∧
        (∀ ms' last, Pattern.Matches pieces s ms' last ↔ ms' = ms ∧ last = b.last) ∧
        ms.map (fun m => (m.before, m.groups)) =
          b.blocks.map fun block => (block.1, [block.2])) ∧
      ∀ value, resolve ⟨[(.text key, value)]⟩ s = if holds value then b.kept else b.dropped := by
  obtain ⟨ms, hms, hblocks⟩ := exists_matches key.toList s
  refine ⟨blocks key.toList s, fun _ => decomposes_iff,
    ⟨_, ms, read?_blockPattern key.toList, fun ms' last => ⟨hms.unique, ?_⟩, hblocks⟩, fun value => rfl⟩
  rintro ⟨rfl, rfl⟩
  exact hms

end Template

end PromptForm

import PromptForm.Json.Read

/-!
# Reading what was written

The text of a tree is read as the tree, in every layout and whatever its texts and keys hold: an escape is
read as the character that it was written for, and no character of Unicode is half of a surrogate pair. The
tree must not be nested deeper than is read, and it holds no numbers.

## Main definitions

* `Json.Tree.Fits`: a tree without numbers that is not nested deeper than so much.
* `Json.ReadsBack`: a tree is read from its text, whatever follows.

## Main results

* `Json.codes_flatMap_escaped`: the characters of a text are read from their escapes.
* `Json.read_toText`: a tree is read from its text.
-/

namespace PromptForm

namespace Text

theorem hexDigitValue?_digitChar {d : Nat} (h : d < 16) : hexDigitValue? (Nat.digitChar d) = some d := by
  have hall : ∀ d : Fin 16, hexDigitValue? (Nat.digitChar d) = some d.val := by decide
  exact hall ⟨d, h⟩

end Text

namespace Json

/-! ### Texts -/

/-- Four hexadecimal digits are read as the number they were written for. -/
theorem hexCode?_hexText {n : Nat} (h : n < 0x10000) :
    ∃ a b c d, Text.hexText 4 n = [a, b, c, d] ∧ hexCode? a b c d = some n := by
  refine ⟨_, _, _, _, rfl, ?_⟩
  have hvalue : ∀ k, Text.hexDigitValue? (Nat.digitChar (k % 16)) = some (k % 16) :=
    fun k => Text.hexDigitValue?_digitChar (Nat.mod_lt k (by decide))
  simp only [hexCode?, hvalue, Option.bind_eq_bind, Option.bind_some, Option.pure_def, Text.ofDigits,
    List.foldl_cons, List.foldl_nil, Option.some.injEq]
  omega

/-- What is read of a text after one more code point. -/
def afterCode (code : Nat) (read? : Option (List Nat × List Char)) : Option (List Nat × List Char) :=
  read?.map fun read => (code :: read.1, read.2)

theorem codes_hex {a b c d : Char} {code : Nat} (h : hexCode? a b c d = some code) (s : List Char) :
    codes ('\\' :: 'u' :: a :: b :: c :: d :: s) = afterCode code (codes s) := by
  rw [codes, h]
  cases codes s <;> rfl

theorem codes_short {c : Char} {code : Nat} (h : shortEscape? c = some code) (hc : c ≠ 'u')
    (s : List Char) : codes ('\\' :: c :: s) = afterCode code (codes s) := by
  rw [codes]
  · rw [h]
    cases codes s <;> rfl
  · rintro _ _ _ _ _ rfl
    exact absurd rfl hc

/-- A character that needs no escape stands for itself. -/
theorem codes_plain {c : Char} (hquote : c ≠ '"') (hslash : c ≠ '\\') (hcontrol : ¬c.toNat < 0x20)
    (s : List Char) : codes (c :: s) = afterCode c.toNat (codes s) := by
  rw [codes]
  · rw [if_neg hcontrol]
    cases codes s <;> rfl
  · exact hquote
  · rintro _ _ _ _ _ rfl
    exact absurd rfl hslash
  · rintro _ _ rfl
    exact absurd rfl hslash

/-- The escape of a character is read as the character. -/
theorem codes_escaped (c : Char) (s : List Char) :
    codes (escaped c ++ s) = afterCode c.toNat (codes s) := by
  have hshort : ∀ letter code, shortEscape? letter = some code → letter ≠ 'u' → c.toNat = code →
      codes ('\\' :: letter :: s) = afterCode c.toNat (codes s) := by
    rintro letter _ hletter hu rfl
    exact codes_short hletter hu s
  -- the seven short escapes, a control character by its number, and a character that stays
  rw [escaped]
  split
  · next h => exact hshort '"' _ rfl (by decide) (congrArg Char.toNat h)
  split
  · next h => exact hshort '\\' _ rfl (by decide) (congrArg Char.toNat h)
  split
  · next h => exact hshort 'n' _ rfl (by decide) (congrArg Char.toNat h)
  split
  · next h => exact hshort 'r' _ rfl (by decide) (congrArg Char.toNat h)
  split
  · next h => exact hshort 't' _ rfl (by decide) (congrArg Char.toNat h)
  split
  · next h => exact hshort 'b' _ rfl (by decide) h
  split
  · next h => exact hshort 'f' _ rfl (by decide) h
  split
  · next h =>
    obtain ⟨a, b, c, d, htext, hcode⟩ := hexCode?_hexText (Nat.lt_trans h (by decide))
    rw [htext]
    exact codes_hex hcode s
  · next hquote hslash _ _ _ _ _ hcontrol => exact codes_plain hquote hslash hcontrol s

/-- The characters of a text are read from their escapes, up to the quote. -/
theorem codes_flatMap_escaped (s rest : List Char) :
    codes (s.flatMap escaped ++ '"' :: rest) = some (s.map Char.toNat, rest) := by
  induction s with
  | nil => rfl
  | cons c s ih =>
    rw [List.flatMap_cons, List.append_assoc, codes_escaped, ih]
    rfl

/-- No character is half of a surrogate pair. -/
theorem toNat_lt_or_le (c : Char) : c.toNat < 0xD800 ∨ 0xE000 ≤ c.toNat := by
  have hvalid : c.toNat.isValidChar := c.valid
  rcases hvalid with hlow | ⟨hhigh, -⟩
  · exact .inl hlow
  · exact .inr hhigh

theorem isHigh_toNat (c : Char) : isHigh c.toNat = false := by
  have := toNat_lt_or_le c
  simp only [isHigh, Bool.and_eq_false_iff, decide_eq_false_iff_not]
  omega

theorem isLow_toNat (c : Char) : isLow c.toNat = false := by
  have := toNat_lt_or_le c
  simp only [isLow, Bool.and_eq_false_iff, decide_eq_false_iff_not]
  omega

/-- No two characters are taken for a surrogate pair. -/
theorem joinPairs_map_toNat (s : List Char) : joinPairs (s.map Char.toNat) = s.map Char.toNat := by
  induction s with
  | nil => rfl
  | cons c s ih =>
    cases s with
    | nil => rfl
    | cons d s =>
      rw [List.map_cons, List.map_cons, joinPairs, isHigh_toNat, Bool.false_and, if_neg Bool.false_ne_true]
      exact congrArg (c.toNat :: ·) ih

theorem map_ofNat_map_toNat (s : List Char) : (s.map Char.toNat).map Char.ofNat = s := by
  simp [Function.comp_def]

theorem ofCodes_map_toNat (s : String) : ofCodes (s.toList.map Char.toNat) = .text s := by
  have hwhole : ((s.toList.map Char.toNat).any fun code => isHigh code || isLow code) = false := by
    simp [isHigh_toNat, isLow_toNat]
  rw [ofCodes, joinPairs_map_toNat, map_ofNat_map_toNat, String.ofList_toList]
  simp [hwhole]

theorem keyOf_map_toNat (s : String) : keyOf (s.toList.map Char.toNat) = s := by
  rw [keyOf, joinPairs_map_toNat, map_ofNat_map_toNat, String.ofList_toList]

/-! ### Between the parts of a text -/

section Gaps

variable {gap s : List Char} {style : Style} {level : Nat}

theorem skipGap_append (h : ∀ c ∈ gap, isGap c = true) (s : List Char) :
    skipGap (gap ++ s) = skipGap s :=
  List.dropWhile_append_of_pos h

theorem isGap_of_mem_lineBreak : ∀ c ∈ style.lineBreak level, isGap c = true := by
  intro c hc
  cases style with
  | compact => cases hc
  | spaced => cases hc
  | indented width =>
    rcases List.mem_cons.1 hc with rfl | hblank
    · rfl
    · rw [List.eq_of_mem_replicate hblank]
      rfl

/-- What stands between two items is a comma and blanks. -/
theorem exists_comma (style : Style) (level : Nat) :
    ∃ gap, style.comma level = ',' :: gap ∧ ∀ c ∈ gap, isGap c = true := by
  cases style with
  | compact => exact ⟨[], rfl, List.forall_mem_nil _⟩
  | spaced => exact ⟨[' '], rfl, List.forall_mem_singleton.2 rfl⟩
  | indented width => exact ⟨_, rfl, isGap_of_mem_lineBreak⟩

/-- What stands between a key and its value is a colon and blanks. -/
theorem exists_colon (style : Style) :
    ∃ gap, style.colon = ':' :: gap ∧ ∀ c ∈ gap, isGap c = true := by
  cases style with
  | compact => exact ⟨[], rfl, List.forall_mem_nil _⟩
  | spaced => exact ⟨[' '], rfl, List.forall_mem_singleton.2 rfl⟩
  | indented width => exact ⟨[' '], rfl, List.forall_mem_singleton.2 rfl⟩

end Gaps

theorem quoted_append (s rest : List Char) :
    quoted s ++ rest = '"' :: (s.flatMap escaped ++ '"' :: rest) := by
  simp [quoted]

/-- A key is read up to its value. -/
theorem exists_key (style : Style) (name : String) (s : List Char) :
    ∃ left, key (quoted name.toList ++ (style.colon ++ s)) = .ok (name, left) ∧
      skipGap left = skipGap s := by
  obtain ⟨gap, hcolon, hgap⟩ := exists_colon style
  have hskip : skipGap (':' :: (gap ++ s)) = ':' :: (gap ++ s) := rfl
  refine ⟨gap ++ s, ?_, skipGap_append hgap s⟩
  rw [quoted_append, hcolon, List.cons_append, key, codes_flatMap_escaped]
  simp only [hskip, keyOf_map_toNat]

/-! ### Trees -/

/-- A tree without numbers, of lists and objects that are not nested deeper than so much. -/
inductive Tree.Fits : Nat → Tree → Prop
  | null {depth : Nat} : Fits depth .null
  | bool {depth : Nat} (b : Bool) : Fits depth (.bool b)
  | text {depth : Nat} (s : String) : Fits depth (.text s)
  | list {depth : Nat} {items : List Tree} (h : ∀ item ∈ items, Fits depth item) :
    Fits (depth + 1) (.list items)
  | object {depth : Nat} {entries : List (String × Tree)} (h : ∀ entry ∈ entries, Fits depth entry.2) :
    Fits (depth + 1) (.object entries)

/-- A tree is read from its text at a level, whatever follows, with fuel for two calls a character. -/
def ReadsBack (style : Style) (level depth : Nat) (t : Tree) : Prop :=
  ∀ fuel rest, 2 * (t.write style level ++ rest).length + 1 ≤ fuel →
    value fuel depth (t.write style level ++ rest) = .ok (t, rest)

/-- The text of a tree begins with neither a blank nor a closing bracket. -/
def Begins (s : List Char) : Prop :=
  ∃ c tail, s = c :: tail ∧ isGap c = false ∧ c ≠ ']' ∧ c ≠ '\x7d'

namespace Begins

variable {s : List Char}

theorem append (h : Begins s) (rest : List Char) : Begins (s ++ rest) := by
  obtain ⟨c, tail, rfl, hc⟩ := h
  exact ⟨c, tail ++ rest, rfl, hc⟩

theorem skipGap_eq (h : Begins s) : skipGap s = s := by
  obtain ⟨c, tail, rfl, hc, -⟩ := h
  rw [skipGap, List.dropWhile_cons_of_neg (by rw [hc]; exact Bool.false_ne_true)]

theorem quoted (s : List Char) : Begins (quoted s) :=
  ⟨'"', s.flatMap escaped ++ ['"'], rfl, rfl, by decide, by decide⟩

theorem write {depth : Nat} {t : Tree} (h : t.Fits depth) (style : Style) (level : Nat) :
    Begins (t.write style level) := by
  cases h with
  | null => exact ⟨'n', _, rfl, rfl, by decide, by decide⟩
  | bool b =>
    cases b with
    | true => exact ⟨'t', _, rfl, rfl, by decide, by decide⟩
    | false => exact ⟨'f', _, rfl, rfl, by decide, by decide⟩
  | text s => exact quoted s.toList
  | @list depth items _ =>
    cases items with
    | nil => exact ⟨'[', _, rfl, rfl, by decide, by decide⟩
    | cons item items =>
      rw [Tree.write]
      exact ⟨'[', _, rfl, rfl, by decide, by decide⟩
  | @object depth entries _ =>
    cases entries with
    | nil => exact ⟨'\x7b', _, rfl, rfl, by decide, by decide⟩
    | cons entry entries =>
      rw [Tree.write]
      exact ⟨'\x7b', _, rfl, rfl, by decide, by decide⟩

end Begins

section Reading

variable {style : Style} {level outer depth fuel : Nat} {gap s left : List Char}

/-- A list is read when the items in its brackets are. -/
theorem value_list {trees : List Tree} (hgap : ∀ c ∈ gap, isGap c = true) (hs : Begins s)
    (h : items fuel depth s = .ok (trees, left)) :
    value (fuel + 1) (depth + 1) ('[' :: (gap ++ s)) = .ok (.list trees, left) := by
  have hskip : skipGap (gap ++ s) = s := (skipGap_append hgap s).trans hs.skipGap_eq
  obtain ⟨c, tail, rfl, -, hc, -⟩ := hs
  rw [value.eq_def]
  simp only [hskip]
  split
  · next heq => exact absurd (List.head_eq_of_cons_eq heq) hc
  · rw [h]

/-- An object is read when the entries in its braces are. -/
theorem value_object {pairs : List (String × Tree)} (hgap : ∀ c ∈ gap, isGap c = true) (hs : Begins s)
    (h : entries fuel depth s = .ok (pairs, left)) :
    value (fuel + 1) (depth + 1) ('\x7b' :: (gap ++ s)) = .ok (.object pairs, left) := by
  have hskip : skipGap (gap ++ s) = s := (skipGap_append hgap s).trans hs.skipGap_eq
  obtain ⟨c, tail, rfl, -, -, hc⟩ := hs
  rw [value.eq_def]
  simp only [hskip]
  split
  · next heq => exact absurd (List.head_eq_of_cons_eq heq) hc
  · rw [h]

/-- The last item is read up to the bracket. -/
theorem items_last {t : Tree} (h : value fuel depth s = .ok (t, gap ++ ']' :: left))
    (hgap : ∀ c ∈ gap, isGap c = true) : items (fuel + 1) depth s = .ok ([t], left) := by
  have hskip : skipGap (gap ++ ']' :: left) = ']' :: left := skipGap_append hgap _
  rw [items, h]
  simp only [hskip]

/-- An item is read before others. -/
theorem items_next {t : Tree} {trees : List Tree} {more rest : List Char}
    (h : value fuel depth s = .ok (t, style.comma level ++ more)) (hmore : Begins more)
    (hitems : items fuel depth more = .ok (trees, rest)) :
    items (fuel + 1) depth s = .ok (t :: trees, rest) := by
  obtain ⟨gap, hcomma, hgap⟩ := exists_comma style level
  have hskip : skipGap (',' :: (gap ++ more)) = ',' :: (gap ++ more) := rfl
  have hskip' : skipGap (gap ++ more) = more := (skipGap_append hgap more).trans hmore.skipGap_eq
  rw [hcomma, List.cons_append] at h
  rw [items, h]
  simp only [hskip, hskip', hitems]

/-- Items are read when each of them is. -/
theorem items_write {item : Tree} {more : List Tree}
    (hfits : ∀ t ∈ item :: more, t.Fits depth)
    (h : ∀ t ∈ item :: more, ReadsBack style level depth t) (rest : List Char)
    (hfuel : 2 * (item.write style level ++ (Tree.writeItems style level more ++
      (style.lineBreak outer ++ ']' :: rest))).length + 2 ≤ fuel) :
    items fuel depth (item.write style level ++ (Tree.writeItems style level more ++
      (style.lineBreak outer ++ ']' :: rest))) = .ok (item :: more, rest) := by
  induction more generalizing item fuel with
  | nil =>
    obtain ⟨fuel, rfl⟩ : ∃ k, fuel = k + 1 := ⟨fuel - 1, by omega⟩
    exact items_last (h item List.mem_cons_self _ _ (by omega)) isGap_of_mem_lineBreak
  | cons next more ih =>
    obtain ⟨fuel, rfl⟩ : ∃ k, fuel = k + 1 := ⟨fuel - 1, by omega⟩
    have hvalue := h item List.mem_cons_self fuel _ (Nat.le_of_succ_le_succ hfuel)
    rw [Tree.writeItems, List.append_assoc, List.append_assoc] at hvalue hfuel ⊢
    refine items_next hvalue ((Begins.write (hfits next (by simp)) style level).append _)
      (ih (fun t ht => hfits t (List.mem_cons_of_mem _ ht)) (fun t ht => h t (List.mem_cons_of_mem _ ht)) ?_)
    obtain ⟨gap, hcomma, -⟩ := exists_comma style level
    rw [hcomma] at hfuel
    simp only [List.length_append, List.length_cons] at hfuel ⊢
    omega

/-- A key and its value are read one after the other. -/
theorem exists_key_value {t : Tree} (hfits : t.Fits depth) (h : ReadsBack style level depth t)
    (name : String) {rest : List Char}
    (hfuel : 2 * (quoted name.toList ++ (style.colon ++ (t.write style level ++ rest))).length + 1 ≤ fuel) :
    ∃ left, key (quoted name.toList ++ (style.colon ++ (t.write style level ++ rest))) = .ok (name, left) ∧
      value fuel depth (skipGap left) = .ok (t, rest) := by
  obtain ⟨left, hkey, hleft⟩ := exists_key style name (t.write style level ++ rest)
  refine ⟨left, hkey, ?_⟩
  rw [hleft, ((Begins.write hfits style level).append rest).skipGap_eq]
  refine h fuel rest ?_
  simp only [List.length_append] at hfuel ⊢
  omega

/-- The last entry is read up to the brace. -/
theorem entries_last {name : String} {t : Tree} {more : List Char} (hkey : key s = .ok (name, more))
    (h : value fuel depth (skipGap more) = .ok (t, gap ++ '\x7d' :: left))
    (hgap : ∀ c ∈ gap, isGap c = true) : entries (fuel + 1) depth s = .ok ([(name, t)], left) := by
  have hskip : skipGap (gap ++ '\x7d' :: left) = '\x7d' :: left := skipGap_append hgap _
  rw [entries, hkey]
  simp only [h, hskip]

/-- An entry is read before others. -/
theorem entries_next {name : String} {t : Tree} {pairs : List (String × Tree)}
    {more others rest : List Char} (hkey : key s = .ok (name, more))
    (h : value fuel depth (skipGap more) = .ok (t, style.comma level ++ others)) (hothers : Begins others)
    (hentries : entries fuel depth others = .ok (pairs, rest)) :
    entries (fuel + 1) depth s = .ok ((name, t) :: pairs, rest) := by
  obtain ⟨gap, hcomma, hgap⟩ := exists_comma style level
  have hskip : skipGap (',' :: (gap ++ others)) = ',' :: (gap ++ others) := rfl
  have hskip' : skipGap (gap ++ others) = others :=
    (skipGap_append hgap others).trans hothers.skipGap_eq
  rw [hcomma, List.cons_append] at h
  rw [entries, hkey]
  simp only [h, hskip, hskip', hentries]

/-- Entries are read when the value of each of them is. -/
theorem entries_write {name : String} {t : Tree} {more : List (String × Tree)}
    (hfits : ∀ entry ∈ (name, t) :: more, entry.2.Fits depth)
    (h : ∀ entry ∈ (name, t) :: more, ReadsBack style level depth entry.2) (rest : List Char)
    (hfuel : 2 * (quoted name.toList ++ (style.colon ++ (t.write style level ++
      (Tree.writeEntries style level more ++ (style.lineBreak outer ++ '\x7d' :: rest))))).length + 2 ≤
        fuel) :
    entries fuel depth (quoted name.toList ++ (style.colon ++ (t.write style level ++
      (Tree.writeEntries style level more ++ (style.lineBreak outer ++ '\x7d' :: rest))))) =
      .ok ((name, t) :: more, rest) := by
  induction more generalizing name t fuel with
  | nil =>
    obtain ⟨fuel, rfl⟩ : ∃ k, fuel = k + 1 := ⟨fuel - 1, by omega⟩
    obtain ⟨left, hkey, hvalue⟩ := exists_key_value (hfits _ List.mem_cons_self)
      (h _ List.mem_cons_self) name (Nat.le_of_succ_le_succ hfuel)
    exact entries_last hkey hvalue isGap_of_mem_lineBreak
  | cons next more ih =>
    obtain ⟨fuel, rfl⟩ : ∃ k, fuel = k + 1 := ⟨fuel - 1, by omega⟩
    obtain ⟨left, hkey, hvalue⟩ := exists_key_value (hfits _ List.mem_cons_self)
      (h _ List.mem_cons_self) name (Nat.le_of_succ_le_succ hfuel)
    obtain ⟨name', t'⟩ := next
    rw [Tree.writeEntries] at hkey hvalue hfuel ⊢
    simp only [List.append_assoc] at hkey hvalue hfuel ⊢
    refine entries_next hkey hvalue ((Begins.quoted name'.toList).append _)
      (ih (fun e he => hfits e (List.mem_cons_of_mem _ he)) (fun e he => h e (List.mem_cons_of_mem _ he)) ?_)
    obtain ⟨gap, hcomma, -⟩ := exists_comma style level
    rw [hcomma] at hfuel
    simp only [List.length_append, List.length_cons] at hfuel ⊢
    omega

end Reading

/-- The first call takes one of the fuel, so that two for each character are left. -/
theorem ReadsBack.of_succ {style : Style} {level depth : Nat} {t : Tree}
    (h : ∀ fuel rest, 2 * (t.write style level ++ rest).length ≤ fuel →
      value (fuel + 1) depth (t.write style level ++ rest) = .ok (t, rest)) :
    ReadsBack style level depth t := by
  intro fuel rest hfuel
  obtain ⟨fuel, rfl⟩ : ∃ k, fuel = k + 1 := ⟨fuel - 1, by omega⟩
  exact h fuel rest (Nat.le_of_succ_le_succ hfuel)

/-- Every tree is read back from its text. -/
theorem readsBack {depth : Nat} {t : Tree} (h : t.Fits depth) (style : Style) (level : Nat) :
    ReadsBack style level depth t := by
  -- the items of a list and the values of an object stand one level further in
  induction h generalizing level with
  | null => exact .of_succ fun fuel rest _ => rfl
  | bool b => exact .of_succ fun fuel rest _ => by cases b <;> rfl
  | text s =>
    refine .of_succ fun fuel rest _ => ?_
    rw [Tree.write, quoted_append, value, codes_flatMap_escaped]
    simp only [ofCodes_map_toNat]
  | @list depth items hitems ih =>
    refine .of_succ fun fuel rest hfuel => ?_
    cases items with
    | nil => rfl
    | cons item items =>
      rw [Tree.write] at hfuel ⊢
      simp only [List.cons_append, List.append_assoc, List.nil_append] at hfuel ⊢
      refine value_list isGap_of_mem_lineBreak
        ((Begins.write (hitems item List.mem_cons_self) style (level + 1)).append _)
        (items_write hitems (fun t ht => ih t ht (level + 1)) rest ?_)
      simp only [List.length_cons, List.length_append] at hfuel ⊢
      omega
  | @object depth entries hentries ih =>
    refine .of_succ fun fuel rest hfuel => ?_
    cases entries with
    | nil => rfl
    | cons entry entries =>
      obtain ⟨name, t⟩ := entry
      rw [Tree.write] at hfuel ⊢
      simp only [List.cons_append, List.append_assoc, List.nil_append] at hfuel ⊢
      refine value_object isGap_of_mem_lineBreak ((Begins.quoted name.toList).append _)
        (entries_write hentries (fun e he => ih e he (level + 1)) rest ?_)
      simp only [List.length_cons, List.length_append] at hfuel ⊢
      omega

/-- **Reading undoes writing.** A tree without numbers that is not nested too deep is read from its text in
every layout. -/
theorem read_toText {t : Tree} (h : t.Fits maxDepth) (style : Style) : read (t.toText style) = .ok t := by
  have hvalue := readsBack h style 0 (2 * (t.write style 0).length + 2) []
  rw [List.append_nil] at hvalue
  rw [read, Tree.toText, String.toList_ofList, (Begins.write h style 0).skipGap_eq]
  simp only [hvalue (Nat.le_succ _)]
  rfl

end Json

end PromptForm

import PromptForm.Json.Read

/-!
# How far a JSON text is read

The reader goes through a text from its start to its end, so that what it leaves is always a last part
of the text; hence it never stops for want of fuel. It stops for the depth only at a bracket that opens
more lists and objects than may be open at a time, and so only in a text with that many opening
brackets. A text that begins with them is never read, whatever follows.

## Main definitions

* `Json.openings`: the number of opening brackets in a text.
* `Json.Within`: a reading leaves a last part of the text, or stops for a reason that the text has.

## Main results

* `Json.read_eq_of_fuel_le`: the reader never stops for want of fuel.
* `Json.lt_openings_of_read`: a text that is nested too deep has more opening brackets than may be open.
* `Json.read_of_openings`: a text that begins with more of them is nested too deep.
-/

namespace PromptForm

namespace Json

variable {α β : Type} {s rest : List Char} {depth : Nat}

/-- Whether a character opens a list or an object. -/
def opens (c : Char) : Bool :=
  c == '[' || c == '\x7b'

/-- The number of characters that open a list or an object. -/
def openings (s : List Char) : Nat :=
  s.countP opens

/-- A reading leaves a last part of the text, or it stops; for the depth only if the text opens more
lists and objects than may be opened. -/
inductive Within (depth : Nat) (s : List Char) : Except Stop (α × List Char) → Prop
  | rest {a : α} {rest : List Char} (h : rest <:+ s) : Within depth s (.ok (a, rest))
  | malformed : Within depth s (.error .malformed)
  | tooDeep (h : depth < openings s) : Within depth s (.error .tooDeep)

theorem openings_le (h : rest <:+ s) : openings rest ≤ openings s :=
  h.sublist.countP_le

theorem openings_cons {c : Char} (h : opens c = true) (s : List Char) :
    openings (c :: s) = openings s + 1 :=
  List.countP_cons_of_pos h

namespace Within

variable {r : Except Stop (α × List Char)}

/-- A reading of a last part of a text is one of the text. -/
theorem of_suffix (h : Within depth rest r) (hrest : rest <:+ s) : Within depth s r := by
  cases h with
  | rest hleft => exact .rest (hleft.trans hrest)
  | malformed => exact .malformed
  | tooDeep hdepth => exact .tooDeep (Nat.lt_of_lt_of_le hdepth (openings_le hrest))

/-- A bracket that opens something takes one of the depth. -/
theorem opened {c : Char} (hc : opens c = true) (h : Within depth s r) :
    Within (depth + 1) (c :: s) r := by
  cases h with
  | rest hleft => exact .rest (hleft.trans (List.suffix_cons c s))
  | malformed => exact .malformed
  | tooDeep hdepth => exact .tooDeep (openings_cons hc s ▸ Nat.succ_lt_succ hdepth)

/-- A reading that stopped has stopped for whatever was to be read. -/
theorem error {stop : Stop} (h : Within depth s (.error stop : Except Stop (α × List Char))) :
    Within depth s (.error stop : Except Stop (β × List Char)) := by
  cases h with
  | malformed => exact .malformed
  | tooDeep hdepth => exact .tooDeep hdepth

theorem suffix {a : α} (h : Within depth s (.ok (a, rest))) : rest <:+ s := by
  cases h with
  | rest hleft => exact hleft

end Within

theorem skipGap_suffix (s : List Char) : skipGap s <:+ s :=
  List.dropWhile_suffix isGap

/-! ### Texts, numbers and words -/

theorem codes_suffix {cs : List Nat} (h : codes s = some (cs, rest)) : rest <:+ s := by
  fun_induction codes s generalizing cs with
  | case1 => cases h
  | case2 tail =>
    obtain ⟨-, rfl⟩ := Prod.mk.inj (Option.some.inj h)
    exact List.suffix_cons _ _
  | case3 a b c d tail code more left hleft _ ih =>
    obtain ⟨-, rfl⟩ := Prod.mk.inj (Option.some.inj h)
    exact (ih hleft).trans (List.suffix_append ['\\', 'u', a, b, c, d] tail)
  | case4 => cases h
  | case5 c tail _ code more left hleft _ ih =>
    obtain ⟨-, rfl⟩ := Prod.mk.inj (Option.some.inj h)
    exact (ih hleft).trans (List.suffix_append ['\\', c] tail)
  | case6 => cases h
  | case7 => cases h
  | case8 c tail _ _ _ _ more left hleft ih =>
    obtain ⟨-, rfl⟩ := Prod.mk.inj (Option.some.inj h)
    exact (ih hleft).trans (List.suffix_cons c tail)
  | case9 => cases h

theorem digits_suffix (s : List Char) : (digits s).2 <:+ s :=
  List.dropWhile_suffix Char.isDigit

theorem fraction_suffix (s : List Char) : (fraction s).2 <:+ s := by
  rw [fraction.eq_def]
  split
  · next tail =>
    split
    · exact List.suffix_refl _
    · next ds left hleft =>
      have h := digits_suffix tail
      rw [hleft] at h
      exact h.trans (List.suffix_cons _ _)
  · exact List.suffix_refl _

theorem exponent_suffix (s : List Char) : (exponent s).2 <:+ s := by
  rw [exponent.eq_def]
  split
  · next e tail =>
    split
    · split
      next sign unsigned hsign =>
      have hunsigned : unsigned <:+ tail := by
        split at hsign <;> obtain ⟨-, rfl⟩ := Prod.mk.inj hsign
        · exact List.suffix_cons _ _
        · exact List.suffix_cons _ _
        · exact List.suffix_refl _
      split
      · exact List.suffix_refl _
      · next ds left hleft =>
        have h := digits_suffix unsigned
        rw [hleft] at h
        exact (h.trans hunsigned).trans (List.suffix_cons _ _)
    · exact List.suffix_refl _
  · exact List.suffix_refl _

theorem unsigned?_suffix {cs : List Char} (h : unsigned? s = some (cs, rest)) : rest <:+ s := by
  rw [unsigned?.eq_def] at h
  simp only at h
  split at h
  · cases h
  · next whole left hwhole =>
    have hleft : left <:+ s := by
      split at hwhole
      · obtain ⟨-, rfl⟩ := Prod.mk.inj (Option.some.inj hwhole)
        exact List.suffix_cons _ _
      · split at hwhole
        · cases hwhole
        · next ds more hmore =>
          obtain ⟨-, rfl⟩ := Prod.mk.inj (Option.some.inj hwhole)
          have h := digits_suffix s
          rwa [hmore] at h
    split at h
    · cases h
    · obtain ⟨-, rfl⟩ := Prod.mk.inj (Option.some.inj h)
      exact ((exponent_suffix _).trans (fraction_suffix left)).trans hleft

theorem number?_suffix {t : Tree} (h : number? s = some (t, rest)) : rest <:+ s := by
  rw [number?.eq_def] at h
  split at h
  · next tail =>
    obtain ⟨⟨cs, left⟩, hleft, he⟩ := Option.map_eq_some_iff.1 h
    obtain ⟨-, rfl⟩ := Prod.mk.inj he
    exact (unsigned?_suffix hleft).trans (List.suffix_cons _ _)
  · obtain ⟨⟨cs, left⟩, hleft, he⟩ := Option.map_eq_some_iff.1 h
    obtain ⟨-, rfl⟩ := Prod.mk.inj he
    exact unsigned?_suffix hleft

theorem word?_suffix {t : Tree} (h : word? s = some (t, rest)) : rest <:+ s := by
  obtain ⟨⟨word, tree⟩, -, hword⟩ := List.exists_of_findSome?_eq_some h
  obtain ⟨left, hleft, he⟩ := Option.map_eq_some_iff.1 hword
  obtain ⟨-, rfl⟩ := Prod.mk.inj he
  rw [Text.afterPrefix?_eq_some_iff.1 hleft]
  exact List.suffix_append _ _

/-! ### The grammar -/

theorem within_atom (depth : Nat) (s : List Char) : Within depth s (atom s) := by
  rw [atom]
  split
  · next found hfound => exact .rest (word?_suffix hfound)
  · split
    · next found hfound => exact .rest (number?_suffix hfound)
    · exact .malformed

theorem within_key (depth : Nat) (s : List Char) : Within depth s (key s) := by
  rw [key.eq_def]
  split
  · next tail =>
    split
    · exact .malformed
    · next cs left hleft =>
      split
      · next rest hrest =>
        refine .rest ?_
        have h := skipGap_suffix left
        rw [hrest] at h
        exact ((List.suffix_cons _ _).trans h).trans ((codes_suffix hleft).trans (List.suffix_cons _ _))
      · exact .malformed
  · exact .malformed

theorem suffix_of_skipGap_eq (h : skipGap s = rest) : rest <:+ s :=
  h ▸ skipGap_suffix s

theorem suffix_of_skipGap_eq_cons {c : Char} (h : skipGap s = c :: rest) : rest <:+ s :=
  (List.suffix_cons c rest).trans (suffix_of_skipGap_eq h)

section Fuel

variable {fuel : Nat}

/-- A tree is read within a text when items and entries are. -/
theorem within_value (hitems : ∀ depth s, Within depth s (items fuel depth s))
    (hentries : ∀ depth s, Within depth s (entries fuel depth s)) (depth : Nat) (s : List Char) :
    Within depth s (value (fuel + 1) depth s) := by
  rw [value.eq_def]
  simp only
  -- a text, a list, an object, or a number or a word
  split
  · next tail =>
    split
    · next cs left hleft => exact .rest ((codes_suffix hleft).trans (List.suffix_cons _ _))
    · exact .malformed
  · next tail =>
    split
    · exact .tooDeep (by rw [openings_cons rfl]; exact Nat.succ_pos _)
    · next depth =>
      have hinner := ((hitems depth _).of_suffix (skipGap_suffix tail)).opened (c := '[') rfl
      split
      · next left hleft => exact .rest ((suffix_of_skipGap_eq_cons hleft).trans (List.suffix_cons _ _))
      · split
        · next trees left hleft => exact .rest (hleft ▸ hinner).suffix
        · next stop hstop => exact (hstop ▸ hinner).error
  · next tail =>
    split
    · exact .tooDeep (by rw [openings_cons rfl]; exact Nat.succ_pos _)
    · next depth =>
      have hinner := ((hentries depth _).of_suffix (skipGap_suffix tail)).opened (c := '\x7b') rfl
      split
      · next left hleft => exact .rest ((suffix_of_skipGap_eq_cons hleft).trans (List.suffix_cons _ _))
      · split
        · next pairs left hleft => exact .rest (hleft ▸ hinner).suffix
        · next stop hstop => exact (hstop ▸ hinner).error
  · exact within_atom _ _

/-- Items are read within a text when trees and further items are. -/
theorem within_items (hvalue : ∀ depth s, Within depth s (value fuel depth s))
    (hitems : ∀ depth s, Within depth s (items fuel depth s)) (depth : Nat) (s : List Char) :
    Within depth s (items (fuel + 1) depth s) := by
  have hfirst := hvalue depth s
  rw [items.eq_def]
  simp only
  split
  · next stop hstop => exact (hstop ▸ hfirst).error
  · next tree left hleft =>
    have hrest := (hleft ▸ hfirst).suffix
    split
    · next after hafter => exact .rest ((suffix_of_skipGap_eq_cons hafter).trans hrest)
    · next after hafter =>
      have hnext := (hitems depth (skipGap after)).of_suffix
        ((skipGap_suffix after).trans ((suffix_of_skipGap_eq_cons hafter).trans hrest))
      split
      · next trees more hmore => exact .rest (hmore ▸ hnext).suffix
      · next stop hstop => exact (hstop ▸ hnext).error
    · exact .malformed

/-- Entries are read within a text when trees and further entries are. -/
theorem within_entries (hvalue : ∀ depth s, Within depth s (value fuel depth s))
    (hentries : ∀ depth s, Within depth s (entries fuel depth s)) (depth : Nat) (s : List Char) :
    Within depth s (entries (fuel + 1) depth s) := by
  have hkey := within_key depth s
  rw [entries.eq_def]
  simp only
  split
  · next stop hstop => exact (hstop ▸ hkey).error
  · next name left hleft =>
    have hrest := (skipGap_suffix left).trans (hleft ▸ hkey).suffix
    have hfirst := (hvalue depth (skipGap left)).of_suffix hrest
    split
    · next stop hstop => exact (hstop ▸ hfirst).error
    · next tree more hmore =>
      have hrest' := (hmore ▸ hfirst).suffix
      split
      · next after hafter => exact .rest ((suffix_of_skipGap_eq_cons hafter).trans hrest')
      · next after hafter =>
        have hnext := (hentries depth (skipGap after)).of_suffix
          ((skipGap_suffix after).trans ((suffix_of_skipGap_eq_cons hafter).trans hrest'))
        split
        · next pairs more hmore => exact .rest (hmore ▸ hnext).suffix
        · next stop hstop => exact (hstop ▸ hnext).error
      · exact .malformed

end Fuel

/-- Whatever is read is read within its text. -/
theorem within (fuel : Nat) :
    (∀ depth s, Within depth s (value fuel depth s)) ∧
      (∀ depth s, Within depth s (items fuel depth s)) ∧
      ∀ depth s, Within depth s (entries fuel depth s) := by
  induction fuel with
  | zero =>
    refine ⟨fun depth s => ?_, fun depth s => ?_, fun depth s => ?_⟩
    · rw [value]
      exact .malformed
    · rw [items]
      exact .malformed
    · rw [entries]
      exact .malformed
  | succ fuel ih =>
    obtain ⟨hvalue, hitems, hentries⟩ := ih
    exact ⟨within_value hitems hentries, within_items hvalue hitems, within_entries hvalue hentries⟩

/-! ### Fuel

A list or an object takes its bracket before it calls for its items, and an item takes its comma before
the next one; so two calls go by for each character at most. -/

theorem length_skipGap_le (s : List Char) : (skipGap s).length ≤ s.length :=
  (skipGap_suffix s).length_le

/-- Fuel for two calls a character is enough for a tree, when it is for what stands in brackets. -/
theorem value_fuel {fuel : Nat}
    (hitems : ∀ depth s, 2 * s.length + 2 ≤ fuel → items (fuel + 1) depth s = items fuel depth s)
    (hentries : ∀ depth s, 2 * s.length + 2 ≤ fuel →
      entries (fuel + 1) depth s = entries fuel depth s)
    (depth : Nat) {s : List Char} (h : 2 * s.length + 1 ≤ fuel + 1) :
    value (fuel + 2) depth s = value (fuel + 1) depth s := by
  rw [value.eq_def (fuel + 2), value.eq_def (fuel + 1)]
  simp only
  split
  · rfl
  · next tail =>
    have hlength := length_skipGap_le tail
    cases depth with
    | zero => rfl
    | succ depth =>
      rw [List.length_cons] at h
      have hinner := hitems depth (skipGap tail) (by omega)
      simp only
      split
      · rfl
      · rw [hinner]
  · next tail =>
    have hlength := length_skipGap_le tail
    cases depth with
    | zero => rfl
    | succ depth =>
      rw [List.length_cons] at h
      have hinner := hentries depth (skipGap tail) (by omega)
      simp only
      split
      · rfl
      · rw [hinner]
  · rfl

/-- Fuel is enough for items when it is for a tree and for further items. -/
theorem items_fuel {fuel : Nat}
    (hvalue : ∀ depth s, 2 * s.length + 1 ≤ fuel → value (fuel + 1) depth s = value fuel depth s)
    (hitems : ∀ depth s, 2 * s.length + 2 ≤ fuel → items (fuel + 1) depth s = items fuel depth s)
    (depth : Nat) {s : List Char} (h : 2 * s.length + 2 ≤ fuel + 1) :
    items (fuel + 2) depth s = items (fuel + 1) depth s := by
  have hfirst := (within fuel).1 depth s
  rw [items.eq_def (fuel + 2), items.eq_def (fuel + 1)]
  simp only [hvalue depth s (by omega)]
  split
  · rfl
  · next tree left hleft =>
    -- what the first item leaves is no longer than the text, and its comma is taken too
    rw [hleft] at hfirst
    split
    · rfl
    · next after hafter =>
      have hlength : (skipGap after).length + 1 ≤ s.length :=
        calc (skipGap after).length + 1 ≤ (skipGap left).length := by
              rw [hafter, List.length_cons]
              exact Nat.succ_le_succ (length_skipGap_le after)
          _ ≤ left.length := length_skipGap_le left
          _ ≤ s.length := hfirst.suffix.length_le
      rw [hitems depth (skipGap after) (by omega)]
    · rfl

/-- Fuel is enough for entries when it is for a tree and for further entries. -/
theorem entries_fuel {fuel : Nat}
    (hvalue : ∀ depth s, 2 * s.length + 1 ≤ fuel → value (fuel + 1) depth s = value fuel depth s)
    (hentries : ∀ depth s, 2 * s.length + 2 ≤ fuel →
      entries (fuel + 1) depth s = entries fuel depth s)
    (depth : Nat) {s : List Char} (h : 2 * s.length + 2 ≤ fuel + 1) :
    entries (fuel + 2) depth s = entries (fuel + 1) depth s := by
  have hkey := within_key depth s
  rw [entries.eq_def (fuel + 2), entries.eq_def (fuel + 1)]
  simp only
  split
  · rfl
  · next name left hleft =>
    rw [hleft] at hkey
    have hlength : (skipGap left).length ≤ s.length :=
      Nat.le_trans (length_skipGap_le left) hkey.suffix.length_le
    have hfirst := (within fuel).1 depth (skipGap left)
    rw [hvalue depth (skipGap left) (by omega)]
    split
    · rfl
    · next tree more hmore =>
      rw [hmore] at hfirst
      split
      · rfl
      · next after hafter =>
        have hlength' : (skipGap after).length + 1 ≤ s.length :=
          calc (skipGap after).length + 1 ≤ (skipGap more).length := by
                rw [hafter, List.length_cons]
                exact Nat.succ_le_succ (length_skipGap_le after)
            _ ≤ more.length := length_skipGap_le more
            _ ≤ (skipGap left).length := hfirst.suffix.length_le
            _ ≤ s.length := hlength
        rw [hentries depth (skipGap after) (by omega)]
      · rfl

/-- More fuel than two calls a character need changes nothing. -/
theorem fuel_succ (fuel : Nat) :
    (∀ depth s, 2 * s.length + 1 ≤ fuel → value (fuel + 1) depth s = value fuel depth s) ∧
      (∀ depth s, 2 * s.length + 2 ≤ fuel → items (fuel + 1) depth s = items fuel depth s) ∧
      ∀ depth s, 2 * s.length + 2 ≤ fuel → entries (fuel + 1) depth s = entries fuel depth s := by
  induction fuel with
  | zero =>
    refine ⟨fun depth s h => ?_, fun depth s h => ?_, fun depth s h => ?_⟩
    all_goals exact absurd h (by omega)
  | succ fuel ih =>
    obtain ⟨hvalue, hitems, hentries⟩ := ih
    exact ⟨fun depth s h => value_fuel hitems hentries depth h,
      fun depth s h => items_fuel hvalue hitems depth h,
      fun depth s h => entries_fuel hvalue hentries depth h⟩

theorem value_eq_of_fuel_le {fuel more : Nat} {s : List Char} (h : 2 * s.length + 1 ≤ fuel)
    (hmore : fuel ≤ more) (depth : Nat) : value more depth s = value fuel depth s := by
  induction hmore with
  | refl => rfl
  | step hle ih => rw [(fuel_succ _).1 depth s (Nat.le_trans h hle), ih]

/-- **The fuel is enough.** With more fuel than the reader has, the same is read. -/
theorem read_eq_of_fuel_le {s : String} {fuel : Nat} (h : 2 * s.toList.length + 2 ≤ fuel) :
    read s =
      match value fuel maxDepth (skipGap s.toList) with
      | .error stop => .error stop
      | .ok (tree, rest) => if (skipGap rest).isEmpty then .ok tree else .error .malformed := by
  have hlength := length_skipGap_le s.toList
  have hvalue : value fuel maxDepth (skipGap s.toList) =
      value (2 * s.toList.length + 2) maxDepth (skipGap s.toList) :=
    value_eq_of_fuel_le (by omega) h maxDepth
  rw [hvalue]
  rfl

/-- **What is nested too deep.** A text that is not read for its depth has more opening brackets than may
be open at a time. -/
theorem lt_openings_of_read {s : String} (h : read s = .error .tooDeep) :
    maxDepth < openings s.toList := by
  have hvalue := (within (2 * s.toList.length + 2)).1 maxDepth (skipGap s.toList)
  rw [read] at h
  split at h
  · next stop hstop =>
    obtain rfl := Except.error.inj h
    rw [hstop] at hvalue
    cases hvalue with
    | tooDeep hdepth => exact Nat.lt_of_lt_of_le hdepth (openings_le (skipGap_suffix _))
  · split at h <;> cases h

/-- An opening bracket after another one begins the first item of the list. -/
theorem value_openings {fuel depth : Nat} {stop : Stop} {rest : List Char}
    (h : items fuel depth ('[' :: rest) = .error stop) :
    value (fuel + 1) (depth + 1) ('[' :: '[' :: rest) = .error stop := by
  have hgap : skipGap ('[' :: rest) = '[' :: rest := rfl
  rw [value.eq_def]
  simp only [hgap]
  split
  · next heq => exact absurd (List.head_eq_of_cons_eq heq) (by decide)
  · rw [h]

/-- Each opening bracket takes one of the depth and two of the fuel, until no depth is left. -/
theorem value_replicate {depth n fuel : Nat} (hn : depth < n) (hfuel : 2 * depth < fuel)
    (rest : List Char) :
    value fuel depth (List.replicate n '[' ++ rest) = .error .tooDeep := by
  induction depth generalizing n fuel with
  | zero =>
    obtain ⟨n, rfl⟩ : ∃ k, n = k + 1 := ⟨n - 1, by omega⟩
    obtain ⟨fuel, rfl⟩ : ∃ k, fuel = k + 1 := ⟨fuel - 1, by omega⟩
    rfl
  | succ depth ih =>
    -- one call for the list that the bracket opens, and one for its first item
    obtain ⟨n, rfl⟩ : ∃ k, n = k + 2 := ⟨n - 2, by omega⟩
    obtain ⟨fuel, rfl⟩ : ∃ k, fuel = k + 2 := ⟨fuel - 2, by omega⟩
    have hfirst : value fuel depth ('[' :: (List.replicate n '[' ++ rest)) = .error .tooDeep :=
      @ih (n + 1) fuel (by omega) (by omega)
    have hitems : items (fuel + 1) depth ('[' :: (List.replicate n '[' ++ rest)) =
        .error .tooDeep := by
      rw [items, hfirst]
    exact value_openings hitems

/-- A text that begins with more opening brackets than may be open is nested too deep. -/
theorem read_of_openings {n : Nat} (h : maxDepth < n) (rest : List Char) :
    read (String.ofList (List.replicate n '[' ++ rest)) = .error .tooDeep := by
  obtain ⟨n, rfl⟩ := Nat.exists_eq_add_of_lt h
  have hgap : ∀ k, skipGap (List.replicate (k + 1) '[' ++ rest) = List.replicate (k + 1) '[' ++ rest :=
    fun _ => rfl
  rw [read, String.toList_ofList, hgap, value_replicate (by omega)]
  rw [List.length_append, List.length_replicate]
  omega

end Json

end PromptForm

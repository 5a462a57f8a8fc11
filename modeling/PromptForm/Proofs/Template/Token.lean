import PromptForm.Proofs.Text.Cut
import PromptForm.Template.Block
import PromptForm.Template.Cleanup

/-!
# Tokens among plain text

Opening and closing tokens of blocks are tokens too, of a name with a mark before it. A token whose
name has no braces is found in a text exactly where it stands: it begins neither inside plain text
nor inside another token. Putting in, resolving and erasing can therefore be followed along a text
that is put together from tokens and texts in which no token begins.

## Main definitions

* `Template.Braceless`: a text has no braces.
* `Template.Inert`: no token begins in a text, whatever follows the text.
* `Template.IsName`: a text can be the name of a token or a block.
-/

namespace PromptForm

namespace Template

open Text

def Braceless (s : List Char) : Prop :=
  ∀ c ∈ s, c ≠ '\x7b' ∧ c ≠ '\x7d'

/-- No token begins in a text, whatever follows the text. -/
def Inert (s : List Char) : Prop :=
  ∀ inside, '\x7d' ∉ inside → Avoids (token inside) s

/-- A name of a token or a block: it has no braces and does not begin with one of the two marks. -/
def IsName (n : String) : Prop :=
  Braceless n.toList ∧ ∀ c ∈ n.toList.head?, c ≠ '#' ∧ c ≠ '/'

-- the characters of the text are gone through, not all characters
instance (s : List Char) : Decidable (Braceless s) :=
  List.decidableBAll (fun c => c ≠ '\x7b' ∧ c ≠ '\x7d') s

instance (n : String) : Decidable (IsName n) :=
  have : Decidable (∀ c ∈ n.toList.head?, c ≠ '#' ∧ c ≠ '/') :=
    Option.decidableForallMem n.toList.head?
  instDecidableAnd

theorem opener_eq_token (name : List Char) : opener name = token ('#' :: name) := rfl

theorem closer_eq_token (name : List Char) : closer name = token ('/' :: name) := rfl

theorem token_append (s t : List Char) :
    token s ++ t = '\x7b' :: '\x7b' :: (s ++ '\x7d' :: '\x7d' :: t) := by
  simp [token, open2, close2]

theorem token_ne_nil (s : List Char) : token s ≠ [] := by
  simp [token, open2]

theorem Braceless.cons {c : Char} {s : List Char} (hc : c ≠ '\x7b' ∧ c ≠ '\x7d')
    (hs : Braceless s) : Braceless (c :: s) := by
  intro d hd
  rcases List.mem_cons.1 hd with rfl | hd
  · exact hc
  · exact hs d hd

theorem Braceless.tail {c : Char} {s : List Char} (h : Braceless (c :: s)) : Braceless s :=
  fun d hd => h d (List.mem_cons_of_mem c hd)

theorem Braceless.not_mem_close {s : List Char} (h : Braceless s) : '\x7d' ∉ s :=
  fun hmem => (h _ hmem).2 rfl

theorem IsName.ne_hash {n : String} (h : IsName n) (k : List Char) : n.toList ≠ '#' :: k := by
  intro he
  exact (h.2 '#' (by rw [he]; rfl)).1 rfl

theorem IsName.ne_slash {n : String} (h : IsName n) (k : List Char) : n.toList ≠ '/' :: k := by
  intro he
  exact (h.2 '/' (by rw [he]; rfl)).2 rfl

theorem IsName.braceless_hash {n : String} (h : IsName n) : Braceless ('#' :: n.toList) :=
  h.1.cons (by decide)

theorem IsName.braceless_slash {n : String} (h : IsName n) : Braceless ('/' :: n.toList) :=
  h.1.cons (by decide)

/-! ### Where a token begins -/

/-- A text up to its first closing brace is read in one way. -/
theorem append_brace_inj {p s t u : List Char} (hp : '\x7d' ∉ p) (hs : '\x7d' ∉ s)
    (h : s ++ '\x7d' :: t = p ++ '\x7d' :: u) : s = p ∧ t = u := by
  induction s generalizing p with
  | nil =>
    cases p with
    | nil => exact ⟨rfl, (List.cons.inj h).2⟩
    | cons d p => exact absurd (List.cons.inj h).1 (List.ne_of_not_mem_cons hp)
  | cons c s ih =>
    cases p with
    | nil => exact absurd (List.cons.inj h).1.symm (List.ne_of_not_mem_cons hs)
    | cons d p =>
      obtain ⟨rfl, htail⟩ := List.cons.inj h
      obtain ⟨rfl, rfl⟩ :=
        ih (List.not_mem_of_not_mem_cons hp) (List.not_mem_of_not_mem_cons hs) htail
      exact ⟨rfl, rfl⟩

theorem afterPrefix?_token_cons_of_ne (p : List Char) {c : Char} (hc : c ≠ '\x7b') (s : List Char) :
    afterPrefix? (token p) (c :: s) = none := by
  have hne : '\x7b' ≠ c := hc.symm
  simp [token, open2, afterPrefix?, hne]

theorem afterPrefix?_token_cons_cons_of_ne (p : List Char) {c : Char} (hc : c ≠ '\x7b')
    (b : Char) (s : List Char) : afterPrefix? (token p) (b :: c :: s) = none := by
  have hne : '\x7b' ≠ c := hc.symm
  simp [token, open2, afterPrefix?, hne]

theorem avoids_token_of_braceless {p s : List Char} (hs : Braceless s) : Avoids (token p) s := by
  induction s with
  | nil => exact avoids_nil _
  | cons c s ih =>
    refine avoids_cons_iff.2 ⟨fun t => ?_, ih hs.tail⟩
    exact afterPrefix?_token_cons_of_ne p (hs c List.mem_cons_self).1 _

theorem Braceless.inert {s : List Char} (h : Braceless s) : Inert s :=
  fun _ _ => avoids_token_of_braceless h

theorem inert_nil : Inert [] :=
  fun _ _ => avoids_nil _

theorem inert_cons_of_ne {c : Char} {s : List Char} (hc : c ≠ '\x7b') (hs : Inert s) :
    Inert (c :: s) := by
  intro inside hinside
  exact avoids_cons_iff.2 ⟨fun t => afterPrefix?_token_cons_of_ne inside hc _, hs inside hinside⟩

theorem inert_cons_cons_of_ne (c : Char) {d : Char} {s : List Char} (hd : d ≠ '\x7b')
    (hs : Inert (d :: s)) : Inert (c :: d :: s) := by
  intro inside hinside
  refine avoids_cons_iff.2 ⟨fun t => ?_, hs inside hinside⟩
  exact afterPrefix?_token_cons_cons_of_ne inside hd c (s ++ t)

theorem Inert.append {s t : List Char} (hs : Inert s) (ht : Inert t) : Inert (s ++ t) :=
  fun inside hinside => (hs inside hinside).append (ht inside hinside)

theorem Inert.tail {c : Char} {s : List Char} (h : Inert (c :: s)) : Inert s :=
  fun inside hinside => (avoids_cons_iff.1 (h inside hinside)).2

theorem Inert.avoids {s : List Char} (h : Inert s) {p : List Char} (hp : Braceless p) :
    Avoids (token p) s :=
  h p hp.not_mem_close

/-- A token begins at another one only when the two are the same. -/
theorem afterPrefix?_token_token_of_ne {p s : List Char} (hp : Braceless p) (hs : Braceless s)
    (hne : s ≠ p) (t : List Char) : afterPrefix? (token p) (token s ++ t) = none := by
  rw [Option.eq_none_iff_forall_not_mem]
  intro rest hrest
  have h := afterPrefix?_eq_some_iff.1 hrest
  rw [token_append, token_append] at h
  have hinner := (List.cons.inj (List.cons.inj h).2).2
  exact hne (append_brace_inj hp.not_mem_close hs.not_mem_close hinner).1

/-- A token begins nowhere inside another one. -/
theorem avoids_token_token {p s : List Char} (hp : Braceless p) (hs : Braceless s) (hne : s ≠ p) :
    Avoids (token p) (token s) := by
  have hinner : Avoids (token p) (s ++ close2) := by
    refine (avoids_token_of_braceless hs).append ?_
    simp only [close2, avoids_cons_iff]
    exact ⟨fun t => afterPrefix?_token_cons_of_ne p (by decide) _,
      fun t => afterPrefix?_token_cons_of_ne p (by decide) _, avoids_nil _⟩
  have hshape : token s = '\x7b' :: '\x7b' :: (s ++ close2) := by
    simp [token, open2]
  rw [hshape, avoids_cons_iff, avoids_cons_iff]
  refine ⟨fun t => ?_, fun t => ?_, hinner⟩
  · have h := afterPrefix?_token_token_of_ne hp hs hne t
    rwa [hshape] at h
  · -- the second brace is followed by the name or by a closing brace, never by a third one
    cases s with
    | nil => exact afterPrefix?_token_cons_cons_of_ne p (by decide) _ _
    | cons c s => exact afterPrefix?_token_cons_cons_of_ne p (hs c List.mem_cons_self).1 _ _

end Template

end PromptForm

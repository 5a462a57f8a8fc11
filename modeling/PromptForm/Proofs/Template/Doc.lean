import PromptForm.Proofs.Template.Passes

/-!
# Template documents

A well formed template is the written form of a tree: plain texts, tokens, and blocks with a document
inside, no block standing inside one of the same name. The meaning of a document is computed by
recursion on the tree. Putting in a value and deciding the blocks of a name are operations on the
tree; each agrees with the pass of the same purpose over the written form, and each moves one
name from the document to the environment in which it is read.

## Main definitions

* `Doc`, `Doc.print`: documents, and how they are written.
* `Doc.WellFormed`: names are names, plain text is plain, and blocks of one name are not nested.
* `Doc.Sound`: the same for texts in which no token begins.
* `Doc.meaning`: the text that a document stands for.
* `Doc.put`, `Doc.settle`: one pass of putting in, and one of deciding blocks, on the tree.
-/

namespace PromptForm

namespace Template

open Text

/-- A template as a tree: what stands first, and the rest. -/
inductive Doc where
  | nil
  | text (s : String) (rest : Doc)
  | token (name : String) (rest : Doc)
  | block (name : String) (body rest : Doc)
  deriving DecidableEq, Repr

namespace Doc

def print : Doc → List Char
  | nil => []
  | text s rest => s.toList ++ print rest
  | token name rest => Template.token name.toList ++ print rest
  | block name body rest =>
    opener name.toList ++ (print body ++ (closer name.toList ++ print rest))

/-- The names of the blocks of a document, at any depth. -/
def blockNames : Doc → List String
  | nil => []
  | text _ rest => blockNames rest
  | token _ rest => blockNames rest
  | block name body rest => name :: (blockNames body ++ blockNames rest)

/-- Plain text has no braces, names are names, and no block stands inside one of its own name. -/
def WellFormed : Doc → Prop
  | nil => True
  | text s rest => Braceless s.toList ∧ WellFormed rest
  | token name rest => IsName name ∧ WellFormed rest
  | block name body rest =>
    IsName name ∧ name ∉ blockNames body ∧ WellFormed body ∧ WellFormed rest

/-- The same for texts that may have braces, as long as no token begins in them: what a document is
after values have been put in. -/
def Sound : Doc → Prop
  | nil => True
  | text s rest => Inert s.toList ∧ Sound rest
  | token name rest => IsName name ∧ Sound rest
  | block name body rest =>
    IsName name ∧ name ∉ blockNames body ∧ Sound body ∧ Sound rest

/-- The text that a document stands for, where `value` gives the texts of tokens and `keeps` tells
which blocks are kept. -/
def meaning (value : String → List Char) (keeps : String → Bool) : Doc → List Char
  | nil => []
  | text s rest => s.toList ++ meaning value keeps rest
  | token name rest => value name ++ meaning value keeps rest
  | block name body rest =>
    (if keeps name then meaning value keeps body else []) ++ meaning value keeps rest

/-- The document with a text put in for the tokens of a name. -/
def put (name s : String) : Doc → Doc
  | nil => nil
  | text t rest => text t (put name s rest)
  | token n rest => if n = name then text s (put name s rest) else token n (put name s rest)
  | block n body rest => block n (put name s body) (put name s rest)

def append : Doc → Doc → Doc
  | nil, e => e
  | text s rest, e => text s (append rest e)
  | token n rest, e => token n (append rest e)
  | block n body rest, e => block n body (append rest e)

/-- The document with the blocks of a name replaced by their insides or taken out. -/
def settle (keep : Bool) (name : String) : Doc → Doc
  | nil => nil
  | text s rest => text s (settle keep name rest)
  | token n rest => token n (settle keep name rest)
  | block n body rest =>
    if n = name then
      if keep then append body (settle keep name rest) else settle keep name rest
    else block n (settle keep name body) (settle keep name rest)

theorem WellFormed.sound {d : Doc} (h : d.WellFormed) : d.Sound := by
  induction d with
  | nil => trivial
  | text s rest ih => exact ⟨h.1.inert, ih h.2⟩
  | token n rest ih => exact ⟨h.1, ih h.2⟩
  | block n body rest ihb ih => exact ⟨h.1, h.2.1, ihb h.2.2.1, ih h.2.2.2⟩

/-! ### Appending -/

@[simp] theorem print_append (d e : Doc) : (append d e).print = d.print ++ e.print := by
  induction d with
  | nil => rfl
  | text s rest ih => simp [append, print, ih]
  | token n rest ih => simp [append, print, ih]
  | block n body rest _ ih => simp [append, print, ih]

@[simp] theorem blockNames_append (d e : Doc) :
    (append d e).blockNames = d.blockNames ++ e.blockNames := by
  induction d with
  | nil => rfl
  | text s rest ih => exact ih
  | token n rest ih => exact ih
  | block n body rest _ ih => simp [append, blockNames, ih]

@[simp] theorem meaning_append (value : String → List Char) (keeps : String → Bool) (d e : Doc) :
    (append d e).meaning value keeps = d.meaning value keeps ++ e.meaning value keeps := by
  induction d with
  | nil => rfl
  | text s rest ih => simp [append, meaning, ih]
  | token n rest ih => simp [append, meaning, ih]
  | block n body rest _ ih => simp [append, meaning, ih]

theorem Sound.append {d e : Doc} (hd : d.Sound) (he : e.Sound) :
    (Doc.append d e).Sound := by
  induction d with
  | nil => exact he
  | text s rest ih => exact ⟨hd.1, ih hd.2⟩
  | token n rest ih => exact ⟨hd.1, ih hd.2⟩
  | block n body rest _ ih => exact ⟨hd.1, hd.2.1, hd.2.2.1, ih hd.2.2.2⟩

/-! ### Putting in -/

@[simp] theorem blockNames_put (name s : String) (d : Doc) :
    (put name s d).blockNames = d.blockNames := by
  induction d with
  | nil => rfl
  | text t rest ih => exact ih
  | token n rest ih =>
    rw [put]
    split <;> exact ih
  | block n body rest ihb ih => simp only [put, blockNames, ihb, ih]

theorem Sound.put {d : Doc} (hd : d.Sound) (name : String) {s : String}
    (hs : Inert s.toList) : (Doc.put name s d).Sound := by
  induction d with
  | nil => exact hd
  | text t rest ih => exact ⟨hd.1, ih hd.2⟩
  | token n rest ih =>
    rw [Doc.put]
    split
    · exact ⟨hs, ih hd.2⟩
    · exact ⟨hd.1, ih hd.2⟩
  | block n body rest ihb ih =>
    obtain ⟨hn, hnest, hbody, hrest⟩ := hd
    exact ⟨hn, by rwa [blockNames_put], ihb hbody, ih hrest⟩

/-- Putting a value in for a token of the written form is putting it into the document. -/
theorem replaceAll_print {d : Doc} (hd : d.Sound) {name : String} (hname : IsName name)
    (s : String) (tail : List Char) :
    replaceAll (Template.token name.toList) s.toList (d.print ++ tail) =
      (put name s d).print ++ replaceAll (Template.token name.toList) s.toList tail := by
  induction d generalizing tail with
  | nil => rfl
  | text t rest ih =>
    simp only [print, put, List.append_assoc]
    rw [replaceAll_append_of_avoids (hd.1.avoids hname.1), ih hd.2]
  | token n rest ih =>
    simp only [print, List.append_assoc]
    by_cases hn : n = name
    · subst hn
      rw [replaceAll_append_self (token_ne_nil _), ih hd.2]
      simp [put, print]
    · have hne : n.toList ≠ name.toList := fun h => hn (String.toList_inj.1 h)
      rw [replaceAll_append_of_avoids (avoids_token_token hname.1 hd.1.1 hne), ih hd.2]
      simp [put, print, hn]
  | block n body rest ihb ih =>
    obtain ⟨hn, -, hbody, hrest⟩ := hd
    -- a name has no mark in front of it, so that the tokens of a block are not its tokens
    have hopen := avoids_token_token hname.1 hn.braceless_hash (hname.ne_hash n.toList).symm
    have hclose := avoids_token_token hname.1 hn.braceless_slash (hname.ne_slash n.toList).symm
    rw [← opener_eq_token] at hopen
    rw [← closer_eq_token] at hclose
    simp only [print, put, List.append_assoc]
    rw [replaceAll_append_of_avoids hopen, ihb hbody, replaceAll_append_of_avoids hclose, ih hrest]

/-- A document with a text put in means what the document means when the name stands for it. -/
theorem meaning_put (value : String → List Char) (keeps : String → Bool) (name s : String)
    (d : Doc) :
    (put name s d).meaning value keeps =
      d.meaning (fun n => if n = name then s.toList else value n) keeps := by
  induction d with
  | nil => rfl
  | text t rest ih => simp only [put, meaning, ih]
  | token n rest ih =>
    by_cases hn : n = name
    · simp [put, meaning, hn, ih]
    · simp [put, meaning, hn, ih]
  | block n body rest ihb ih => simp only [put, meaning, ihb, ih]

/-! ### Deciding blocks -/

theorem mem_blockNames_of_settle {keep : Bool} {name m : String} {d : Doc}
    (h : m ∈ (settle keep name d).blockNames) : m ∈ d.blockNames := by
  induction d with
  | nil => exact h
  | text t rest ih => exact ih h
  | token n rest ih => exact ih h
  | block n body rest ihb ih =>
    simp only [blockNames, List.mem_cons, List.mem_append]
    rw [settle] at h
    split at h
    · split at h
      · rw [blockNames_append] at h
        rcases List.mem_append.1 h with h | h
        · exact .inr (.inl h)
        · exact .inr (.inr (ih h))
      · exact .inr (.inr (ih h))
    · simp only [blockNames, List.mem_cons, List.mem_append] at h
      rcases h with h | h | h
      · exact .inl h
      · exact .inr (.inl (ihb h))
      · exact .inr (.inr (ih h))

theorem Sound.settle {d : Doc} (hd : d.Sound) (keep : Bool) (name : String) :
    (Doc.settle keep name d).Sound := by
  induction d with
  | nil => exact hd
  | text t rest ih => exact ⟨hd.1, ih hd.2⟩
  | token n rest ih => exact ⟨hd.1, ih hd.2⟩
  | block n body rest ihb ih =>
    obtain ⟨hn, hnest, hbody, hrest⟩ := hd
    rw [Doc.settle]
    split
    · split
      · exact hbody.append (ih hrest)
      · exact ih hrest
    · exact ⟨hn, fun h => hnest (mem_blockNames_of_settle h), ihb hbody, ih hrest⟩

/-- The closing token of a name begins nowhere in a document without blocks of that name. -/
theorem avoids_closer_print {d : Doc} (hd : d.Sound) {name : String} (hname : IsName name)
    (h : name ∉ d.blockNames) : Avoids (closer name.toList) d.print := by
  have hne : ∀ {s : List Char}, Braceless s → s ≠ '/' :: name.toList →
      Avoids (closer name.toList) (Template.token s) :=
    fun hs => avoids_token_token hname.braceless_slash hs
  induction d with
  | nil => exact avoids_nil _
  | text t rest ih => exact (hd.1.avoids hname.braceless_slash).append (ih hd.2 h)
  | token n rest ih => exact (hne hd.1.1 (hd.1.ne_slash _)).append (ih hd.2 h)
  | block n body rest ihb ih =>
    obtain ⟨hn, -, hbody, hrest⟩ := hd
    simp only [blockNames, List.mem_cons, List.mem_append, not_or] at h
    obtain ⟨hname', hinside, hafter⟩ := h
    have hopen := hne hn.braceless_hash (by simp)
    have hclose := hne hn.braceless_slash (by
      intro he
      exact hname' (String.toList_inj.1 (List.cons.inj he).2).symm)
    exact hopen.append ((ihb hbody hinside).append (hclose.append (ih hrest hafter)))

/-- Resolving the blocks of a name in the written form is deciding them in the document. -/
theorem resolveName_print (keep : Bool) {d : Doc} (hd : d.Sound) {name : String}
    (hname : IsName name) (tail : List Char) :
    resolveName keep name.toList (d.print ++ tail) =
      (settle keep name d).print ++ resolveName keep name.toList tail := by
  have hne : ∀ {s : List Char}, Braceless s → s ≠ '#' :: name.toList →
      Avoids (opener name.toList) (Template.token s) :=
    fun hs => avoids_token_token hname.braceless_hash hs
  induction d generalizing tail with
  | nil => rfl
  | text t rest ih =>
    simp only [print, settle, List.append_assoc]
    rw [resolveName_append_of_avoids keep (hd.1.avoids hname.braceless_hash), ih hd.2]
  | token n rest ih =>
    simp only [print, settle, List.append_assoc]
    rw [resolveName_append_of_avoids keep (hne hd.1.1 (hd.1.ne_hash _)), ih hd.2]
  | block n body rest ihb ih =>
    obtain ⟨hn, hnest, hbody, hrest⟩ := hd
    simp only [print, List.append_assoc]
    by_cases hnn : n = name
    · subst hnn
      -- the first closing token is the one of this block: there is none inside
      rw [resolveName_block keep (avoids_closer_print hbody hn hnest), ih hrest]
      cases keep <;> simp [settle]
    · have hopen := hne hn.braceless_hash (by
        intro he
        exact hnn (String.toList_inj.1 (List.cons.inj he).2))
      have hclose := hne hn.braceless_slash (by simp)
      rw [← opener_eq_token] at hopen
      rw [← closer_eq_token] at hclose
      -- the tokens of another block are copied, and the pass goes on inside
      rw [resolveName_append_of_avoids keep hopen, ihb hbody,
        resolveName_append_of_avoids keep hclose, ih hrest]
      simp [settle, print, hnn]

/-- Only the decisions on blocks that a document has matter for its meaning. -/
theorem meaning_congr (value : String → List Char) {keeps keeps' : String → Bool} {d : Doc}
    (h : ∀ n ∈ d.blockNames, keeps n = keeps' n) : d.meaning value keeps = d.meaning value keeps' := by
  induction d with
  | nil => rfl
  | text t rest ih => simp only [meaning, ih h]
  | token n rest ih => simp only [meaning, ih h]
  | block n body rest ihb ih =>
    simp only [blockNames, List.mem_cons, List.mem_append] at h
    rw [meaning, meaning, h n (.inl rfl), ihb fun m hm => h m (.inr (.inl hm)),
      ih fun m hm => h m (.inr (.inr hm))]

/-- A document with the blocks of a name decided means what the document means when they are
decided in that way. -/
theorem meaning_settle (value : String → List Char) (keeps : String → Bool) (keep : Bool)
    (name : String) {d : Doc} (hd : d.Sound) :
    (settle keep name d).meaning value keeps =
      d.meaning value (fun n => if n = name then keep else keeps n) := by
  induction d with
  | nil => rfl
  | text t rest ih => simp only [settle, meaning, ih hd.2]
  | token n rest ih => simp only [settle, meaning, ih hd.2]
  | block n body rest ihb ih =>
    obtain ⟨hn, hnest, hbody, hrest⟩ := hd
    by_cases hnn : n = name
    · subst hnn
      -- inside the block no block of its name is left to decide
      have hinside : body.meaning value keeps =
          body.meaning value (fun m => if m = n then keep else keeps m) :=
        meaning_congr value fun m hm => (if_neg (ne_of_mem_of_not_mem hm hnest)).symm
      cases keep <;> simp [settle, meaning, ih hrest, hinside]
    · simp [settle, meaning, hnn, ihb hbody, ih hrest]

/-! ### Erasing -/

/-- Erasing takes every token out of a written document. -/
theorem erasePass_print {d : Doc} (hd : d.Sound) (tail : List Char) :
    erasePass (d.print ++ tail) = d.meaning (fun _ => []) (fun _ => true) ++ erasePass tail := by
  induction d generalizing tail with
  | nil => rfl
  | text t rest ih =>
    simp only [print, meaning, List.append_assoc]
    rw [erasePass_inert_append hd.1, ih hd.2]
  | token n rest ih =>
    simp only [print, meaning, List.append_assoc, List.nil_append]
    rw [erasePass_token_append hd.1.1, ih hd.2]
  | block n body rest ihb ih =>
    obtain ⟨hn, -, hbody, hrest⟩ := hd
    simp only [print, meaning, List.append_assoc, if_true, opener_eq_token, closer_eq_token]
    rw [erasePass_token_append hn.braceless_hash, ihb hbody,
      erasePass_token_append hn.braceless_slash, ih hrest]

/-- In what a document means no token begins, when none begins in the values of its tokens. -/
theorem inert_meaning {value : String → List Char} (hvalue : ∀ n, Inert (value n))
    (keeps : String → Bool) {d : Doc} (hd : d.Sound) :
    Inert (d.meaning value keeps) := by
  induction d with
  | nil => exact inert_nil
  | text t rest ih => exact hd.1.append (ih hd.2)
  | token n rest ih => exact (hvalue n).append (ih hd.2)
  | block n body rest ihb ih =>
    refine Inert.append ?_ (ih hd.2.2.2)
    split
    · exact ihb hd.2.2.1
    · exact inert_nil

/-- Erasing leaves of a written document what it means when nothing is known of its tokens. -/
theorem erase_print {d : Doc} (hd : d.Sound) :
    erase d.print = d.meaning (fun _ => []) (fun _ => true) := by
  have hpass := erasePass_print hd []
  have hplain : Inert (d.meaning (fun _ => []) (fun _ => true)) :=
    inert_meaning (fun _ => inert_nil) (fun _ => true) hd
  rw [List.append_nil, erasePass_nil, List.append_nil] at hpass
  rw [erase, hpass]
  -- whether or not the pass took something away, the next one finds a text without tokens
  split
  · exact erase_inert hplain
  · rfl

end Doc

end Template

end PromptForm

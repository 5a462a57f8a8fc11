import PromptForm.Proofs.Template.Cleanup
import PromptForm.Proofs.Template.Meaning

/-!
# What is entered into a template

The passes over a template read the values that were put in before as if they were part of it. A text
is therefore copied into the prompt wherever its tokens stand, with the same surroundings whatever the
text is, when no token begins in it; and a text in which a token can begin is not always copied.

## Main definitions

* `Template.Framed`: a text has a value at fixed places.
* `Template.Copies`: a prompt has at fixed places what is entered under a name.
* `Template.Surroundings`: form data apart from the value of one name.

## Main results

* `Template.copies_inert`: exactly the texts in which no token can begin are always copied.
* `Template.not_copies_token`: a token that is entered is replaced by the value of another name.
-/

namespace PromptForm

namespace Template

open Text

/-- A text that depends on a value has it at fixed places, and is otherwise always the same. -/
def Framed (f : List Char → List Char) : Prop :=
  ∃ parts, parts ≠ [] ∧ ∀ v, f v = joinWith v parts

/-- Before its blank lines are reduced, the prompt has at fixed places whatever text of a class is
entered under a name. -/
def Copies (texts : Texts) (data : FormData) (template : List Char) (key : String)
    (allowed : String → Prop) : Prop :=
  ∃ parts, parts ≠ [] ∧ ∀ v, v ≠ "" → allowed v →
    stripped texts (data.put (.text key) (.text v)) template = joinWith v.toList parts

/-- Form data under names, with texts in which no token begins, the text of one name apart. -/
structure Surroundings (texts : Texts) (data : FormData) (key : String) : Prop where
  nodup : data.keys.Nodup
  isName : IsName key
  isName_of_mem : ∀ entry ∈ data.entries, ∃ name, entry.1 = .text name ∧ IsName name
  inert : ∀ entry ∈ data.entries, entry.1 ≠ .text key → Inert (rendered texts entry.2).toList

/-! ### Texts with a value at fixed places -/

theorem framed_const (s : List Char) : Framed fun _ => s :=
  ⟨[s], by simp, fun _ => rfl⟩

theorem framed_id : Framed fun v => v :=
  ⟨[[], []], by simp, fun v => by simp [joinWith]⟩

theorem Framed.append {f g : List Char → List Char} (hf : Framed f) (hg : Framed g) :
    Framed fun v => f v ++ g v := by
  obtain ⟨parts, hparts, hf⟩ := hf
  obtain ⟨more, hmore, hg⟩ := hg
  obtain ⟨next, rest, rfl⟩ := List.exists_cons_of_ne_nil hmore
  -- the last part of the one text and the first part of the other become one part
  refine ⟨parts.dropLast ++ (parts.getLast hparts ++ next) :: rest, by simp, fun v => ?_⟩
  change f v ++ g v = _
  rw [hf, hg]
  clear hf hg
  induction parts with
  | nil => exact absurd rfl hparts
  | cons part parts ih =>
    by_cases hnil : parts = []
    · subst hnil
      cases rest with
      | nil => simp [joinWith]
      | cons last rest => simp [joinWith]
    · have hne : parts.dropLast ++ (parts.getLast hnil ++ next) :: rest ≠ [] := by simp
      rw [joinWith_cons hnil, List.dropLast_cons_of_ne_nil hnil, List.getLast_cons hnil,
        List.cons_append, joinWith_cons hne, ← ih hnil]
      simp only [List.append_assoc]

/-- What a document means has the value of a name at fixed places. -/
theorem Doc.framed_meaning (value : String → List Char) (keeps : String → Bool) (key : String)
    (d : Doc) : Framed fun v => d.meaning (fun n => if n = key then v else value n) keeps := by
  induction d with
  | nil => exact framed_const []
  | text s rest ih => exact (framed_const s.toList).append ih
  | token n rest ih =>
    refine Framed.append ?_ ih
    by_cases hn : n = key
    · simpa [hn] using framed_id
    · simpa [hn] using framed_const (value n)
  | block n body rest ihb ih =>
    refine Framed.append ?_ ih
    by_cases hk : keeps n = true
    · simpa [hk] using ihb
    · simpa [hk] using framed_const []

/-! ### Entering a text -/

variable {texts : Texts} {data : FormData} {key : String}

theorem valueIn_put (texts : Texts) (data : FormData) (key v : String) :
    valueIn texts (data.put (.text key) (.text v)) =
      fun n => if n = key then v.toList else valueIn texts data n := by
  funext n
  by_cases hn : n = key
  · subst hn
    rw [valueIn, Table.get?_put_self (Value.exact_text n), if_pos rfl]
    rfl
  · have hne : Value.text key ≠ .text n := fun he => hn (Value.text.inj he).symm
    rw [valueIn, valueIn,
      Table.get?_put_of_ne (Value.exact_text key) (Value.exact_text n) hne, if_neg hn]

theorem keepsIn_put (data : FormData) (key : String) {v : String} (hv : v ≠ "") :
    keepsIn (data.put (.text key) (.text v)) = fun n => if n = key then true else keepsIn data n := by
  funext n
  by_cases hn : n = key
  · subst hn
    rw [keepsIn, Table.get?_put_self (Value.exact_text n), if_pos rfl]
    simpa [holds] using hv
  · have hne : Value.text key ≠ .text n := fun he => hn (Value.text.inj he).symm
    rw [keepsIn, keepsIn,
      Table.get?_put_of_ne (Value.exact_text key) (Value.exact_text n) hne, if_neg hn]

theorem Surroundings.inertEntry (h : Surroundings texts data key) {v : String}
    (hv : Inert v.toList) :
    ∀ entry ∈ (data.put (.text key) (.text v)).entries, InertEntry texts entry := by
  intro entry hentry
  rcases Table.mem_entries_put_of_nodup (Value.exact_text key) h.nodup hentry with
    rfl | ⟨hentry, hkey⟩
  · exact ⟨⟨key, rfl, h.isName⟩, hv⟩
  · exact ⟨h.isName_of_mem entry hentry, h.inert entry hentry hkey⟩

/-- Texts in which no token begins are copied, wherever a template has their tokens. -/
theorem Surroundings.copies (h : Surroundings texts data key) {doc : Doc} (hdoc : doc.WellFormed) :
    Copies texts data doc.print key fun v => Inert v.toList := by
  obtain ⟨parts, hparts, hmeaning⟩ := doc.framed_meaning (valueIn texts data)
    (fun n => if n = key then true else keepsIn data n) key
  refine ⟨parts, hparts, fun v hne hv => ?_⟩
  rw [stripped_print texts (h.inertEntry hv) hdoc.sound, valueIn_put, keepsIn_put data key hne]
  exact hmeaning v.toList

/-- Two lengths of the text that is entered show at how many places it stands. -/
theorem Copies.length_stripped {template : List Char} {allowed : String → Prop} {extra : ℕ}
    (h : Copies texts data template key allowed) (hone : allowed "x") (htwo : allowed "xx")
    (hx : (stripped texts (data.put (.text key) (.text "x")) template).length = 1 + extra)
    (hxx : (stripped texts (data.put (.text key) (.text "xx")) template).length = 2 + extra)
    {v : String} (hne : v ≠ "") (hv : allowed v) :
    (stripped texts (data.put (.text key) (.text v)) template).length = v.length + extra := by
  obtain ⟨parts, -, hparts⟩ := h
  rw [hparts "x" (by decide) hone, length_joinWith] at hx
  rw [hparts "xx" (by decide) htwo, length_joinWith] at hxx
  have hsingle : parts.flatten.length + (parts.length - 1) * 1 = 1 + extra := hx
  have hdouble : parts.flatten.length + (parts.length - 1) * 2 = 2 + extra := hxx
  have hplaces : parts.length - 1 = 1 := by omega
  rw [hparts v hne hv, length_joinWith, hplaces, String.length_toList]
  omega

theorem surroundings_pair {first second : String} {v w : Value} (hne : first ≠ second)
    (hfirst : IsName first) (hsecond : IsName second) (hkey : IsName key)
    (hv : first ≠ key → Inert (rendered texts v).toList)
    (hw : second ≠ key → Inert (rendered texts w).toList) :
    Surroundings texts ⟨[(.text first, v), (.text second, w)]⟩ key where
  nodup := by simpa [Table.keys] using hne
  isName := hkey
  isName_of_mem := by
    intro entry hentry
    rcases List.mem_cons.1 hentry with rfl | hentry
    · exact ⟨first, rfl, hfirst⟩
    · obtain rfl := List.mem_singleton.1 hentry
      exact ⟨second, rfl, hsecond⟩
  inert := by
    intro entry hentry hother
    rcases List.mem_cons.1 hentry with rfl | hentry
    · exact hv fun he => hother (congrArg Value.text he)
    · obtain rfl := List.mem_singleton.1 hentry
      exact hw fun he => hother (congrArg Value.text he)

/-! ### Texts in which a token can begin -/

/-- A token that begins in a text can be completed by a text in which none begins. -/
theorem exists_completion {c : Char} {s t inside rest : List Char} (hinside : '\x7d' ∉ inside)
    (h : c :: (s ++ t) = token inside ++ rest) :
    ∃ tail, Inert tail ∧
      ∃ inside' rest', '\x7d' ∉ inside' ∧ c :: (s ++ tail) = token inside' ++ rest' := by
  rw [token_append] at h
  obtain ⟨rfl, hbehind⟩ := List.cons.inj h
  clear h
  have hclose : Inert ['\x7d'] := inert_cons_of_ne (by decide) inert_nil
  have hclose2 : Inert ['\x7d', '\x7d'] := inert_cons_of_ne (by decide) hclose
  cases s with
  | nil =>
    -- only the first brace is in the text
    refine ⟨['\x7b', '\x7d', '\x7d'], inert_cons_cons_of_ne _ (by decide) hclose2, [], [], ?_, rfl⟩
    exact List.not_mem_nil
  | cons d s =>
    obtain ⟨rfl, hname⟩ := List.cons.inj hbehind
    by_cases hmem : '\x7d' ∈ s
    · obtain ⟨front, back, rfl, hfront⟩ := List.eq_append_cons_of_mem hmem
      have hsplit : front ++ '\x7d' :: (back ++ t) = inside ++ '\x7d' :: '\x7d' :: rest := by
        rw [← hname]
        simp
      obtain ⟨rfl, hback⟩ := append_brace_inj hinside hfront hsplit
      cases back with
      | nil =>
        -- the last brace is missing
        refine ⟨['\x7d'], hclose, front, [], hfront, ?_⟩
        rw [token_append]
        simp
      | cons e back =>
        obtain ⟨rfl, -⟩ := List.cons.inj hback
        refine ⟨[], inert_nil, front, back, hfront, ?_⟩
        rw [token_append]
        simp
    · -- both closing braces are missing
      refine ⟨['\x7d', '\x7d'], hclose2, s, [], hmem, ?_⟩
      rw [token_append]
      simp

/-- A text in which a token can begin has one when a suitable text follows it. -/
theorem exists_not_tokenFree {s : List Char} (h : ¬Inert s) :
    ∃ tail, Inert tail ∧ ¬TokenFree (s ++ tail) := by
  simp only [Inert, Avoids, not_forall] at h
  obtain ⟨inside, hinside, front, c, back, after, rfl, hbegins⟩ := h
  obtain ⟨rest, hrest⟩ := Option.ne_none_iff_exists'.1 hbegins
  obtain ⟨tail, htail, inside', rest', hinside', htoken⟩ :=
    exists_completion hinside (afterPrefix?_eq_some_iff.1 hrest)
  refine ⟨tail, htail, fun hfree => hinside' (hfree front inside' rest' ?_)⟩
  rw [List.append_assoc, List.cons_append, htoken, List.append_assoc]

/-- A template with the tokens of two names next to each other. -/
def adjacent : Doc :=
  .token "k" (.token "t" .nil)

/-- Form data in which the name whose token comes second is put in first. -/
def followedBy (tail : String) : FormData :=
  ⟨[(.text "t", .text tail), (.text "k", .text "")]⟩

theorem adjacent_wellFormed : adjacent.WellFormed := by
  simp only [adjacent, Doc.WellFormed]
  decide

theorem surroundings_followedBy (texts : Texts) {tail : String} (htail : Inert tail.toList) :
    Surroundings texts (followedBy tail) "k" :=
  surroundings_pair (by decide) (by decide) (by decide) (by decide) (fun _ => htail)
    fun hne => absurd rfl hne

theorem put_followedBy (tail v : String) :
    (followedBy tail).put (.text "k") (.text v) =
      ⟨[(.text "t", .text tail), (.text "k", .text v)]⟩ := by
  simp [followedBy, Table.put, Table.putEntry]

/-- Whatever is entered, the two texts come next to each other when they are put in. -/
theorem substitute_adjacent (texts : Texts) {tail : String} (htail : Inert tail.toList)
    (v : String) :
    substitute texts ((followedBy tail).put (.text "k") (.text v)) adjacent.print =
      v.toList ++ tail.toList := by
  have hdoc := adjacent_wellFormed.sound
  have hfirst : IsName "t" := by decide
  have hlast : IsName "k" := by decide
  have hput : (adjacent.put "t" tail).Sound := hdoc.put "t" htail
  calc
    substitute texts ((followedBy tail).put (.text "k") (.text v)) adjacent.print =
        substituteEntry texts (substituteEntry texts adjacent.print (.text "t", .text tail))
          (.text "k", .text v) := by
      rw [put_followedBy]
      rfl
    _ = ((adjacent.put "t" tail).put "k" v).print := by
      rw [substituteEntry_print texts hdoc hfirst]
      exact substituteEntry_print texts hput hlast (.text v)
    _ = v.toList ++ tail.toList := by
      simp [adjacent, Doc.put, Doc.print]

/-- A text with which the other one makes a token is not left as it was entered. -/
theorem length_stripped_adjacent (texts : Texts) {tail : String} (htail : Inert tail.toList)
    {v : String} (h : ¬TokenFree (v.toList ++ tail.toList)) :
    (stripped texts ((followedBy tail).put (.text "k") (.text v)) adjacent.print).length <
      v.length + tail.length := by
  rw [stripped, substitute_adjacent texts htail]
  have hlength : (v.toList ++ tail.toList).length = v.length + tail.length := by
    rw [List.length_append, String.length_toList, String.length_toList]
  rcases resolve_length_lt_or ((followedBy tail).put (.text "k") (.text v))
    (v.toList ++ tail.toList) with hlt | heq
  · have hle := erase_length_le
      (resolve ((followedBy tail).put (.text "k") (.text v)) (v.toList ++ tail.toList))
    omega
  · have hlt := erase_length_lt h
    rw [heq]
    omega

theorem stripped_adjacent (texts : Texts) {tail : String} (htail : Inert tail.toList) {v : String}
    (hv : Inert v.toList) :
    stripped texts ((followedBy tail).put (.text "k") (.text v)) adjacent.print =
      v.toList ++ tail.toList := by
  rw [stripped_print texts ((surroundings_followedBy texts htail).inertEntry hv)
    adjacent_wellFormed.sound, put_followedBy]
  simp [adjacent, Doc.meaning, valueIn_cons, rendered, Value.asText]

/-- A text in which a token can begin is not copied everywhere that other texts are. -/
theorem not_copies_of_not_inert (texts : Texts) {v : String} (hv : ¬Inert v.toList) :
    ∃ (doc : Doc) (data : FormData) (key : String), doc.WellFormed ∧ Surroundings texts data key ∧
      ¬Copies texts data doc.print key fun w => Inert w.toList ∨ w = v := by
  obtain ⟨chars, htail, htoken⟩ := exists_not_tokenFree hv
  obtain ⟨tail, rfl⟩ : ∃ tail : String, tail.toList = chars :=
    ⟨String.ofList chars, String.toList_ofList⟩
  refine ⟨adjacent, followedBy tail, "k", adjacent_wellFormed,
    surroundings_followedBy texts htail, ?_⟩
  intro hcopies
  have hne : v ≠ "" := by
    rintro rfl
    exact hv inert_nil
  have hone : Inert "x".toList := Braceless.inert (by decide)
  have htwo : Inert "xx".toList := Braceless.inert (by decide)
  have hlength := hcopies.length_stripped (.inl hone) (.inl htwo)
    (by rw [stripped_adjacent texts htail hone, List.length_append]; rfl)
    (by rw [stripped_adjacent texts htail htwo, List.length_append]; rfl) hne (.inr rfl)
  have hlt := length_stripped_adjacent texts htail htoken
  rw [String.length_toList] at hlength
  omega

/-- **What a text must be to be copied.** A text in which no token begins is copied into every prompt
of a well formed template, at places that do not depend on it, when no token begins in the other values
either. These are all such texts: any other one is, in some template and form data of this kind, not
copied where these are. -/
theorem copies_inert (texts : Texts) :
    (∀ (doc : Doc) (data : FormData) (key : String), doc.WellFormed → Surroundings texts data key →
        Copies texts data doc.print key fun v => Inert v.toList) ∧
      ∀ v : String, ¬Inert v.toList →
        ∃ (doc : Doc) (data : FormData) (key : String), doc.WellFormed ∧
          Surroundings texts data key ∧
          ¬Copies texts data doc.print key fun w => Inert w.toList ∨ w = v :=
  ⟨fun _ _ _ hdoc h => h.copies hdoc, fun _ hv => not_copies_of_not_inert texts hv⟩

/-- A letter that quotes a program. -/
def quoting : Doc :=
  .text "See: " (.token "code" (.text " (" (.token "name" (.text ")" .nil))))

def program : String :=
  "f \x7b x \x7d"

def signed : FormData :=
  ⟨[(.text "code", .text ""), (.text "name", .text "Ann")]⟩

/-- A quoted program with braces is copied between a greeting and a signature. -/
theorem copies_inert_program :
    quoting.WellFormed ∧ Surroundings {} signed "code" ∧ Inert program.toList ∧
      Copies {} signed quoting.print "code" (fun v => Inert v.toList) ∧
      stripped {} (signed.put (.text "code") (.text program)) quoting.print =
        "See: f \x7b x \x7d (Ann)".toList := by
  have hdoc : quoting.WellFormed := by
    simp only [quoting, Doc.WellFormed]
    decide
  have hsigned : Surroundings {} signed "code" :=
    surroundings_pair (by decide) (by decide) (by decide) (by decide) (fun hne => absurd rfl hne)
      fun _ => Braceless.inert (by decide)
  -- each of the braces stands alone
  have hprogram : Inert program.toList := by
    have hfront : Inert ['f', ' '] := Braceless.inert (by decide)
    have hinside : Inert [' ', 'x', ' ', '\x7d'] :=
      inert_cons_of_ne (by decide) (inert_cons_of_ne (by decide) (inert_cons_of_ne (by decide)
        (inert_cons_of_ne (by decide) inert_nil)))
    exact hfront.append (inert_cons_cons_of_ne '\x7b' (by decide) hinside)
  refine ⟨hdoc, hsigned, hprogram, (copies_inert {}).1 quoting signed "code" hdoc hsigned, ?_⟩
  decide +kernel

def mention : Doc :=
  .token "a" .nil

def confidential : FormData :=
  ⟨[(.text "a", .text ""), (.text "b", .text "secret")]⟩

/-- **What is entered can bring in what was not.** A token that is entered under one name is replaced
by the value of another one, which the template does not mention. -/
theorem not_copies_token :
    mention.WellFormed ∧ Surroundings {} confidential "a" ∧
      stripped {} (confidential.put (.text "a") (.text "\x7b\x7bb\x7d\x7d")) mention.print =
        "secret".toList ∧
      ¬Copies {} confidential mention.print "a" fun _ => True := by
  have hdoc : mention.WellFormed := by
    simp only [mention, Doc.WellFormed]
    decide
  have hentry : stripped {} (confidential.put (.text "a") (.text "\x7b\x7bb\x7d\x7d"))
      mention.print = "secret".toList := by
    decide +kernel
  have hsurroundings : Surroundings {} confidential "a" :=
    surroundings_pair (by decide) (by decide) (by decide) (by decide) (fun hne => absurd rfl hne)
      fun _ => Braceless.inert (by decide)
  refine ⟨hdoc, hsurroundings, hentry, fun hcopies => ?_⟩
  have hlength : (stripped {} (confidential.put (.text "a") (.text "\x7b\x7bb\x7d\x7d"))
      mention.print).length = "\x7b\x7bb\x7d\x7d".length + 0 :=
    hcopies.length_stripped trivial trivial (by decide +kernel) (by decide +kernel) (by decide)
      trivial
  rw [hentry] at hlength
  exact absurd hlength (by decide)

end Template

end PromptForm

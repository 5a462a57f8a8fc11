import PromptForm.Proofs.Table
import PromptForm.Proofs.Template.Doc
import PromptForm.Template.Compile

/-!
# The meaning of a compiled template

Form data are an environment in which a template document is read: a token stands for the rendered
value of its name, and a block is kept unless the value of its name is one that drops it. The prompt
of a well formed template is its meaning in that environment, with its blank lines reduced. The
passes go over the form data entry by entry, so this holds in whatever order the entries come.

## Main definitions

* `Template.valueIn`, `Template.keepsIn`: the environment of form data.
* `Template.PlainEntry`: an entry of form data that cannot be taken for a part of a template.
* `Template.InertEntry`: the same for values that may have braces, as long as no token begins in them.
* `Template.stripped`: a prompt before its blank lines are reduced.

## Main results

* `Template.compile_print`: a prompt is the meaning of its template.
-/

namespace PromptForm

namespace Template

open Text

/-- The text that form data give to the tokens of a name: nothing for a name without a value. -/
def valueIn (texts : Texts) (data : FormData) (name : String) : List Char :=
  match data.get? (.text name) with
  | some v => (rendered texts v).toList
  | none => []

/-- Whether form data keep the blocks of a name; those of a name without a value are kept. -/
def keepsIn (data : FormData) (name : String) : Bool :=
  match data.get? (.text name) with
  | some v => holds v
  | none => true

/-- An entry of form data under a name, with a value whose text has no braces. -/
def PlainEntry (texts : Texts) (entry : Value × Value) : Prop :=
  (∃ name, entry.1 = .text name ∧ IsName name) ∧ Braceless (rendered texts entry.2).toList

/-- An entry of form data under a name, with a value in whose text no token begins. -/
def InertEntry (texts : Texts) (entry : Value × Value) : Prop :=
  (∃ name, entry.1 = .text name ∧ IsName name) ∧ Inert (rendered texts entry.2).toList

/-- The prompt of a template and form data before its blank lines are reduced. -/
def stripped (texts : Texts) (data : FormData) (template : List Char) : List Char :=
  erase (resolve data (substitute texts data template))

theorem PlainEntry.inertEntry {texts : Texts} {entry : Value × Value} (h : PlainEntry texts entry) :
    InertEntry texts entry :=
  ⟨h.1, h.2.inert⟩

theorem get?_cons_text (name : String) (v : Value) (entries : List (Value × Value)) (n : String) :
    (⟨(.text name, v) :: entries⟩ : FormData).get? (.text n) =
      if n = name then some v else (⟨entries⟩ : FormData).get? (.text n) := by
  rw [Table.get?_cons, Value.beq_text]
  by_cases h : n = name
  · rw [if_pos h, if_pos (beq_iff_eq.2 h.symm)]
  · rw [if_neg h, if_neg fun h' => h (beq_iff_eq.1 h').symm]

theorem valueIn_cons (texts : Texts) (name : String) (v : Value) (entries : List (Value × Value))
    (n : String) :
    valueIn texts ⟨(.text name, v) :: entries⟩ n =
      if n = name then (rendered texts v).toList else valueIn texts ⟨entries⟩ n := by
  rw [valueIn, get?_cons_text]
  by_cases h : n = name
  · rw [if_pos h, if_pos h]
  · rw [if_neg h, if_neg h]
    rfl

theorem keepsIn_cons (name : String) (v : Value) (entries : List (Value × Value)) (n : String) :
    keepsIn ⟨(.text name, v) :: entries⟩ n =
      if n = name then holds v else keepsIn ⟨entries⟩ n := by
  rw [keepsIn, get?_cons_text]
  by_cases h : n = name
  · rw [if_pos h, if_pos h]
  · rw [if_neg h, if_neg h]
    rfl

theorem substituteEntry_print (texts : Texts) {doc : Doc} (hdoc : doc.Sound) {name : String}
    (hname : IsName name) (v : Value) :
    substituteEntry texts doc.print (.text name, v) = (doc.put name (rendered texts v)).print := by
  have hpass := Doc.replaceAll_print hdoc hname (rendered texts v) []
  rw [List.append_nil, replaceAll_nil, List.append_nil] at hpass
  exact hpass

theorem resolveEntry_print {doc : Doc} (hdoc : doc.Sound) {name : String} (hname : IsName name)
    (v : Value) :
    resolveEntry doc.print (.text name, v) = (doc.settle (holds v) name).print := by
  have hpass := Doc.resolveName_print (holds v) hdoc hname []
  rw [List.append_nil, resolveName_nil, List.append_nil] at hpass
  exact hpass

/-- After all values were put in, the template is the written form of a document in which the tokens
of names without a value are left. -/
theorem substitute_print (texts : Texts) {data : FormData}
    (hdata : ∀ entry ∈ data.entries, InertEntry texts entry) {doc : Doc} (hdoc : doc.Sound) :
    ∃ left : Doc, left.Sound ∧ substitute texts data doc.print = left.print ∧
      ∀ keeps, left.meaning (fun _ => []) keeps = doc.meaning (valueIn texts data) keeps := by
  obtain ⟨entries⟩ := data
  -- the first entry is put in first, so it is the outermost one of the environment
  induction entries generalizing doc with
  | nil => exact ⟨doc, hdoc, rfl, fun _ => rfl⟩
  | cons entry entries ih =>
    obtain ⟨key, v⟩ := entry
    obtain ⟨⟨⟨name, rfl, hname⟩, hinert⟩, hrest⟩ := List.forall_mem_cons.1 hdata
    obtain ⟨left, hleft, hprint, hmeaning⟩ := ih (hdoc.put name hinert) hrest
    refine ⟨left, hleft, ?_, fun keeps => ?_⟩
    · rw [← hprint, ← substituteEntry_print texts hdoc hname v]
      rfl
    · rw [hmeaning, Doc.meaning_put]
      congr 1
      funext n
      rw [valueIn_cons]

/-- After all blocks were decided, the template is the written form of a document in which the blocks
of names without a value are left. -/
theorem resolve_print {texts : Texts} {data : FormData}
    (hdata : ∀ entry ∈ data.entries, InertEntry texts entry) {doc : Doc} (hdoc : doc.Sound) :
    ∃ left : Doc, left.Sound ∧ resolve data doc.print = left.print ∧
      ∀ value, left.meaning value (fun _ => true) = doc.meaning value (keepsIn data) := by
  obtain ⟨entries⟩ := data
  induction entries generalizing doc with
  | nil => exact ⟨doc, hdoc, rfl, fun _ => rfl⟩
  | cons entry entries ih =>
    obtain ⟨key, v⟩ := entry
    obtain ⟨⟨⟨name, rfl, hname⟩, -⟩, hrest⟩ := List.forall_mem_cons.1 hdata
    obtain ⟨left, hleft, hprint, hmeaning⟩ := ih (hdoc.settle (holds v) name) hrest
    refine ⟨left, hleft, ?_, fun value => ?_⟩
    · rw [← hprint, ← resolveEntry_print hdoc hname v]
      rfl
    · rw [hmeaning, Doc.meaning_settle _ _ _ _ hdoc]
      congr 1
      funext n
      rw [keepsIn_cons]

/-- Up to its blank lines, the prompt of a written document is what the document means in the
environment of the form data. -/
theorem stripped_print (texts : Texts) {data : FormData}
    (hdata : ∀ entry ∈ data.entries, InertEntry texts entry) {doc : Doc} (hdoc : doc.Sound) :
    stripped texts data doc.print = doc.meaning (valueIn texts data) (keepsIn data) := by
  obtain ⟨filled, hfilled, hsubstitute, hvalues⟩ := substitute_print texts hdata hdoc
  obtain ⟨settled, hsettled, hresolve, hblocks⟩ := resolve_print hdata hfilled
  rw [stripped, hsubstitute, hresolve, Doc.erase_print hsettled, hblocks, hvalues]

theorem compileChars_print (texts : Texts) {data : FormData}
    (hdata : ∀ entry ∈ data.entries, PlainEntry texts entry) {doc : Doc} (hdoc : doc.WellFormed) :
    compileChars texts data doc.print =
      normalize (doc.meaning (valueIn texts data) (keepsIn data)) := by
  rw [← stripped_print texts (fun entry h => (hdata entry h).inertEntry) hdoc.sound]
  rfl

/-- **The prompt of a template is its meaning.** For a well formed template and form data under names
with plain values, the prompt is the text that the template document stands for, with its blank lines
reduced; it does not depend on the order of the form data. -/
theorem compile_print (texts : Texts) (data : FormData) (doc : Doc) (hdoc : doc.WellFormed)
    (hdata : ∀ entry ∈ data.entries, PlainEntry texts entry) :
    compile texts data (String.ofList doc.print) =
        String.ofList (normalize (doc.meaning (valueIn texts data) (keepsIn data))) ∧
      ∀ other : FormData, data.keys.Nodup → other.entries.Perm data.entries →
        compile texts other (String.ofList doc.print) =
          compile texts data (String.ofList doc.print) := by
  have hcompile : ∀ {d : FormData}, (∀ entry ∈ d.entries, PlainEntry texts entry) →
      compile texts d (String.ofList doc.print) =
        String.ofList (normalize (doc.meaning (valueIn texts d) (keepsIn d))) := by
    intro d hd
    rw [compile, String.toList_ofList, compileChars_print texts hd hdoc]
  refine ⟨hcompile hdata, fun other hnodup hperm => ?_⟩
  have hread : ∀ name, other.get? (.text name) = data.get? (.text name) :=
    fun name => Table.get?_eq_of_perm (Value.exact_text name) hnodup hperm
  have hvalues : valueIn texts other = valueIn texts data := by
    funext name
    rw [valueIn, valueIn, hread]
  have hblocks : keepsIn other = keepsIn data := by
    funext name
    rw [keepsIn, keepsIn, hread]
  rw [hcompile hdata, hcompile fun entry h => hdata entry (hperm.mem_iff.1 h), hvalues, hblocks]

/-- A letter with a block for some of its readers. -/
def letter : Doc :=
  .text "Dear " (.token "name" (.block "vip" (.text ", our " (.token "rank" (.text " guest" .nil)))
    (.text "!\n" .nil)))

def guest : FormData :=
  ⟨[(.text "name", .text "Ann"), (.text "vip", .bool true),
    (.text "rank", .list [.text "gold", .text "first"])]⟩

/-- The letter to a guest, with the form data in two orders. -/
theorem compile_letter :
    letter.WellFormed ∧ (∀ entry ∈ guest.entries, PlainEntry {} entry) ∧ guest.keys.Nodup ∧
      compile {} guest (String.ofList letter.print) = "Dear Ann, our gold, first guest!" ∧
      compile {} ⟨guest.entries.reverse⟩ (String.ofList letter.print) =
        compile {} guest (String.ofList letter.print) := by
  have hdoc : letter.WellFormed := by
    simp only [letter, Doc.WellFormed, Doc.blockNames]
    decide
  have hdata : ∀ entry ∈ guest.entries, PlainEntry {} entry := by
    simp [guest, PlainEntry]
    decide
  have hnodup : guest.keys.Nodup := by simp [guest, Table.keys]
  obtain ⟨hprompt, horder⟩ := compile_print {} guest letter hdoc hdata
  refine ⟨hdoc, hdata, hnodup, hprompt.trans ?_, horder _ hnodup (List.reverse_perm _)⟩
  have hmeaning : normalize (letter.meaning (valueIn {} guest) (keepsIn guest)) =
      "Dear Ann, our gold, first guest!".toList := by
    decide +kernel
  rw [hmeaning, String.ofList_toList]

end Template

end PromptForm

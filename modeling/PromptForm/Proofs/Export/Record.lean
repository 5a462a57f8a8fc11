import PromptForm.Chat
import PromptForm.Proofs.Schema.Check
import PromptForm.Proofs.Session
import PromptForm.Proofs.Submission.Reflection

/-!
# What is recorded of a submission

A submission of answers always has a prompt, but a record of it can be refused: several answers under
one name are kept as a list, and a record holds only lists of texts. So a record is made exactly when
no name without boxes has a truth value among several answers; it then holds what was collected, value
for value, and the prompt.

## Main definitions

* `Export.FieldValue.toValue`: what a value of a record is among all values.
* `Export.Mixed`: a name has a list of answers that no record holds.

## Main results

* `Session.record_agrees`: a record agrees with the form data and the prompt, or says which names
  keep it from being made.
* `Session.record_mixed`: a submission with a prompt and without a record.
-/

namespace PromptForm

open Submission (Answer answersTo ConsistsOf)

namespace Export

def FieldValue.toValue : FieldValue → Value
  | text s => .text s
  | texts items => .list (items.map .text)
  | truth b => .bool b

/-- A name without boxes has several answers, and a truth value is among them. -/
structure Mixed (definitions : Table String Variable) (answers : List (String × Answer))
    (name : String) : Prop where
  noBoxes : ∀ v, definitions.get? name = some v → v.kind.hasBoxes = false
  several : 2 ≤ (answersTo name answers).length
  truth : ∃ b, Answer.truth b ∈ answersTo name answers

/-! ### Values -/

theorem text_eq_ok_iff {v : Value} {s : String} : Checked.text v = Checked.ok s ↔ v = .text s := by
  cases v with
  | text t =>
    constructor
    · intro h
      exact congrArg Value.text (Except.ok.inj h)
    · rintro h
      rw [h, Checked.text_text]
  | _ => exact ⟨(nomatch ·), (nomatch ·)⟩

theorem listOf_text_eq_ok_iff {items : List Value} {strings : List String} :
    Checked.listOf Checked.text (.list items) = Checked.ok strings ↔
      items = strings.map .text := by
  rw [Checked.listOf, Checked.itemsFrom_eq_ok_iff]
  simp only [text_eq_ok_iff]
  rw [← List.forall₂_eq_eq_eq, List.forall₂_map_right_iff]

/-- A list that a record holds is a list of texts. -/
theorem exists_of_fieldValue_list {items : List Value} {f : FieldValue}
    (h : fieldValue (.list items) = Checked.ok f) :
    ∃ strings : List String, items = strings.map Value.text := by
  cases hread : Checked.listOf Checked.text (.list items) with
  | ok strings => exact ⟨strings, listOf_text_eq_ok_iff.1 hread⟩
  | error issues =>
    unfold fieldValue at h
    rw [hread] at h
    cases h

/-- What a record holds is read as what it is. -/
theorem fieldValue_toValue (f : FieldValue) : fieldValue f.toValue = Checked.ok f := by
  cases f with
  | text s => rfl
  | texts items =>
    have hread : Checked.listOf Checked.text (.list (items.map .text)) = Checked.ok items :=
      listOf_text_eq_ok_iff.2 rfl
    rw [FieldValue.toValue, fieldValue, hread]
    rfl
  | truth b => rfl

theorem mem_issuesOf_text {v : Value} (h : ∀ s, v ≠ .text s) :
    ⟨[], .stringType⟩ ∈ Checked.issuesOf (Checked.text v) := by
  cases v with
  | text s => exact absurd rfl (h s)
  | _ => exact List.mem_singleton_self _

/-- What no record holds has an issue: it is not a text, whatever else it is not. -/
theorem exists_mem_issuesOf_fieldValue {v : Value} (h : ∀ f, fieldValue v ≠ Checked.ok f) :
    ∃ i, i ∈ Checked.issuesOf (fieldValue v) := by
  have htext : ∀ s, v ≠ .text s := by
    rintro s rfl
    exact h (.text s) rfl
  have hissue := mem_issuesOf_text htext
  cases hstring : Checked.text v with
  | ok s => exact absurd (text_eq_ok_iff.1 hstring) (htext s)
  | error strings =>
    cases hlist : Checked.listOf Checked.text v with
    | ok items => exact absurd (by unfold fieldValue; rw [hstring, hlist]) (h (.texts items))
    | error lists =>
      cases htruth : Checked.truth v with
      | ok b => exact absurd (by unfold fieldValue; rw [hstring, hlist, htruth]) (h (.truth b))
      | error truths =>
        have hvalue : fieldValue v = (fun _ _ b => .truth b) <$> Checked.within "str" (Checked.text v)
            <*> Checked.within "list[str]" (Checked.listOf Checked.text v)
            <*> Checked.within "bool" (Checked.truth v) := by
          unfold fieldValue
          rw [hstring, hlist, htruth]
        rw [hvalue, Checked.issuesOf_seq, Checked.issuesOf_seq, Checked.issuesOf_map,
          Checked.issuesOf_within]
        exact ⟨_, List.mem_append_left _ (List.mem_append_left _ (List.mem_map_of_mem hissue))⟩

/-! ### Form data -/

variable {definitions : Table String Variable} {answers : List (String × Answer)} {data : FormData}

/-- A mixed name has a list that is not one of texts. -/
theorem Mixed.get?_eq (h : FormData.Reflects definitions answers data) {name : String}
    (hmixed : Mixed definitions answers name) :
    data.get? (.text name) = some (.list ((answersTo name answers).map Answer.value)) := by
  rw [h.plain hmixed.noBoxes]
  have hseveral := hmixed.several
  match hanswers : answersTo name answers with
  | [] => simp [hanswers] at hseveral
  | [a] => simp [hanswers] at hseveral
  | a :: b :: rest => rfl

/-- Answers without truth values are texts. -/
theorem exists_map_text {answers : List Answer} (h : ∀ b, Answer.truth b ∉ answers) :
    ∃ strings : List String, answers.map Answer.value = strings.map Value.text := by
  induction answers with
  | nil => exact ⟨[], rfl⟩
  | cons a answers ih =>
    obtain ⟨strings, hstrings⟩ := ih fun b hb => h b (List.mem_cons_of_mem _ hb)
    cases a with
    | text s => exact ⟨s :: strings, by rw [List.map_cons, hstrings]; rfl⟩
    | truth b => exact absurd List.mem_cons_self (h b)

theorem exists_toValue_of_noBoxes (h : FormData.Reflects definitions answers data) {name : String}
    {v : Value} (hv : data.get? (.text name) = some v)
    (hboxes : ∀ v, definitions.get? name = some v → v.kind.hasBoxes = false)
    (hmixed : ¬Mixed definitions answers name) : ∃ f : FieldValue, v = f.toValue := by
  rw [h.plain hboxes] at hv
  match hanswers : answersTo name answers with
  | [] =>
    rw [hanswers] at hv
    cases hv
  | [a] =>
    rw [hanswers] at hv
    obtain rfl := Option.some.inj hv
    cases a with
    | text s => exact ⟨.text s, rfl⟩
    | truth b => exact ⟨.truth b, rfl⟩
  | a :: b :: rest =>
    have htexts : ∀ c, Answer.truth c ∉ answersTo name answers := fun c hc =>
      hmixed ⟨hboxes, by simp [hanswers], c, hc⟩
    obtain ⟨strings, hstrings⟩ := exists_map_text htexts
    have hgrouped : FormData.grouped ((answersTo name answers).map Answer.value) =
        some (.list ((answersTo name answers).map Answer.value)) := by
      rw [hanswers]
      rfl
    rw [hgrouped, hstrings] at hv
    exact ⟨.texts strings, (Option.some.inj hv).symm⟩

/-- A name that is not mixed has a value that a record holds. -/
theorem exists_toValue (h : FormData.Reflects definitions answers data) {name : String} {v : Value}
    (hv : data.get? (.text name) = some v) (hmixed : ¬Mixed definitions answers name) :
    ∃ f : FieldValue, v = f.toValue := by
  rcases FormData.boxes_cases definitions name with ⟨w, hw, hkind⟩ | ⟨w, hw, hkind⟩ | hplain
  · rw [h.group hw hkind] at hv
    obtain rfl := Option.some.inj hv
    refine ⟨.texts ((w.options.filter fun o =>
      Answer.text o.value ∈ answersTo name answers).map Choice.value), ?_⟩
    simp [FieldValue.toValue]
  · rw [h.box hw hkind] at hv
    exact ⟨.truth _, (Option.some.inj hv).symm⟩
  · exact exists_toValue_of_noBoxes h hv hplain hmixed

/-- A record can hold a value exactly when its name is not mixed. -/
theorem exists_fieldValue_iff (h : FormData.Reflects definitions answers data) {name : String}
    {v : Value} (hv : data.get? (.text name) = some v) :
    (∃ f, fieldValue v = Checked.ok f) ↔ ¬Mixed definitions answers name := by
  constructor
  · rintro ⟨f, hf⟩ hmixed
    rw [hmixed.get?_eq h] at hv
    obtain rfl := Option.some.inj hv
    obtain ⟨b, hb⟩ := hmixed.truth
    obtain ⟨strings, hstrings⟩ := exists_of_fieldValue_list hf
    have hmem : Value.bool b ∈ strings.map Value.text := by
      rw [← hstrings]
      exact List.mem_map_of_mem hb
    obtain ⟨s, -, hs⟩ := List.mem_map.1 hmem
    cases hs
  · intro hmixed
    obtain ⟨f, rfl⟩ := exists_toValue h hv hmixed
    exact ⟨f, fieldValue_toValue f⟩

/-! ### Records -/

/-- The entry of a record that stands for an entry of form data. -/
def entryOf (pair : String × FieldValue) : Value × Value :=
  (.text pair.1, pair.2.toValue)

/-- Form data without mixed names are the entries of a record. -/
theorem exists_map_entryOf (h : FormData.Reflects definitions answers data)
    (hnodup : definitions.keys.Nodup) (hmixed : ∀ name, ¬Mixed definitions answers name) :
    ∃ pairs : List (String × FieldValue),
      data.entries = pairs.map entryOf ∧ (pairs.map Prod.fst).Nodup := by
  have hentries : ∀ entry ∈ data.entries, ∃ pair, entry = entryOf pair := by
    rintro ⟨key, v⟩ hentry
    obtain ⟨name, rfl, hv⟩ := h.exists_name hnodup hentry
    obtain ⟨f, rfl⟩ := exists_toValue h hv (hmixed name)
    exact ⟨(name, f), rfl⟩
  obtain ⟨pairs, hpairs⟩ := exists_map_eq hentries
  have hnames : (pairs.map entryOf).map Prod.fst = (pairs.map Prod.fst).map Value.text := by
    simp [entryOf]
  have hkeys := h.nodup_keys hnodup
  rw [Table.keys, hpairs, hnames] at hkeys
  exact ⟨pairs, hpairs, List.Nodup.of_map _ hkeys⟩

theorem ofFormData_eq_ok (metadata : Metadata) {pairs : List (String × FieldValue)}
    (hentries : data.entries = pairs.map entryOf) (hnodup : (pairs.map Prod.fst).Nodup)
    (prompt : String) (moment : Moment) :
    Record.ofFormData metadata data prompt moment = .ok ⟨metadata, ⟨pairs⟩, prompt, moment⟩ := by
  have hread : Checked.entriesOf Checked.text fieldValue data.entries = Checked.ok pairs := by
    rw [Checked.entriesOf_eq_ok_iff, hentries, List.forall₂_map_left_iff, List.forall₂_same]
    intro pair _
    exact ⟨rfl, fieldValue_toValue pair.2⟩
  have htable : Checked.tableOf Checked.text fieldValue (.mapping data.entries) =
      Checked.ok ⟨pairs⟩ := by
    rw [Checked.tableOf, hread, Checked.map_ok, Table.ofPairs_of_nodup hnodup]
  rw [Record.ofFormData, Record.check, htable]
  rfl

/-- The issues of form data are those of their values, each under its name. -/
theorem mem_issuesOf_check (h : FormData.Reflects definitions answers data)
    (hnodup : definitions.keys.Nodup) {naming : Naming} {metadata : Metadata} {prompt : String}
    {moment : Moment} {issue : Issue} :
    issue ∈ Checked.issuesOf
        (Record.check naming metadata (.mapping data.entries) (.text prompt) moment) ↔
      ∃ name v, data.get? (.text name) = some v ∧ ∃ i ∈ Checked.issuesOf (fieldValue v),
        issue = ⟨naming.formData :: name :: i.location, i.kind⟩ := by
  have hprompt : Checked.issuesOf (Checked.text (.text prompt)) = [] := rfl
  rw [Record.check, Checked.issuesOf_seq, Checked.issuesOf_map, Checked.issuesOf_within,
    Checked.issuesOf_within, Checked.tableOf, Checked.issuesOf_map, Checked.issuesOf_entriesOf, hprompt,
    List.map_nil, List.append_nil, List.mem_map]
  constructor
  · rintro ⟨inner, hinner, rfl⟩
    obtain ⟨⟨key, v⟩, hentry, hinner⟩ := List.mem_flatMap.1 hinner
    obtain ⟨name, rfl, hv⟩ := h.exists_name hnodup hentry
    obtain ⟨i, hi, rfl⟩ := List.mem_map.1 hinner
    exact ⟨name, v, hv, i, hi, rfl⟩
  · rintro ⟨name, v, hv, i, hi, rfl⟩
    have hentry := (Table.get?_eq_some_iff (Value.exact_text name) (h.nodup_keys hnodup)).1 hv
    refine ⟨Checked.outward name i, List.mem_flatMap.2 ⟨_, hentry, ?_⟩, rfl⟩
    exact List.mem_map_of_mem hi

/-- With mixed names there is no record of form data, and the issues lie under these names. -/
theorem ofFormData_eq_error (h : FormData.Reflects definitions answers data)
    (hnodup : definitions.keys.Nodup) (hmixed : ∃ name, Mixed definitions answers name)
    (metadata : Metadata) (prompt : String) (moment : Moment) :
    ∃ issues, Record.ofFormData metadata data prompt moment = .error (.invalid issues) ∧
      (∀ issue ∈ issues, ∃ name, ["form_data", name] <+: issue.location) ∧
      ∀ name, Mixed definitions answers name ↔
        ∃ issue ∈ issues, ["form_data", name] <+: issue.location := by
  have hissues : ∀ issue, issue ∈ Checked.issuesOf (Record.check .underscored metadata
      (.mapping data.entries) (.text prompt) moment) ↔ _ := fun _ => mem_issuesOf_check h hnodup
  have hname : ∀ name, Mixed definitions answers name → ∃ issue ∈ Checked.issuesOf
      (Record.check .underscored metadata (.mapping data.entries) (.text prompt) moment),
      ["form_data", name] <+: issue.location := by
    intro name hmixed
    have hv := hmixed.get?_eq h
    obtain ⟨i, hi⟩ := exists_mem_issuesOf_fieldValue fun f hf =>
      (exists_fieldValue_iff h hv).1 ⟨f, hf⟩ hmixed
    exact ⟨_, (hissues _).2 ⟨name, _, hv, i, hi, rfl⟩, i.location, rfl⟩
  cases hcheck : Record.check .underscored metadata (.mapping data.entries) (.text prompt) moment with
  | ok record =>
    obtain ⟨name, hmixed⟩ := hmixed
    obtain ⟨issue, hissue, -⟩ := hname name hmixed
    exact absurd hcheck (Checked.ne_ok_of_mem_issuesOf hissue record)
  | error issues =>
    rw [hcheck] at hissues hname
    refine ⟨issues, by rw [Record.ofFormData, hcheck]; rfl, fun issue hissue => ?_, fun name => ?_⟩
    · obtain ⟨name, v, -, i, -, rfl⟩ := (hissues issue).1 hissue
      exact ⟨name, i.location, rfl⟩
    · refine ⟨hname name, ?_⟩
      rintro ⟨issue, hissue, hlocation⟩
      obtain ⟨other, v, hv, i, hi, rfl⟩ := (hissues issue).1 hissue
      obtain rfl : name = other := by simpa [Naming.formData] using hlocation
      by_contra hmixed
      obtain ⟨f, hf⟩ := (exists_fieldValue_iff h hv).2 hmixed
      exact Checked.ne_ok_of_mem_issuesOf hi f hf

end Export

namespace Session

variable {s : Session} {schema : Schema}

theorem result_compile (h : s.schema? = some schema) (data : FormData) :
    (s.compile data).result = .ok (Template.compile s.texts data schema.template) := by
  rw [compile_eq h]
  rfl

theorem result_generate (h : s.schema? = some schema) {submission : Value} {data : FormData}
    (hdata : s.collect submission = .ok data) :
    (s.generate submission).result = .ok (Template.compile s.texts data schema.template) := by
  rw [generate, hdata, Traced.result_bind, Traced.result_liftM]
  exact result_compile h data

theorem chatPrompt_eq (h : s.schema? = some schema) {submission : Value} {data : FormData}
    (hdata : s.collect submission = .ok data) :
    Chat.prompt s.texts schema submission =
      .ok (Template.compile s.texts data schema.template) := by
  rw [collect_eq h] at hdata
  rw [Chat.prompt, hdata]
  rfl

/-- The record of a submission is made of what is collected and of its prompt. -/
theorem result_record (h : s.schema? = some schema) {submission : Value} {data : FormData}
    (hdata : s.collect submission = .ok data) (moment : Moment) :
    (s.record submission moment).result =
      Export.Record.ofFormData schema.metadata data
        (Template.compile s.texts data schema.template) moment := by
  rw [record, hdata, schema_eq h]
  simp only [Traced.result_bind, Traced.result_liftM, result_compile h]
  simp only [bind, Except.bind]
  cases Export.Record.ofFormData schema.metadata data
      (Template.compile s.texts data schema.template) moment with
  | error fault => rfl
  | ok record => rfl

/-- **A record agrees with the prompt.** A submission of answers is collected and has a prompt, the
same in a session and in a chain. Without mixed names it also has a record, which holds what was
collected, value for value, and the prompt; with mixed names it has none, and the issues lie under
exactly these names. -/
theorem record_agrees (h : s.schema? = some schema) (hnodup : schema.definitions.keys.Nodup)
    {submission : Value} {answers : List (String × Answer)} (hanswers : ConsistsOf submission answers)
    (moment : Moment) :
    ∃ data prompt, s.collect submission = .ok data ∧
      (s.generate submission).result = .ok prompt ∧
      Chat.prompt s.texts schema submission = .ok prompt ∧
      ((∀ name, ¬Export.Mixed schema.definitions answers name) →
        ∃ record, (s.record submission moment).result = .ok record ∧
          data.entries = record.formData.entries.map Export.entryOf ∧
          record = ⟨schema.metadata, record.formData, prompt, moment⟩) ∧
      ((∃ name, Export.Mixed schema.definitions answers name) →
        ∃ issues, (s.record submission moment).result = .error (.invalid issues) ∧
          (∀ issue ∈ issues, ∃ name, ["form_data", name] <+: issue.location) ∧
          ∀ name, Export.Mixed schema.definitions answers name ↔
            ∃ issue ∈ issues, ["form_data", name] <+: issue.location) := by
  obtain ⟨data, hcollect, hreflects⟩ := FormData.exists_reflects hnodup hanswers
  have hdata : s.collect submission = .ok data := by rw [collect_eq h, hcollect]
  refine ⟨data, _, hdata, result_generate h hdata, chatPrompt_eq h hdata, fun hmixed => ?_,
    fun hmixed => ?_⟩
  · obtain ⟨pairs, hentries, hnames⟩ := Export.exists_map_entryOf hreflects hnodup hmixed
    refine ⟨⟨schema.metadata, ⟨pairs⟩, _, moment⟩, ?_, hentries, rfl⟩
    rw [result_record h hdata]
    exact Export.ofFormData_eq_ok schema.metadata hentries hnames _ moment
  · rw [result_record h hdata]
    exact Export.ofFormData_eq_error hreflects hnodup hmixed schema.metadata _ moment

def sampleSchema : Schema :=
  { template := "\x7b\x7bcolours\x7d\x7d", definitions := FormData.sample }

def noon : Moment :=
  { year := 2024, month := 1, day := 1, hour := 12, minute := 0, second := 0, microsecond := 0 }

/-- The request for a sample is answered and recorded; its one truth value is a single answer. -/
theorem record_agrees_sample :
    let submission := Submission.ofPairs (FormData.sampleAnswers.map Submission.pairOf)
    let session : Session := { schema? := some sampleSchema }
    sampleSchema.definitions.keys.Nodup ∧ ConsistsOf submission FormData.sampleAnswers ∧
      (∀ name, ¬Export.Mixed sampleSchema.definitions FormData.sampleAnswers name) ∧
      ∃ record, (session.record submission noon).result = .ok record ∧
        (session.generate submission).result = .ok record.prompt ∧
        Chat.prompt session.texts sampleSchema submission = .ok record.prompt := by
  have hnodup : sampleSchema.definitions.keys.Nodup := by decide
  have hanswers : ConsistsOf
      (Submission.ofPairs (FormData.sampleAnswers.map Submission.pairOf)) FormData.sampleAnswers :=
    ⟨_, rfl, rfl⟩
  have hmixed : ∀ name, ¬Export.Mixed sampleSchema.definitions FormData.sampleAnswers name := by
    rintro name ⟨-, hseveral, b, hb⟩
    obtain ⟨⟨n, a⟩, hmem, rfl⟩ := List.mem_map.1 hb
    obtain ⟨hanswer, hname⟩ := List.mem_filter.1 hmem
    obtain rfl : n = name := beq_iff_eq.1 hname
    obtain rfl : n = "note" := by
      simp only [FormData.sampleAnswers, List.mem_cons, Prod.mk.injEq, reduceCtorEq, and_false,
        false_or, List.not_mem_nil, or_false] at hanswer
      exact hanswer.1
    exact absurd hseveral (by decide)
  obtain ⟨data, prompt, -, hgenerate, hchat, hrecord, -⟩ :=
    record_agrees rfl hnodup hanswers noon (s := { schema? := some sampleSchema })
  obtain ⟨record, hresult, -, hfields⟩ := hrecord hmixed
  have hprompt : record.prompt = prompt := by rw [hfields]
  refine ⟨hnodup, hanswers, hmixed, record, hresult, ?_, ?_⟩
  · rw [hprompt]
    exact hgenerate
  · rw [hprompt]
    exact hchat

/-- **Not every prompt has a record.** A truth value and a text under one name are put into a prompt,
and refused by a record. -/
theorem record_mixed :
    let submission := Submission.ofPairs [(.text "a", .bool true), (.text "a", .text "x")]
    let session : Session := { schema? := some { template := "\x7b\x7ba\x7d\x7d" } }
    (session.generate submission).result = .ok "True, x" ∧
      (session.record submission noon).result = .error (.invalid
        [⟨["form_data", "a", "str"], .stringType⟩, ⟨["form_data", "a", "list[str]", "0"], .stringType⟩,
          ⟨["form_data", "a", "bool"], .boolType⟩]) := by
  decide +kernel

end Session

end PromptForm

import Mathlib.Data.List.Forall2
import PromptForm.Export.Record
import PromptForm.Proofs.Export.Stamp
import PromptForm.Proofs.Json.RoundTrip

/-!
# Reading a record

The text of a record is JSON, in every layout. It is read as an object of four parts in their order, and
each of them holds what the record holds: the texts character for character, the form data under their
keys in their order, each value as what it is. A text that looks like a truth value is still a text. So two
records are written alike only if they hold the same, to the millisecond.

## Main definitions

* `Export.FieldValue.StandsAs`: the JSON that a value of a record is.
* `Export.IsWidth`: the numbers by which lines can be indented.

## Main results

* `Export.Record.read_of_toJson`: the text of a record is read as its tree.
* `Export.Record.reads_back`: the text of a record, and what is read from it.
* `Export.Record.eq_of_toJson_eq`: what two records have in common that are written alike.
-/

namespace PromptForm

namespace Export

open Json (Tree)

/-- A number of blanks by which the lines of a text can be indented: one that a machine word of 64 bits
tells. -/
def IsWidth (n : Int) : Prop :=
  0 ≤ n ∧ n < 0x10000000000000000

/-- A value of a record stands as the JSON of its own type with its own content. -/
inductive FieldValue.StandsAs : FieldValue → Tree → Prop
  | text (s : String) : StandsAs (text s) (.text s)
  | texts (items : List String) : StandsAs (texts items) (.list (items.map .text))
  | truth (b : Bool) : StandsAs (truth b) (.bool b)

theorem map_text_injective : Function.Injective (List.map Tree.text) :=
  List.map_injective_iff.2 fun _ _ h => Tree.text.inj h

namespace FieldValue

theorem standsAs_toTree (v : FieldValue) : v.StandsAs v.toTree := by
  cases v with
  | text s => exact .text s
  | texts items => exact .texts items
  | truth b => exact .truth b

/-- No two values stand as the same. -/
theorem toTree_injective : Function.Injective toTree := by
  intro v w h
  cases v <;> cases w <;> simp only [toTree, reduceCtorEq, Tree.text.injEq, Tree.bool.injEq,
    Tree.list.injEq] at h
  · rw [h]
  · rw [map_text_injective h]
  · rw [h]

theorem fits_toTree (v : FieldValue) (depth : Nat) : v.toTree.Fits (depth + 1) := by
  cases v with
  | text s => exact .text s
  | texts items => exact .list (List.forall_mem_map.2 fun s _ => .text s)
  | truth b => exact .bool b

end FieldValue

theorem fits_metadataTree (m : Metadata) (depth : Nat) : (metadataTree m).Fits (depth + 2) := by
  refine .object fun entry hentry => ?_
  simp only [List.mem_cons, List.not_mem_nil, or_false] at hentry
  rcases hentry with rfl | rfl | rfl | rfl
  · exact .text _
  · exact .text _
  · exact .text _
  · exact .list (List.forall_mem_map.2 fun s _ => .text s)

theorem metadataTree_injective : Function.Injective metadataTree := by
  rintro ⟨name, description, version, tags⟩ ⟨name', description', version', tags'⟩ h
  simp only [metadataTree, Tree.object.injEq, List.cons.injEq, Prod.mk.injEq, Tree.text.injEq,
    Tree.list.injEq, true_and, and_true] at h
  obtain ⟨rfl, rfl, rfl, htags⟩ := h
  rw [map_text_injective htags]

namespace Record

variable {r : Record} {indent? : Option Int} {text : String}

theorem fits_timelessEntries (r : Record) (stamp : String) (depth : Nat) :
    (Tree.object (r.timelessEntries ++ [("timestamp", .text stamp)])).Fits (depth + 3) := by
  refine .object fun entry hentry => ?_
  simp only [timelessEntries, List.cons_append, List.nil_append, List.mem_cons, List.not_mem_nil,
    or_false] at hentry
  rcases hentry with rfl | rfl | rfl | rfl
  · exact fits_metadataTree r.metadata depth
  · exact .object (List.forall_mem_map.2 fun entry _ => entry.2.fits_toTree depth)
  · exact .text _
  · exact .text _

/-- **The text of a record is read as its tree.** -/
theorem read_of_toJson (h : r.toJson indent? = .ok text) :
    ∃ stamp, r.moment.stamp = .ok stamp ∧
      Json.read text = .ok (.object (r.timelessEntries ++ [("timestamp", .text stamp)])) := by
  rw [toJson] at h
  cases hlayout : layout indent? with
  | error fault => rw [hlayout] at h; cases h
  | ok style =>
    cases hstamp : r.moment.stamp with
    | error fault =>
      rw [hlayout, toTree, hstamp] at h
      cases h
    | ok stamp =>
      rw [hlayout, toTree, hstamp] at h
      obtain rfl := Except.ok.inj h
      exact ⟨stamp, rfl, Json.read_toText (r.fits_timelessEntries stamp 987) style⟩

/-- Two records that are written alike, perhaps in different layouts, hold the same, and their moments have
the same stamp. -/
theorem eq_of_toJson_eq {r' : Record} {indent?' : Option Int} (h : r.toJson indent? = .ok text)
    (h' : r'.toJson indent?' = .ok text) :
    r.metadata = r'.metadata ∧ r.formData.entries = r'.formData.entries ∧ r.prompt = r'.prompt ∧
      r.moment.stamp = r'.moment.stamp := by
  obtain ⟨stamp, hstamp, hread⟩ := read_of_toJson h
  obtain ⟨stamp', hstamp', hread'⟩ := read_of_toJson h'
  have htree := Except.ok.inj (hread.symm.trans hread')
  simp only [timelessEntries, List.cons_append, List.nil_append, Tree.object.injEq, List.cons.injEq,
    Prod.mk.injEq, Tree.text.injEq, true_and, and_true] at htree
  obtain ⟨hmetadata, hdata, hprompt, rfl⟩ := htree
  have hentry : Function.Injective fun entry : String × FieldValue => (entry.1, entry.2.toTree) :=
    fun a b hab => Prod.ext (Prod.mk.inj hab).1 (FieldValue.toTree_injective (Prod.mk.inj hab).2)
  exact ⟨metadataTree_injective hmetadata, List.map_injective_iff.2 hentry hdata, hprompt,
    hstamp.trans hstamp'.symm⟩

/-- A layout for no indentation and for every width, and for no other number. -/
theorem exists_layout_iff :
    (∃ style, layout indent? = .ok style) ↔ ∀ n, indent? = some n → IsWidth n := by
  cases indent? with
  | none => exact ⟨fun _ n hn => (by cases hn), fun _ => ⟨_, rfl⟩⟩
  | some n =>
    by_cases hn : IsWidth n
    · have hword : 0 ≤ n ∧ n < 18446744073709551616 := hn
      exact ⟨fun _ m hm => Option.some.inj hm ▸ hn, fun _ => ⟨_, if_pos hword⟩⟩
    · have hword : ¬(0 ≤ n ∧ n < 18446744073709551616) := hn
      refine ⟨fun ⟨style, hstyle⟩ => ?_, fun h => absurd (h n rfl) hn⟩
      rw [layout, if_neg hword] at hstyle
      cases hstyle

theorem exists_toJson (h : r.moment.HasUtc) (hindent : ∀ n, indent? = some n → IsWidth n) :
    ∃ text, r.toJson indent? = .ok text := by
  obtain ⟨u, hu, -⟩ := Moment.exists_toUtc h
  obtain ⟨style, hstyle⟩ := exists_layout_iff.2 hindent
  refine ⟨Tree.toText style (.object (r.timelessEntries ++
    [("timestamp", .text (String.ofList u.stampChars))])), ?_⟩
  rw [toJson, hstyle, toTree, Moment.stamp_eq_ok hu]
  rfl

/-- **A record is read back from its text.** A record with a moment that can be told in UTC has a text,
on one line or with lines indented by any width. Read as JSON, the text is one object of four parts: the
metadata with its four texts and lists, the form data with the same keys in the same order, each value
of its own type and content, the prompt, and the stamp of the moment. -/
theorem reads_back (h : r.moment.HasUtc) (hindent : ∀ n, indent? = some n → IsWidth n) :
    ∃ text stamp data, r.toJson indent? = .ok text ∧ r.moment.stamp = .ok stamp ∧
      Json.read text = .ok (.object [
        ("metadata", .object [
          ("name", .text r.metadata.name),
          ("description", .text r.metadata.description),
          ("version", .text r.metadata.version),
          ("tags", .list (r.metadata.tags.map .text))]),
        ("formData", .object data),
        ("generatedPrompt", .text r.prompt),
        ("timestamp", .text stamp)]) ∧
      List.Forall₂ (fun entry pair => pair.1 = entry.1 ∧ entry.2.StandsAs pair.2)
        r.formData.entries data := by
  obtain ⟨text, htext⟩ := exists_toJson h hindent
  obtain ⟨stamp, hstamp, hread⟩ := read_of_toJson htext
  refine ⟨text, stamp, _, htext, hstamp, hread, ?_⟩
  rw [List.forall₂_map_right_iff, List.forall₂_same]
  exact fun entry _ => ⟨rfl, entry.2.standsAs_toTree⟩

/-- A record whose key, text and prompt need escapes, and whose text looks like a truth value. -/
def quotedRecord : Record where
  metadata := { name := "caf\u00e9", tags := ["a\\b"] }
  formData := .ofPairs [("say \"hi\"", .text "true"), ("on", .truth true), ("lines", .texts ["x\ny", ""])]
  prompt := "\u0001\t\"\\"
  moment := ⟨2024, 5, 1, 14, 30, 45, 123456, some 7200⟩

/-- The record is read back from its text with lines indented by two blanks. -/
theorem reads_back_quoted :
    quotedRecord.moment.HasUtc ∧ (∀ n, some (2 : Int) = some n → IsWidth n) ∧
      ∃ text data, quotedRecord.toJson (some 2) = .ok text ∧ Json.read text = .ok (.object [
        ("metadata", .object [("name", .text "caf\u00e9"), ("description", .text ""),
          ("version", .text ""), ("tags", .list [.text "a\\b"])]),
        ("formData", .object data), ("generatedPrompt", .text "\u0001\t\"\\"),
        ("timestamp", .text "2024-05-01T12:30:45.123Z")]) := by
  have hutc : quotedRecord.moment.HasUtc :=
    ⟨⟨2024, 5, 1, 12, 30, 45, 123456, some 0⟩, (Moment.isPossible_iff_of_offset rfl).1 (by decide),
      by decide +kernel⟩
  have hwidth : ∀ n, some (2 : Int) = some n → IsWidth n := by
    rintro _ ⟨⟩
    exact ⟨by decide, by decide⟩
  have hstamp : quotedRecord.moment.stamp = .ok "2024-05-01T12:30:45.123Z" := by decide +kernel
  obtain ⟨text, stamp, data, htext, hstamp', hread, -⟩ := reads_back hutc hwidth
  obtain rfl := Except.ok.inj (hstamp.symm.trans hstamp')
  exact ⟨hutc, hwidth, text, data, htext, hread⟩

end Record

end Export

end PromptForm

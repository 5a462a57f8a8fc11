import PromptForm.Form.Render
import PromptForm.Proofs.Number.Integer
import PromptForm.Proofs.Schema.Defaults
import PromptForm.Proofs.Xml.Order

/-!
# The captions of a slider

The captions of a range stand in a document as `label` elements right below `labels` elements. A caption counts
when its position is written as a whole number, and of several captions at one position the last one counts. The
captions are gone through group by group: this is the order of the document, unless a group that captions a
position stands within another one that captions it too.

## Main definitions

* `Variable.States`: an element is a caption of a position.
* `Variable.captions`, `Variable.grouped`: the captions in document order, and group by group.
* `Variable.Nested`: a group that captions a position stands within another one.
* `Variable.Captioned`: the positions of a range with their captions.

## Main results

* `Variable.follow_eq_grouped`: the captions group by group are where the path `.//labels/label` leads.
* `Widget.slider_captions`: the captions that a slider shows, and the records of the others.
-/

namespace PromptForm

open Xml (Element)
open Xml.Path (Spot)

namespace Variable

/-! ### Captions -/

/-- The element captions the position: its value is written as that number. -/
def States (position : Int) (e : Element) : Prop :=
  ∃ value, e.attribute? "value" = some value ∧ Numeral.Denotes value.toList position

theorem tickPosition?_eq_some_iff {e : Element} {position : Int} :
    tickPosition? e = some position ↔ States position e := by
  simp only [tickPosition?, Option.bind_eq_some_iff, Numeral.readInt?_eq_some_iff, States]

instance (position : Int) (e : Element) : Decidable (States position e) :=
  decidable_of_iff _ tickPosition?_eq_some_iff

theorem isSome_tickPosition?_iff {e : Element} :
    (tickPosition? e).isSome ↔ ∃ position, States position e := by
  simp only [Option.isSome_iff_exists, tickPosition?_eq_some_iff]

instance (e : Element) : Decidable (∃ position, States position e) :=
  decidable_of_iff _ isSome_tickPosition?_iff

/-- The spot is a label right below a group of labels. -/
def isCaption (s : Spot) : Bool :=
  s.element.tag == "label" && s.around.head?.any (·.tag == "labels")

/-- The captions of an element in document order. -/
def captions (e : Element) : List Spot :=
  (Spot.root e).descendants.filter isCaption

/-- The captions of an element group by group: the groups in document order, and the labels of each. -/
def grouped (e : Element) : List Spot :=
  ((Spot.root e).descendants.filter (·.element.tag == "labels")).flatMap fun group =>
    group.children.filter (·.element.tag == "label")

/-- The captions group by group are where the path to them leads. -/
theorem follow_eq_grouped (e : Element) :
    (Xml.Path.parse ".//labels/label").map (Xml.Path.follow e) = .ok (grouped e) := by
  have hpath : Xml.Path.parse ".//labels/label" =
      .ok [.here, .descendants (.tag "labels"), .children (.tag "label")] := rfl
  rw [hpath, grouped, ← List.filter_flatMap, ← List.flatMap_singleton Spot.descendants]
  rfl

theorem map_element_grouped (e : Element) : (grouped e).map (·.element) = tickElements e := by
  have hgroup : ∀ group : Spot, (group.children.filter (·.element.tag == "label")).map (·.element) =
      group.element.children.filter (·.tag == "label") := by
    intro group
    rw [← Spot.map_element_children, List.filter_map]
    rfl
  have hbelow : (Spot.root e).descendants.map (·.element) = e.descendants :=
    Spot.map_element_descendants (.root e)
  have hgroups : ((Spot.root e).descendants.filter (·.element.tag == "labels")).map (·.element) =
      e.descendants.filter (·.tag == "labels") := by
    rw [← hbelow, List.filter_map]
    rfl
  rw [grouped, List.map_flatMap, tickElements, ← hgroups, List.flatMap_map]
  simp only [hgroup]

theorem filter_tickElements {test : Element → Bool} {spotTest : Spot → Bool}
    (h : ∀ s, test s.element = spotTest s) (e : Element) :
    (tickElements e).filter test = ((grouped e).filter spotTest).map (·.element) := by
  rw [← map_element_grouped, List.filter_map]
  exact congrArg _ (List.filter_congr fun s _ => h s)

/-- The captions of a spot are its labels, if it is a group. -/
theorem filter_isCaption_children (s : Spot) (test : Spot → Bool) :
    s.children.filter (fun child => isCaption child && test child) =
      if s.element.tag = "labels" then
        (s.children.filter (·.element.tag == "label")).filter test
      else [] := by
  have haround : ∀ child ∈ s.children, child.around = s.element :: s.around := by
    intro child hchild
    obtain ⟨sibling, -, rfl⟩ := List.mem_map.1 hchild
    rfl
  split
  · next htag =>
    rw [List.filter_filter]
    refine List.filter_congr fun child hchild => ?_
    simp [isCaption, haround child hchild, htag, Bool.and_comm]
  · next htag =>
    refine List.filter_eq_nil_iff.2 fun child hchild => ?_
    simp [isCaption, haround child hchild, htag]

theorem filter_grouped {e : Element} (htag : e.tag ≠ "labels") (test : Spot → Bool) :
    (grouped e).filter test = (Spot.root e).byParent fun s => isCaption s && test s := by
  have hgroups : ∀ ss : List Spot,
      (ss.filter (·.element.tag == "labels")).flatMap
          (fun group => (group.children.filter (·.element.tag == "label")).filter test) =
        ss.flatMap fun s => s.children.filter fun child => isCaption child && test child := by
    intro ss
    induction ss with
    | nil => rfl
    | cons s ss ih =>
      rw [List.flatMap_cons, filter_isCaption_children, ← ih, List.filter_cons]
      by_cases hs : s.element.tag = "labels"
      · simp [hs]
      · simp [hs]
  have hroot : (Spot.root e).children.filter (fun child => isCaption child && test child) = [] := by
    rw [filter_isCaption_children]
    exact if_neg htag
  rw [grouped, List.filter_flatMap, hgroups, Spot.byParent, List.flatMap_cons, hroot, List.nil_append]

theorem filter_captions (e : Element) (test : Spot → Bool) :
    (captions e).filter test = (Spot.root e).descendants.filter fun s => isCaption s && test s := by
  rw [captions, List.filter_filter]
  exact List.filter_congr fun s _ => Bool.and_comm ..

/-- Group by group the same captions are found as in document order. -/
theorem filter_grouped_perm {e : Element} (htag : e.tag ≠ "labels") (test : Spot → Bool) :
    ((grouped e).filter test).Perm ((captions e).filter test) := by
  rw [filter_grouped htag, filter_captions]
  exact Spot.byParent_perm ..

/-! ### Groups within groups -/

/-- The group captions the position. -/
def Captions (position : Int) (group : Element) : Prop :=
  group.tag = "labels" ∧ ∃ label ∈ group.children, label.tag = "label" ∧ States position label

/-- A group that captions the position stands within another group that captions it. -/
def Nested (position : Int) (e : Element) : Prop :=
  ∃ outer ∈ e.descendants, Captions position outer ∧ ∃ inner ∈ outer.descendants, Captions position inner

/-- What holds captions of a position among its children is a group that captions it. -/
theorem captions_of_children {position : Int} {s : Spot}
    (h : s.children.filter (fun child => isCaption child && States position child.element) ≠ []) :
    Captions position s.element := by
  rw [filter_isCaption_children] at h
  split at h
  · next htag =>
    obtain ⟨child, hchild⟩ := List.exists_mem_of_ne_nil _ h
    obtain ⟨hlabel, hstates⟩ := List.mem_filter.1 hchild
    obtain ⟨hchild, htext⟩ := List.mem_filter.1 hlabel
    refine ⟨htag, child.element, ?_, by simpa using htext, of_decide_eq_true hstates⟩
    rw [← Spot.map_element_children]
    exact List.mem_map_of_mem hchild
  · exact absurd rfl h

theorem element_mem_descendants {s t : Spot} (h : t ∈ s.descendants) :
    t.element ∈ s.element.descendants := by
  rw [← Spot.map_element_descendants]
  exact List.mem_map_of_mem h

/-- Without groups within groups the captions of a position come group by group in document order. -/
theorem filter_grouped_of_not_nested {e : Element} {position : Int} (htag : e.tag ≠ "labels")
    (h : ¬Nested position e) :
    (grouped e).filter (fun s => States position s.element) =
      (captions e).filter fun s => States position s.element := by
  rw [filter_grouped htag, filter_captions]
  refine Spot.byParent_eq_filter fun outer houter howned inner hinner => ?_
  by_contra hown
  have hcaptions := captions_of_children howned
  rcases List.mem_cons.1 houter with rfl | houter
  · exact htag hcaptions.1
  · exact h ⟨outer.element, element_mem_descendants houter, hcaptions, inner.element,
      element_mem_descendants hinner, captions_of_children hown⟩

/-! ### The table of captions -/

/-- The positions of a range by ascending order, with their captions: for each position that is captioned, the
text of the last of its captions. -/
structure Captioned (e : Element) (entries : List (Int × String)) : Prop where
  ascending : entries.Pairwise fun entry next => entry.1 < next.1
  captioned : ∀ position,
    position ∈ entries.map Prod.fst ↔ ∃ s ∈ captions e, States position s.element
  last_grouped : ∀ entry ∈ entries, ∃ s,
    LastWith (fun s => States entry.1 s.element) (grouped e) s ∧ s.element.innerText = entry.2
  last : ∀ entry ∈ entries, ¬Nested entry.1 e → ∃ s,
    LastWith (fun s => States entry.1 s.element) (captions e) s ∧ s.element.innerText = entry.2

/-- At a position stands the text of the last of its captions, group by group. -/
theorem mem_ticksOf_iff {e : Element} {position : Int} {text : String} :
    (position, text) ∈ (ticksOf e).entries ↔ ∃ s,
      ((grouped e).filter fun s => States position s.element).getLast? = some s ∧
        s.element.innerText = text := by
  have hstates : ((tickElements e).filter (tickPosition? · == some position)) =
      ((grouped e).filter fun s => States position s.element).map (·.element) := by
    refine filter_tickElements (fun s => ?_) e
    rw [Bool.eq_iff_iff, beq_iff_eq, tickPosition?_eq_some_iff, decide_eq_true_iff]
  have hnodup : (ticksOf e).keys.Nodup := Table.nodup_keys_ofPairs _
  rw [← Table.get?_eq_some_iff (Table.exact_of_lawful _) hnodup, get?_ticksOf, hstates,
    List.getLast?_map, Option.map_map, Option.map_eq_some_iff]
  rfl

/-- The captions of a position are there in both orders, or in neither. -/
theorem exists_mem_ticksOf_iff {e : Element} {position : Int} (htag : e.tag ≠ "labels") :
    (∃ text, (position, text) ∈ (ticksOf e).entries) ↔ ∃ s ∈ captions e, States position s.element := by
  have hperm := filter_grouped_perm htag fun s => States position s.element
  simp only [mem_ticksOf_iff]
  constructor
  · rintro ⟨_, s, hlast, -⟩
    obtain ⟨hs, hstates⟩ := List.mem_filter.1 (hperm.mem_iff.1 (List.mem_of_getLast? hlast))
    exact ⟨s, hs, of_decide_eq_true hstates⟩
  · rintro ⟨s, hs, hstates⟩
    have hmem := hperm.mem_iff.2 (List.mem_filter.2 ⟨hs, decide_eq_true hstates⟩)
    exact ⟨_, _, List.getLast?_eq_some_getLast (List.ne_nil_of_mem hmem), rfl⟩

theorem captioned_of_perm {e : Element} (htag : e.tag ≠ "labels") {entries : List (Int × String)}
    (hperm : entries.Perm (ticksOf e).entries)
    (hsorted : entries.Pairwise fun entry next => entry.1 ≤ next.1) : Captioned e entries where
  ascending := by
    have hnodup : (entries.map Prod.fst).Nodup :=
      (hperm.map _).nodup_iff.2 (Table.nodup_keys_ofPairs _)
    refine hsorted.imp₂ (fun entry next hle hne => ?_) (List.pairwise_map.1 hnodup)
    omega
  captioned position := by
    rw [← exists_mem_ticksOf_iff htag]
    simp [hperm.mem_iff]
  last_grouped entry hentry := by
    obtain ⟨s, hlast, htext⟩ := mem_ticksOf_iff.1 (hperm.mem_iff.1 hentry)
    exact ⟨s, getLast?_filter_eq_some_iff.1 hlast, htext⟩
  last entry hentry hnested := by
    obtain ⟨s, hlast, htext⟩ := mem_ticksOf_iff.1 (hperm.mem_iff.1 hentry)
    rw [filter_grouped_of_not_nested htag hnested] at hlast
    exact ⟨s, getLast?_filter_eq_some_iff.1 hlast, htext⟩

/-- There is one record for each caption without a position. -/
theorem tickEvents_perm {e : Element} (htag : e.tag ≠ "labels") (owner : String) :
    (tickEvents owner e).Perm
      (((captions e).filter fun s : Spot => ¬∃ position, States position s.element).map fun s =>
        .badTickPosition (s.element.attribute? "value") owner) := by
  have hnone : (tickElements e).filter (fun tick => (tickPosition? tick).isNone) =
      ((grouped e).filter fun s : Spot => ¬∃ position, States position s.element).map (·.element) := by
    refine filter_tickElements (fun s => ?_) e
    rw [Bool.eq_iff_iff, decide_eq_true_iff, ← isSome_tickPosition?_iff]
    simp
  rw [tickEvents, hnone, List.map_map]
  exact (filter_grouped_perm htag _).map _

end Variable

namespace Widget

open Variable (Captioned captions grouped States Nested)

theorem ofVariable_range {v : Variable} (hkind : v.kind = .range) (texts : Texts) :
    ofVariable texts v = .ok (.slider v.name ((bound? v.min?).getD "0") ((bound? v.max?).getD "100")
      (sliderValue v) (texts.readout (sliderValue v)) (sliderTicks v)) := by
  rw [ofVariable, hkind]

/-- The captions of a slider are the texts of a sorted table. -/
theorem captioned_sliderTicks {e : Element} (htag : e.tag ≠ "labels") :
    ∃ entries, Captioned e entries ∧ sliderTicks (.ofElement e) = entries.map Prod.snd := by
  refine ⟨_, Variable.captioned_of_perm htag (List.mergeSort_perm _ _) ?_, rfl⟩
  refine (List.pairwise_mergeSort ?_ ?_ _).imp of_decide_eq_true
  · simp only [decide_eq_true_eq]
    exact fun _ _ _ => Int.le_trans
  · simp only [Bool.or_eq_true, decide_eq_true_eq]
    exact fun _ _ => Int.le_total _ _

/-- **The captions of a slider.** A variable that is a range has a slider. It shows one caption for each position
that a caption in the document states, by ascending position: the text of the last caption that states the
position, group by group, which is the last one in document order unless a group that captions the position stands
within another one. A caption that states no position is not shown, and there is one warning for each. -/
theorem slider_captions {e : Element} (htag : e.tag = "variable")
    (hkind : (Variable.ofElement e).kind = .range) (texts : Texts) :
    (∃ name min max value readout entries,
      ofVariable texts (.ofElement e) =
        .ok (.slider name min max value readout (entries.map Prod.snd)) ∧ Captioned e entries) ∧
      (Variable.tickEvents (Variable.nameOf e) e).Perm
        (((captions e).filter fun s : Spot => ¬∃ position, States position s.element).map fun s =>
          .badTickPosition (s.element.attribute? "value") (Variable.nameOf e)) ∧
      (∀ event ∈ Variable.tickEvents (Variable.nameOf e) e, event.level = .warning) ∧
      eventsOf (.ofElement e) = [] := by
  have hlabels : e.tag ≠ "labels" := by
    rw [htag]
    decide
  refine ⟨?_, Variable.tickEvents_perm hlabels _, fun event hevent => ?_, ?_⟩
  · obtain ⟨entries, hentries, hticks⟩ := captioned_sliderTicks hlabels
    have hslider := ofVariable_range hkind texts
    rw [hticks] at hslider
    exact ⟨_, _, _, _, _, entries, hslider, hentries⟩
  · obtain ⟨tick, -, rfl⟩ := List.mem_map.1 hevent
    rfl
  · rw [eventsOf, hkind]
    rfl

/-- A range with its captions. -/
def rangeOf (captions : List Element) : Element :=
  .node "variable" [("name", "r")] "" (.node "type" [] "range" [] "" :: captions) ""

def label (value text : String) : Element :=
  .node "label" [("value", value)] text [] ""

def labels (children : List Element) : Element :=
  .node "labels" [] "" children ""

/-- Numerals of one position, one of another position, and none. -/
def spelledLabels : Element :=
  rangeOf [labels [label "10" "ten", label " +1_0 " "X", label "2" "two", label "2.5" "half"]]

theorem slider_captions_spelled :
    spelledLabels.tag = "variable" ∧ (Variable.ofElement spelledLabels).kind = .range ∧
      ∃ name min max value readout entries,
        ofVariable {} (.ofElement spelledLabels) =
          .ok (.slider name min max value readout (entries.map Prod.snd)) ∧
        Captioned spelledLabels entries :=
  ⟨rfl, by decide, (slider_captions rfl (by decide) {}).1⟩

example : sliderTicks (.ofElement spelledLabels) = ["two", "X"] := by cbv

/-- A group at the start of another group, with captions of one position. -/
def nestedLabels : Element :=
  rangeOf [labels [labels [label "1" "inner"], label "1" "outer"]]

/-- The last caption in document order is not the one that is shown. -/
theorem slider_nestedLabels :
    nestedLabels.tag = "variable" ∧ (Variable.ofElement nestedLabels).kind = .range ∧
      (∃ s, LastWith (fun s => States 1 s.element) (captions nestedLabels) s ∧
        s.element.innerText = "outer") ∧
      sliderTicks (.ofElement nestedLabels) = ["inner"] := by
  have hticks : (Variable.ofElement nestedLabels).ticks.entries = [(1, "inner")] := rfl
  refine ⟨rfl, by decide, ⟨_, getLast?_filter_eq_some_iff.1 rfl, rfl⟩, ?_⟩
  rw [sliderTicks, hticks, List.mergeSort_singleton]
  rfl

end Widget

end PromptForm

import Mathlib.Data.List.Forall2
import PromptForm.Traced

/-!
# Results of sequences

A sequence of operations has a result when each of them has one, and the results of a list of
operations stand beside the operations in order.
-/

namespace PromptForm

/-- Related elements can be chosen one by one. -/
theorem exists_forall₂ {α β : Type} {R : α → β → Prop} {as : List α} (h : ∀ a ∈ as, ∃ b, R a b) :
    ∃ bs, List.Forall₂ R as bs := by
  induction as with
  | nil => exact ⟨[], .nil⟩
  | cons a as ih =>
    obtain ⟨⟨b, hb⟩, hrest⟩ := List.forall_mem_cons.1 h
    obtain ⟨bs, hbs⟩ := ih hrest
    exact ⟨b :: bs, .cons hb hbs⟩

/-- A list of values of a function is the function of a list. -/
theorem exists_map_eq {α β : Type} {f : α → β} {bs : List β} (h : ∀ b ∈ bs, ∃ a, b = f a) :
    ∃ as : List α, bs = as.map f := by
  obtain ⟨as, has⟩ := exists_forall₂ h
  rw [← List.forall₂_map_right_iff, List.forall₂_eq_eq_eq] at has
  exact ⟨as, has⟩

/-- What stands beside an element is related to it. -/
theorem exists_mem_of_forall₂ {α β : Type} {R : α → β → Prop} {as : List α} {bs : List β}
    (h : List.Forall₂ R as bs) {b : β} (hb : b ∈ bs) : ∃ a ∈ as, R a b := by
  induction h with
  | nil => cases hb
  | cons hab _ ih =>
    rcases List.mem_cons.1 hb with rfl | hb
    · exact ⟨_, List.mem_cons_self, hab⟩
    · obtain ⟨a, ha, hr⟩ := ih hb
      exact ⟨a, List.mem_cons_of_mem _ ha, hr⟩

/-- A list is gone through with results when each element has one. -/
theorem mapM_eq_ok_iff {α β ε : Type} {f : α → Except ε β} {as : List α} {bs : List β} :
    as.mapM f = .ok bs ↔ List.Forall₂ (fun a b => f a = .ok b) as bs := by
  induction as generalizing bs with
  | nil => cases bs <;> simp [pure, Except.pure]
  | cons a as ih =>
    rw [List.mapM_cons, List.forall₂_cons_left_iff]
    cases ha : f a with
    | error e => simp [bind, Except.bind]
    | ok b =>
      cases has : as.mapM f with
      | error e =>
        simp only [bind, Except.bind, reduceCtorEq, false_iff]
        rintro ⟨_, bs, -, hbs, -⟩
        rw [ih.2 hbs] at has
        cases has
      | ok rest =>
        simp only [bind, Except.bind, pure, Except.pure, Except.ok.injEq]
        constructor
        · rintro rfl
          exact ⟨b, rest, rfl, ih.1 has, rfl⟩
        · rintro ⟨_, bs, rfl, hbs, rfl⟩
          rw [ih.2 hbs] at has
          rw [Except.ok.inj has]

@[simp] theorem mapError_error {α ε δ : Type} (f : ε → δ) (e : ε) :
    (Except.error e : Except ε α).mapError f = .error (f e) := rfl

theorem map_eq_ok_iff {α β ε : Type} {f : α → β} {r : Except ε α} {b : β} :
    r.map f = .ok b ↔ ∃ a, r = .ok a ∧ f a = b := by
  cases r with
  | error d =>
    constructor
    · intro h
      cases h
    · rintro ⟨a, h, -⟩
      cases h
  | ok a =>
    constructor
    · exact fun h => ⟨a, rfl, Except.ok.inj h⟩
    · rintro ⟨_, h, rfl⟩
      obtain rfl := Except.ok.inj h
      rfl

theorem map_eq_error_iff {α β ε : Type} {f : α → β} {r : Except ε α} {e : ε} :
    r.map f = .error e ↔ r = .error e := by
  cases r with
  | error d =>
    constructor
    · exact fun h => congrArg Except.error (Except.error.inj h)
    · exact fun h => congrArg Except.error (Except.error.inj h)
  | ok a => exact ⟨(nomatch ·), (nomatch ·)⟩

/-- Going through a list stops at an element that has no result, for its reason. -/
theorem exists_of_mapM_eq_error {α β ε : Type} {f : α → Except ε β} {as : List α} {e : ε}
    (h : as.mapM f = .error e) : ∃ a ∈ as, f a = .error e := by
  induction as with
  | nil => cases h
  | cons a as ih =>
    rw [List.mapM_cons] at h
    cases ha : f a with
    | error d =>
      rw [ha] at h
      cases h
      exact ⟨a, List.mem_cons_self, ha⟩
    | ok b =>
      rw [ha] at h
      cases has : as.mapM f with
      | error d =>
        rw [has] at h
        cases h
        obtain ⟨a, hmem, hstop⟩ := ih has
        exact ⟨a, List.mem_cons_of_mem _ hmem, hstop⟩
      | ok bs =>
        rw [has] at h
        cases h

namespace Traced

variable {α β : Type}

@[simp] theorem result_liftM (r : Except Fault α) : (liftM r : Traced α).result = r := rfl

theorem result_bind_eq_ok_iff {t : Traced α} {f : α → Traced β} {b : β} :
    (t >>= f).result = .ok b ↔ ∃ a, t.result = .ok a ∧ (f a).result = .ok b := by
  rw [result_bind]
  cases t.result with
  | error e => simp [bind, Except.bind]
  | ok a => simp [bind, Except.bind]

theorem result_map_eq_ok_iff {t : Traced α} {f : α → β} {b : β} :
    (f <$> t).result = .ok b ↔ ∃ a, t.result = .ok a ∧ f a = b := by
  have h : f <$> t = t >>= fun a => pure (f a) := rfl
  rw [h, result_bind_eq_ok_iff]
  simp

/-- A list of operations has the results of its operations. -/
theorem result_all_eq_ok_iff {ts : List (Traced α)} {as : List α} :
    (Traced.all ts).result = .ok as ↔ List.Forall₂ (fun t a => t.result = .ok a) ts as := by
  induction ts generalizing as with
  | nil => cases as <;> simp [Traced.all]
  | cons t ts ih =>
    rw [Traced.all, result_bind_eq_ok_iff]
    constructor
    · rintro ⟨a, ha, h⟩
      obtain ⟨rest, hrest, h⟩ := result_bind_eq_ok_iff.1 h
      obtain rfl := Except.ok.inj h
      exact .cons ha (ih.1 hrest)
    · intro h
      cases h with
      | cons ha hrest =>
        exact ⟨_, ha, result_bind_eq_ok_iff.2 ⟨_, ih.2 hrest, rfl⟩⟩

/-- A sequence leaves the events of its first operation, and, when that has a result, of the second. -/
theorem events_bind_of_ok {t : Traced α} {f : α → Traced β} {a : α} (h : t.result = .ok a) :
    (t >>= f).events = t.events ++ (f a).events := by
  simp only [bind, andThen, h]

@[simp] theorem events_map (f : α → β) (t : Traced α) : (f <$> t).events = t.events := by
  have hmap : f <$> t = t >>= fun a => pure (f a) := rfl
  rw [hmap]
  simp only [bind, andThen]
  cases t.result with
  | error e => rfl
  | ok a => exact List.append_nil _

/-- A list of operations with results leaves the events of each of them. -/
theorem events_all {ts : List (Traced α)} {as : List α} (h : (Traced.all ts).result = .ok as) :
    (Traced.all ts).events = ts.flatMap (·.events) := by
  induction ts generalizing as with
  | nil => rfl
  | cons t ts ih =>
    rw [Traced.all] at h ⊢
    obtain ⟨a, ha, h⟩ := result_bind_eq_ok_iff.1 h
    obtain ⟨rest, hrest, -⟩ := result_bind_eq_ok_iff.1 h
    rw [events_bind_of_ok ha, events_bind_of_ok hrest, ih hrest, events_pure, List.append_nil,
      List.flatMap_cons]

/-- The operation fails for reasons of one sort only. -/
def FailsOnly (P : Fault → Prop) (t : Traced α) : Prop :=
  ∀ e, t.result = .error e → P e

namespace FailsOnly

variable {P : Fault → Prop}

theorem pure (a : α) : FailsOnly P (pure a : Traced α) :=
  fun _ h => nomatch h

theorem bind {t : Traced α} {f : α → Traced β} (ht : FailsOnly P t) (hf : ∀ a, FailsOnly P (f a)) :
    FailsOnly P (t >>= f) := by
  intro e h
  rw [result_bind] at h
  cases hresult : t.result with
  | error d =>
    rw [hresult] at h
    cases h
    exact ht e hresult
  | ok a =>
    rw [hresult] at h
    exact hf a e h

theorem map {t : Traced α} (ht : FailsOnly P t) (f : α → β) : FailsOnly P (f <$> t) :=
  ht.bind fun _ => .pure _

/-- A list of operations fails for the reasons of its operations. -/
theorem all {ts : List (Traced α)} (h : ∀ t ∈ ts, FailsOnly P t) : FailsOnly P (Traced.all ts) := by
  induction ts with
  | nil => exact .pure []
  | cons t ts ih =>
    obtain ⟨ht, hts⟩ := List.forall_mem_cons.1 h
    rw [Traced.all]
    exact ht.bind fun a => (ih hts).bind fun as => .pure _

end FailsOnly

end Traced

end PromptForm

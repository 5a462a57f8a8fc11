import PromptForm.Asset

/-!
# The way to a file

A place on the way to a file is a directory together with the names that are still to be followed from
it. Most names lead to the next place in one move; a link puts the names of another path in front of
those that are left. The walk ends where no name is left, and it fails where the next name cannot be
followed, although there may be something.

## Main definitions

* `Asset.Move`, `Asset.Reaches`: the places that are met on the way from a place.
* `Asset.Blocked`: the places at which the walk fails.
* `Asset.Barred`: why it cannot be told what there is at a path.

## Main results

* `Asset.lookup_eq_some_iff`: what there is at a path.
* `Asset.lookup_eq_error_iff`: looking up fails exactly for the paths that are barred.
* `Asset.lookup_of_clear`: what lies in open directories is there under its names.
-/

namespace PromptForm

namespace Asset

/-- A name under which a directory can hold something. -/
structure IsName (name : String) : Prop where
  ne_empty : name ≠ ""
  ne_dot : name ≠ "."
  ne_parent : name ≠ ".."
  short : name.utf8ByteSize ≤ maxNameBytes

/-- From one place to the next, over no link. -/
inductive Move (files : Files) : Names × Names → Names × Names → Prop
  | skip {here rest : Names}
    (h : files.node? here = some .directory ∨ files.node? here = some .closed) :
    Move files (here, "" :: rest) (here, rest)
  | stay {here rest : Names} (h : files.node? here = some .directory) :
    Move files (here, "." :: rest) (here, rest)
  | up {here rest : Names} (h : files.node? here = some .directory) :
    Move files (here, ".." :: rest) (here.dropLast, rest)
  | down {here rest : Names} {name : String} (h : files.node? here = some .directory)
    (hname : IsName name)
    (hplain : ∀ target, files.node? (here ++ [name]) ≠ some (.link target))
    (hclear : files.node? (here ++ [name]) ≠ some .obscure) :
    Move files (here, name :: rest) (here ++ [name], rest)

/-- From one place to another one, over so many links. -/
inductive Reaches (files : Files) : Nat → Names × Names → Names × Names → Prop
  | refl (a : Names × Names) : Reaches files 0 a a
  | move {n : Nat} {a b c : Names × Names} (h : Move files a b) (hrest : Reaches files n b c) :
    Reaches files n a c
  | link {n : Nat} {here rest : Names} {name target : String} {c : Names × Names}
    (h : files.node? here = some .directory) (hname : IsName name)
    (hlink : files.node? (here ++ [name]) = some (.link target))
    (hrest : Reaches files n (origin here target, partsOf target ++ rest) c) :
    Reaches files (n + 1) (here, name :: rest) c

/-- The places at which it cannot be told where the next name leads. -/
inductive Blocked (files : Files) : Names × Names → Fault → Prop
  | closed {here rest : Names} {name : String} (h : files.node? here = some .closed)
    (hname : name ≠ "") : Blocked files (here, name :: rest) .accessDenied
  | overlong {here rest : Names} {name : String} (h : files.node? here = some .directory)
    (hlong : maxNameBytes < name.utf8ByteSize) :
    Blocked files (here, name :: rest) .fileNameTooLong
  | obscure {here rest : Names} {name : String} (h : files.node? here = some .directory)
    (hname : IsName name) (hobscure : files.node? (here ++ [name]) = some .obscure) :
    Blocked files (here, name :: rest) .lookupFailed

/-- What a walk from a place comes to when it goes no further. -/
inductive Ends (files : Files) : Names × Names → Except Fault Walk → Prop
  | arrived {here : Names} : Ends files (here, []) (.ok (.ended (files.node? here)))
  | nowhere {here rest : Names} {name : String} (h : files.node? here ≠ some .directory)
    (hclosed : files.node? here ≠ some .closed) :
    Ends files (here, name :: rest) (.ok (.ended none))
  | linked {here rest : Names} {name target : String} (h : files.node? here = some .directory)
    (hname : IsName name) (hlink : files.node? (here ++ [name]) = some (.link target)) :
    Ends files (here, name :: rest) (.ok (.linked target here rest))
  | blocked {a : Names × Names} {fault : Fault} (h : Blocked files a fault) :
    Ends files a (.error fault)

/-- The place from which a path is followed. -/
def departure (files : Files) (path : String) : Names × Names :=
  (origin files.start path, namesOf path)

variable {files : Files} {a b c : Names × Names} {n m links : Nat} {here names rest : Names}
  {name target path : String} {fault : Fault} {node : Node}

theorem Reaches.trans (h : Reaches files n a b) (hrest : Reaches files m b c) :
    Reaches files (n + m) a c := by
  induction h with
  | refl a => rwa [Nat.zero_add]
  | move hmove _ ih => exact .move hmove (ih hrest)
  | link hdirectory hname hlink _ ih =>
    rw [Nat.add_right_comm]
    exact .link hdirectory hname hlink (ih hrest)

/-! ### Walks -/

theorem not_special_of_overlong (h : maxNameBytes < name.utf8ByteSize) :
    name ≠ "" ∧ name ≠ "." ∧ name ≠ ".." := by
  refine ⟨?_, ?_, ?_⟩
  all_goals
    rintro rfl
    exact absurd h (by decide)

theorem walk_directory (h : files.node? here = some .directory) (hempty : name ≠ "")
    (hdot : name ≠ ".") (hparent : name ≠ "..") :
    walk files here (name :: rest) =
      if name.utf8ByteSize > maxNameBytes then .error .fileNameTooLong
      else
        match files.node? (here ++ [name]) with
        | some .obscure => .error .lookupFailed
        | some (.link target) => .ok (.linked target here rest)
        | _ => walk files (here ++ [name]) rest := by
  have hstay : ¬(name == "" || name == ".") = true := by simp [hempty, hdot]
  have hup : ¬(name == "..") = true := by simp [hparent]
  rw [walk, h]
  exact (if_neg hstay).trans (if_neg hup)

theorem walk_name (h : files.node? here = some .directory) (hname : IsName name) :
    walk files here (name :: rest) =
      match files.node? (here ++ [name]) with
      | some .obscure => .error .lookupFailed
      | some (.link target) => .ok (.linked target here rest)
      | _ => walk files (here ++ [name]) rest := by
  rw [walk_directory h hname.ne_empty hname.ne_dot hname.ne_parent]
  exact if_neg (Nat.not_lt.2 hname.short)

theorem Move.walk_eq (h : Move files a b) : walk files a.1 a.2 = walk files b.1 b.2 := by
  cases h with
  | skip h =>
    rw [walk]
    rcases h with h | h <;> rw [h] <;> rfl
  | stay h =>
    rw [walk, h]
    rfl
  | up h =>
    rw [walk, h]
    rfl
  | down h hname hplain hclear =>
    rw [walk_name h hname]
    split
    · next hobscure => exact absurd hobscure hclear
    · next target hlink => exact absurd hlink (hplain target)
    · rfl

theorem walk_link (h : files.node? here = some .directory) (hname : IsName name)
    (hlink : files.node? (here ++ [name]) = some (.link target)) :
    walk files here (name :: rest) = .ok (.linked target here rest) := by
  rw [walk_name h hname, hlink]

theorem walk_nowhere (h : files.node? here ≠ some .directory)
    (hclosed : files.node? here ≠ some .closed) :
    walk files here (name :: rest) = .ok (.ended none) := by
  rw [walk]
  split
  · next hdirectory => exact absurd hdirectory h
  · next hnode => exact absurd hnode hclosed
  · rfl

theorem Blocked.walk_eq (h : Blocked files a fault) : walk files a.1 a.2 = .error fault := by
  cases h with
  | closed h hname =>
    rw [walk, h]
    exact if_neg (by simpa using hname)
  | overlong h hlong =>
    obtain ⟨hempty, hdot, hparent⟩ := not_special_of_overlong hlong
    rw [walk_directory h hempty hdot hparent]
    exact if_pos hlong
  | obscure h hname hobscure => rw [walk_name h hname, hobscure]

theorem Blocked.ends (h : Blocked files (here, names) fault) :
    Ends files (here, names) (walk files here names) := by
  rw [h.walk_eq]
  exact .blocked h

theorem move_or_ends_of_isName (h : files.node? here = some .directory) (hname : IsName name) :
    (∃ there, Move files (here, name :: rest) (there, rest)) ∨
      Ends files (here, name :: rest) (walk files here (name :: rest)) := by
  cases hnode : files.node? (here ++ [name]) with
  | none => exact .inl ⟨_, .down h hname (by simp [hnode]) (by simp [hnode])⟩
  | some node =>
    cases node with
    | obscure => exact .inr (Blocked.obscure h hname hnode).ends
    | link target =>
      rw [walk_link h hname hnode]
      exact .inr (.linked h hname hnode)
    | _ => exact .inl ⟨_, .down h hname (by simp [hnode]) (by simp [hnode])⟩

/-- A walk moves on or ends. -/
theorem move_or_ends (files : Files) (here rest : Names) (name : String) :
    (∃ there, Move files (here, name :: rest) (there, rest)) ∨
      Ends files (here, name :: rest) (walk files here (name :: rest)) := by
  by_cases hdirectory : files.node? here = some .directory
  · by_cases hempty : name = ""
    · subst hempty
      exact .inl ⟨_, .skip (.inl hdirectory)⟩
    · by_cases hdot : name = "."
      · subst hdot
        exact .inl ⟨_, .stay hdirectory⟩
      · by_cases hparent : name = ".."
        · subst hparent
          exact .inl ⟨_, .up hdirectory⟩
        · rcases Nat.lt_or_ge maxNameBytes name.utf8ByteSize with hlong | hshort
          · exact .inr (Blocked.overlong hdirectory hlong).ends
          · exact move_or_ends_of_isName hdirectory ⟨hempty, hdot, hparent, hshort⟩
  · by_cases hclosed : files.node? here = some .closed
    · by_cases hempty : name = ""
      · subst hempty
        exact .inl ⟨_, .skip (.inr hclosed)⟩
      · exact .inr (Blocked.closed hclosed hempty).ends
    · rw [walk_nowhere hdirectory hclosed]
      exact .inr (.nowhere hdirectory hclosed)

theorem exists_ends (files : Files) (here names : Names) :
    ∃ a, Reaches files 0 (here, names) a ∧ Ends files a (walk files here names) := by
  induction names generalizing here with
  | nil => exact ⟨_, .refl _, .arrived⟩
  | cons name rest ih =>
    rcases move_or_ends files here rest name with ⟨there, hmove⟩ | hends
    · obtain ⟨a, hreaches, hends⟩ := ih there
      refine ⟨a, .move hmove hreaches, ?_⟩
      rwa [hmove.walk_eq]
    · exact ⟨_, .refl _, hends⟩

/-! ### Walks over links -/

theorem follow_congr (h : walk files a.1 a.2 = walk files b.1 b.2) :
    follow files links a.1 a.2 = follow files links b.1 b.2 := by
  rw [follow, follow, h]

theorem follow_nil : follow files links here [] = .ok (files.node? here) := by
  rw [follow, walk]

theorem Blocked.follow_eq (h : Blocked files a fault) :
    follow files links a.1 a.2 = .error fault := by
  rw [follow, h.walk_eq]

/-- Places on one way lead to the same, with the links between them taken off. -/
theorem Reaches.follow_eq (h : Reaches files n a b) :
    follow files (n + m) a.1 a.2 = follow files m b.1 b.2 := by
  induction h with
  | refl a => rw [Nat.zero_add]
  | move hmove _ ih => exact (follow_congr hmove.walk_eq).trans ih
  | link hdirectory hname hlink _ ih =>
    rw [follow, walk_link hdirectory hname hlink, Nat.add_right_comm]
    exact ih

/-- What following names from a place comes to after so many links. -/
inductive Comes (files : Files) (links : Nat) : Names × Names → Except Fault (Option Node) → Prop
  | nowhere {a : Names × Names} : Comes files links a (.ok none)
  | arrived {n : Nat} {a : Names × Names} {there : Names} (hn : n ≤ links)
    (h : Reaches files n a (there, [])) : Comes files links a (.ok (files.node? there))
  | blocked {n : Nat} {a b : Names × Names} {fault : Fault} (hn : n ≤ links)
    (h : Reaches files n a b) (hblocked : Blocked files b fault) :
    Comes files links a (.error fault)

theorem Comes.of_reaches {r : Except Fault (Option Node)} (h : Reaches files n a b)
    (hcomes : Comes files links b r) : Comes files (n + links) a r := by
  cases hcomes with
  | nowhere => exact .nowhere
  | arrived hn hrest => exact .arrived (Nat.add_le_add_left hn n) (h.trans hrest)
  | blocked hn hrest hblocked => exact .blocked (Nat.add_le_add_left hn n) (h.trans hrest) hblocked

theorem Comes.over_link {r : Except Fault (Option Node)} (h : files.node? here = some .directory)
    (hname : IsName name) (hlink : files.node? (here ++ [name]) = some (.link target))
    (hcomes : Comes files links (origin here target, partsOf target ++ rest) r) :
    Comes files (links + 1) (here, name :: rest) r := by
  rw [Nat.add_comm]
  exact hcomes.of_reaches (.link h hname hlink (.refl _))

theorem comes_follow (files : Files) (links : Nat) (here names : Names) :
    Comes files links (here, names) (follow files links here names) := by
  induction links using Nat.strongRecOn generalizing here names with
  | ind links ih =>
    obtain ⟨a, hreaches, hends⟩ := exists_ends files here names
    rw [← Nat.zero_add links]
    refine Comes.of_reaches hreaches ?_
    rw [Nat.zero_add, follow]
    cases hwalk : walk files here names with
    | error fault =>
      rw [hwalk] at hends
      cases hends with
      | blocked hblocked => exact .blocked (Nat.zero_le _) (.refl a) hblocked
    | ok w =>
      rw [hwalk] at hends
      cases hends with
      | arrived => exact .arrived (Nat.zero_le _) (.refl _)
      | nowhere hdirectory hclosed => exact .nowhere
      | linked hdirectory hname hlink =>
        cases links with
        | zero => exact .nowhere
        | succ links =>
          exact Comes.over_link hdirectory hname hlink (ih links (Nat.lt_succ_self _) _ _)

theorem follow_eq_some_iff :
    follow files links here names = .ok (some node) ↔
      ∃ n ≤ links, ∃ there, Reaches files n (here, names) (there, []) ∧
        files.node? there = some node := by
  constructor
  · intro h
    have hcomes := comes_follow files links here names
    rw [h] at hcomes
    generalize hresult : (.ok (some node) : Except Fault (Option Node)) = r at hcomes
    cases hcomes with
    | nowhere => cases hresult
    | arrived hn hreaches => exact ⟨_, hn, _, hreaches, (Except.ok.inj hresult).symm⟩
    | blocked hn hreaches hblocked => cases hresult
  · rintro ⟨n, hn, there, hreaches, hnode⟩
    obtain ⟨m, rfl⟩ := Nat.exists_eq_add_of_le hn
    rw [hreaches.follow_eq, follow_nil, hnode]

theorem lookup_of_null (h : '\x00' ∈ path.toList) : lookup files path = .ok none := by
  rw [lookup, if_pos (List.contains_iff_mem.2 h)]

theorem lookup_of_overlong (hnull : '\x00' ∉ path.toList)
    (h : maxPathBytes < (tidied path).utf8ByteSize) :
    lookup files path = .error .fileNameTooLong := by
  rw [lookup, if_neg (by simpa using hnull), if_pos h]

/-- A path that is not too long is followed from its departure. -/
theorem lookup_of_short (hnull : '\x00' ∉ path.toList)
    (h : (tidied path).utf8ByteSize ≤ maxPathBytes) :
    lookup files path =
      follow files maxLinks (departure files path).1 (departure files path).2 := by
  rw [lookup, if_neg (by simpa using hnull), if_neg (Nat.not_lt.2 h)]
  rfl

/-- What there is at a path is what its names reach, over a limited number of links. -/
theorem lookup_eq_some_iff :
    lookup files path = .ok (some node) ↔
      '\x00' ∉ path.toList ∧ (tidied path).utf8ByteSize ≤ maxPathBytes ∧
        ∃ n ≤ maxLinks, ∃ there, Reaches files n (departure files path) (there, []) ∧
          files.node? there = some node := by
  by_cases hnull : '\x00' ∈ path.toList
  · simp [lookup_of_null hnull, hnull]
  · rcases Nat.lt_or_ge maxPathBytes (tidied path).utf8ByteSize with hlong | hshort
    · simp [lookup_of_overlong hnull hlong, Nat.not_le.2 hlong]
    · rw [lookup_of_short hnull hshort, follow_eq_some_iff]
      exact ⟨fun h => ⟨hnull, hshort, h⟩, fun h => h.2.2⟩

/-- The names lead through open directories, over no link. -/
def Clear (files : Files) (here names : Names) : Prop :=
  ∀ way name rest, names = way ++ name :: rest →
    IsName name ∧ files.node? (here ++ way) = some .directory

theorem Clear.head (h : Clear files here (name :: rest)) :
    IsName name ∧ files.node? here = some .directory := by
  have hhead := h [] name rest rfl
  rwa [List.append_nil] at hhead

theorem Clear.tail (h : Clear files here (name :: rest)) : Clear files (here ++ [name]) rest := by
  intro way next behind hrest
  have hnext := h (name :: way) next behind (by rw [hrest, List.cons_append])
  rwa [List.append_assoc]

/-- Names that lead through open directories are followed to their end. -/
theorem Clear.reaches {bytes : List UInt8} (h : Clear files here names)
    (hfile : files.node? (here ++ names) = some (.file bytes)) :
    Reaches files 0 (here, names) (here ++ names, []) := by
  induction names generalizing here with
  | nil =>
    rw [List.append_nil]
    exact .refl _
  | cons name rest ih =>
    obtain ⟨hname, hdirectory⟩ := h.head
    rw [List.append_cons] at hfile ⊢
    -- behind the name there is a directory when names are left, and the file when none is
    have hplace : files.node? (here ++ [name]) = some .directory ∨
        files.node? (here ++ [name]) = some (.file bytes) := by
      cases rest with
      | nil => exact .inr (by rwa [List.append_nil] at hfile)
      | cons next behind => exact .inl h.tail.head.2
    refine .move (.down hdirectory hname ?_ ?_) (ih h.tail hfile)
    · rcases hplace with hplace | hplace <;> simp [hplace]
    · rcases hplace with hplace | hplace <;> simp [hplace]

/-- A file in open directories is found by its names, from the root directory or from the start
directory. -/
theorem lookup_of_clear {bytes : List UInt8} (hnull : '\x00' ∉ path.toList)
    (hshort : (tidied path).utf8ByteSize ≤ maxPathBytes)
    (h : Clear files (origin files.start path) (namesOf path))
    (hfile : files.node? (origin files.start path ++ namesOf path) = some (.file bytes)) :
    lookup files path = .ok (some (.file bytes)) :=
  lookup_eq_some_iff.2 ⟨hnull, hshort, 0, Nat.zero_le _, _, h.reaches hfile, hfile⟩

example :
    lookup ⟨["home"], [(["x.xml"], .file [])]⟩ "/x.xml" = .ok (some (.file [])) := by
  rfl

example :
    lookup ⟨["home"], [(["x.xml"], .file []), (["home", "up"], .link "..")]⟩ "up/x.xml" =
      .ok (some (.file [])) := by
  rfl

end Asset

end PromptForm

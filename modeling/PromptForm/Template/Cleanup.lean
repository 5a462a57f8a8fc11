import PromptForm.Text.Blank

/-!
# Cleaning up a prompt

Tokens that are left over are erased, until none is left, as erasing one can join its surroundings
to another one. Then every run of blank lines becomes one empty line, and the text is trimmed.

## Main definitions

* `Template.erase`: a text without tokens.
* `Template.normalize`: a text with its blank lines reduced, trimmed.
* `Template.cleanup`: both, one after the other.
-/

namespace PromptForm

namespace Template

/-- The text after a token at its start: two opening braces, any characters but a closing brace, and
two closing braces. -/
def afterToken? : List Char → Option (List Char)
  | '\x7b' :: '\x7b' :: rest =>
    match rest.dropWhile (· ≠ '\x7d') with
    | '\x7d' :: '\x7d' :: rest => some rest
    | _ => none
  | _ => none

theorem length_dropWhile_le {α : Type} (p : α → Bool) (l : List α) :
    (l.dropWhile p).length ≤ l.length := by
  induction l with
  | nil => simp
  | cons a l ih =>
    rw [List.dropWhile_cons]
    split
    · simp only [List.length_cons]
      omega
    · simp

/-- What follows a token is shorter than the text. -/
theorem length_lt_of_afterToken?_eq_some {s rest : List Char} (h : afterToken? s = some rest) :
    rest.length < s.length := by
  unfold afterToken? at h
  split at h
  · next tail =>
    split at h
    · next r hr =>
      have hle := length_dropWhile_le (fun c : Char => decide (c ≠ '\x7d')) tail
      rw [hr] at hle
      simp only [Option.some.injEq] at h
      subst h
      simp only [List.length_cons] at hle ⊢
      omega
    · simp at h
  · simp at h

/-- One pass over the text, in which the tokens are erased from left to right. -/
def erasePass (s : List Char) : List Char :=
  match _h : afterToken? s with
  | some rest => erasePass rest
  | none =>
    match s with
    | [] => []
    | c :: cs => c :: erasePass cs
termination_by s.length
decreasing_by
  · exact length_lt_of_afterToken?_eq_some _h
  · simp

/-- Erases the tokens in passes, until a pass erases nothing. -/
def erase (s : List Char) : List Char :=
  let t := erasePass s
  if _h : t.length < s.length then erase t else t
termination_by s.length
decreasing_by exact _h

/-- The text after the last line break among the blanks at its start. -/
def afterLastBreak? : List Char → Option (List Char)
  | [] => none
  | c :: cs =>
    if Text.isBlank c then
      match afterLastBreak? cs with
      | some rest => some rest
      | none => if c = '\n' then some cs else none
    else none

/-- What follows a line break is shorter than the text. -/
theorem length_lt_of_afterLastBreak?_eq_some {s rest : List Char}
    (h : afterLastBreak? s = some rest) : rest.length < s.length := by
  induction s with
  | nil => simp [afterLastBreak?] at h
  | cons c cs ih =>
    rw [afterLastBreak?] at h
    split at h
    · split at h
      · next r hr =>
        simp only [Option.some.injEq] at h
        subst h
        have hlt := ih hr
        simp only [List.length_cons]
        omega
      · split at h
        · simp only [Option.some.injEq] at h
          subst h
          simp
        · simp at h
    · simp at h

/-- The text with every line break that blanks and another line break follow, up to the last such
one, written as one empty line. -/
def collapse (s : List Char) : List Char :=
  match s with
  | [] => []
  | c :: cs =>
    if c = '\n' then
      match _h : afterLastBreak? cs with
      | some rest => '\n' :: '\n' :: collapse rest
      | none => '\n' :: collapse cs
    else c :: collapse cs
termination_by s.length
decreasing_by
  · have hlt := length_lt_of_afterLastBreak?_eq_some _h
    simp only [List.length_cons]
    omega
  · simp
  · simp

/-- The text with its blank lines reduced, trimmed. -/
def normalize (s : List Char) : List Char :=
  Text.trim (collapse s)

/-- The text without tokens, with its blank lines reduced, trimmed. -/
def cleanup (s : List Char) : List Char :=
  normalize (erase s)

end Template

end PromptForm

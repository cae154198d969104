/-!
# PersistentId.Store.Pattern

Patterns of text, as `LIKE` compares them: `%` stands for any characters, `_` for any
one, and an escape character takes the meaning from the character behind it.

A text becomes a pattern of itself by an escape character in front of every character
that has a meaning of its own (`literal`), which is what `autoescape` does.
-/

namespace PersistentId

namespace Pattern

/-- Whether a character means something other than itself, where `escape` takes meanings
away. -/
def isSpecial (escape c : Char) : Bool := c == escape || c == '%' || c == '_'

/-- A text as a pattern of itself. -/
def literal (escape : Char) (s : List Char) : List Char :=
  s.flatMap fun c => if isSpecial escape c then [escape, c] else [c]

/-- A part of a pattern. -/
inductive Part
  | anyRun
  | anyOne
  | exactly (c : Char)
  deriving DecidableEq, Repr

/-- What a character stands for that is not escaped. -/
def Part.ofChar (c : Char) : Part :=
  if c = '%' then .anyRun else if c = '_' then .anyOne else .exactly c

/-- The parts of a pattern. An escape character at its end makes it malformed. -/
def parts? (escape : Char) : List Char → Option (List Part)
  | [] => some []
  | [c] => if c = escape then none else some [.ofChar c]
  | c :: d :: rest =>
    if c = escape then (parts? escape rest).map (.exactly d :: ·)
    else (parts? escape (d :: rest)).map (.ofChar c :: ·)

/-- Whether a text has the form that the parts describe. -/
def isMatch : List Part → List Char → Bool
  | [], s => s.isEmpty
  | .exactly c :: ps, d :: s => c == d && isMatch ps s
  | .exactly _ :: _, [] => false
  | .anyOne :: ps, _ :: s => isMatch ps s
  | .anyOne :: _, [] => false
  | .anyRun :: ps, [] => isMatch ps []
  | .anyRun :: ps, d :: s => isMatch ps (d :: s) || isMatch (.anyRun :: ps) s
  termination_by ps s => (ps.length, s.length)

@[simp] theorem literal_nil (escape : Char) : literal escape [] = [] := rfl

theorem literal_cons (escape c : Char) (s : List Char) :
    literal escape (c :: s) =
      (if isSpecial escape c then [escape, c] else [c]) ++ literal escape s := rfl

/-- An escaped character stands for itself. -/
theorem parts?_escaped (escape c : Char) (rest : List Char) :
    parts? escape (escape :: c :: rest) = (parts? escape rest).map (.exactly c :: ·) := by
  rw [parts?, if_pos rfl]

/-- Any other character stands for what it means. -/
theorem parts?_unescaped {escape c : Char} (h : c ≠ escape) (rest : List Char) :
    parts? escape (c :: rest) = (parts? escape rest).map (.ofChar c :: ·) := by
  cases rest with
  | nil => simp [parts?, h]
  | cons d rest => rw [parts?, if_neg h]

/-- A text as a pattern of itself has the text's characters as its parts. -/
theorem parts?_literal_append (escape : Char) (s rest : List Char) :
    parts? escape (literal escape s ++ rest) =
      (parts? escape rest).map (s.map .exactly ++ ·) := by
  induction s with
  | nil => simp
  | cons c s ih =>
    rw [literal_cons]
    by_cases h : isSpecial escape c
    · simp only [if_pos h, List.cons_append, List.nil_append, parts?_escaped, ih]
      simp [Function.comp_def]
    · obtain ⟨⟨hescape, hpercent⟩, hlow⟩ : (c ≠ escape ∧ c ≠ '%') ∧ c ≠ '_' := by
        simpa [isSpecial] using h
      have hc : Part.ofChar c = .exactly c := by simp [Part.ofChar, hpercent, hlow]
      simp only [if_neg h, List.cons_append, List.nil_append, parts?_unescaped hescape, hc, ih]
      simp [Function.comp_def]

end Pattern

end PersistentId

import Mathlib
import PersistentId.Json.Basic
import PersistentId.Json.Grammar
import PersistentId.Text.Utf8

/-!
# PersistentId.Proofs.Json.Writing

**What is written is JSON, in plain ASCII**, whatever the characters of its texts are.

The written form is that of the bodies of `handle_internal_resolve`, `handle_internal_handles` and
`raise_for_handle_exception`. It is told part by part: what a character is written as, then a
text, then lists and objects by the elements and fields that follow one another.
-/

namespace PersistentId

namespace Json

/-- Whether a value is made of texts, lists and objects, where no object has a name twice. -/
inductive OfTexts : Json → Prop
  | text (s : String) : OfTexts (.text s)
  | list {xs : List Json} : (∀ x ∈ xs, OfTexts x) → OfTexts (.list xs)
  | object {fs : List (String × Json)} :
    (fs.map (·.1)).Nodup → (∀ f ∈ fs, OfTexts f.2) → OfTexts (.object fs)

/-! ### Parts of a value -/

/-- The written form of a field. -/
def fieldChars (f : String × Json) : List Char := quoted f.1 ++ [':', ' '] ++ f.2.chars

@[simp] theorem length_fieldChars (f : String × Json) :
    (fieldChars f).length = (quoted f.1).length + 2 + f.2.chars.length := by
  simp only [fieldChars, List.length_append, List.length_cons, List.length_nil]

theorem chars_list_cons (x : Json) (xs : List Json) :
    (list (x :: xs)).chars = '[' :: (x.chars ++ moreElements xs ++ [']']) := by
  rw [chars]

theorem chars_object_cons (f : String × Json) (fs : List (String × Json)) :
    (object (f :: fs)).chars = '\x7b' :: (fieldChars f ++ moreFields fs ++ ['\x7d']) := by
  rw [chars]
  rfl

theorem moreElements_cons (x : Json) (xs : List Json) :
    moreElements (x :: xs) = ',' :: ' ' :: (x.chars ++ moreElements xs) := by
  rw [moreElements]

theorem moreFields_cons (f : String × Json) (fs : List (String × Json)) :
    moreFields (f :: fs) = ',' :: ' ' :: (fieldChars f ++ moreFields fs) := by
  rw [moreFields]
  rfl

/-- The digits of the escape of a 16-bit unit. -/
def unitDigits (u : Nat) : List Char :=
  [hexDigit (u / 4096 % 16), hexDigit (u / 256 % 16), hexDigit (u / 16 % 16), hexDigit (u % 16)]

theorem unitEscape_eq (u : Nat) : unitEscape u = '\\' :: 'u' :: unitDigits u := rfl

@[simp] theorem length_unitDigits (u : Nat) : (unitDigits u).length = 4 := rfl

theorem exists_of_mem_unitDigits {u : Nat} {d : Char} (h : d ∈ unitDigits u) :
    ∃ n < 16, d = hexDigit n := by
  have hlt (n : Nat) : n % 16 < 16 := Nat.mod_lt n (by decide)
  simp only [unitDigits, List.mem_cons, List.not_mem_nil, or_false] at h
  rcases h with rfl | rfl | rfl | rfl <;> exact ⟨_, hlt _, rfl⟩

theorem hexValue?_hexDigit {n : Nat} (h : n < 16) : Text.hexValue? (hexDigit n) = some n := by
  revert n
  decide

theorem mem_letters {c letter : Char} (h : escapeLetter? c = some letter) :
    letter ∈ Grammar.letters := by
  unfold escapeLetter? at h
  split at h
  all_goals cases h
  all_goals decide

/-- What a character can be written as: with a letter of its own, as it is, as one unit, or as a
pair. -/
theorem escape_cases (c : Char) :
    (∃ letter, escapeLetter? c = some letter ∧ escape c = ['\\', letter]) ∨
    (escapeLetter? c = none ∧ 0x20 ≤ c.toNat ∧ c.toNat < 0x7F ∧ escape c = [c]) ∨
    (c.toNat < 0x10000 ∧ escape c = unitEscape c.toNat) ∨
    (0x10000 ≤ c.toNat ∧ escape c =
      unitEscape (0xD800 + (c.toNat - 0x10000) / 0x400) ++
        unitEscape (0xDC00 + (c.toNat - 0x10000) % 0x400)) := by
  unfold escape
  cases hletter : escapeLetter? c with
  | some letter => exact .inl ⟨letter, rfl, rfl⟩
  | none =>
      by_cases hprinted : 0x20 ≤ c.toNat ∧ c.toNat < 0x7F
      · exact .inr (.inl ⟨rfl, hprinted.1, hprinted.2, if_pos hprinted⟩)
      · by_cases hbasic : c.toNat < 0x10000
        · refine .inr (.inr (.inl ⟨hbasic, ?_⟩))
          simp only [if_neg hprinted, if_pos hbasic]
        · refine .inr (.inr (.inr ⟨Nat.not_lt.1 hbasic, ?_⟩))
          simp only [if_neg hprinted, if_neg hbasic]

/-- A character that has no letter of its own and is printed stands for itself in a text. -/
theorem plain_of_escapeLetter?_none {c : Char} (h : escapeLetter? c = none) :
    c ≠ '"' ∧ c ≠ '\\' := by
  constructor <;> rintro rfl <;> exact nomatch h

/-! ### ASCII -/

theorem isAscii_append (s t : List Char) :
    Utf8.isAscii (s ++ t) = (Utf8.isAscii s && Utf8.isAscii t) := List.all_append

theorem isAscii_cons {c : Char} (h : c.toNat < 0x80) (s : List Char) :
    Utf8.isAscii (c :: s) = Utf8.isAscii s := by
  simp [Utf8.isAscii, h]

theorem ascii_of_mem_letters {c : Char} (h : c ∈ Grammar.letters) : c.toNat < 0x80 := by
  have hall : Grammar.letters.all (·.toNat < 0x80) = true := by decide
  simpa using List.all_eq_true.1 hall c h

theorem isAscii_unitEscape (u : Nat) : Utf8.isAscii (unitEscape u) = true := by
  have hdigit : ∀ n < 16, (hexDigit n).toNat < 0x80 := by decide
  rw [unitEscape_eq, isAscii_cons (by decide), isAscii_cons (by decide)]
  refine List.all_eq_true.2 fun d hd => decide_eq_true ?_
  obtain ⟨n, hn, rfl⟩ := exists_of_mem_unitDigits hd
  exact hdigit n hn

theorem isAscii_escape (c : Char) : Utf8.isAscii (escape c) = true := by
  rcases escape_cases c with ⟨letter, hletter, h⟩ | ⟨-, -, hlast, h⟩ | ⟨-, h⟩ | ⟨-, h⟩
  · rw [h, isAscii_cons (by decide), isAscii_cons (ascii_of_mem_letters (mem_letters hletter))]
    rfl
  · rw [h, isAscii_cons (by omega)]
    rfl
  · rw [h, isAscii_unitEscape]
  · rw [h, isAscii_append, isAscii_unitEscape, isAscii_unitEscape]
    rfl

theorem isAscii_quoted (s : String) : Utf8.isAscii (quoted s) = true := by
  have hinside : Utf8.isAscii (s.toList.flatMap escape) = true := by
    refine List.all_eq_true.2 fun d hd => ?_
    obtain ⟨c, -, hd⟩ := List.mem_flatMap.1 hd
    exact List.all_eq_true.1 (isAscii_escape c) d hd
  rw [quoted, isAscii_append, isAscii_cons (by decide), hinside]
  rfl

theorem isAscii_moreElements {xs : List Json} (h : ∀ x ∈ xs, Utf8.isAscii x.chars = true) :
    Utf8.isAscii (moreElements xs) = true := by
  induction xs with
  | nil => rw [moreElements]; rfl
  | cons x xs ih =>
      rw [moreElements_cons, isAscii_cons (by decide), isAscii_cons (by decide), isAscii_append,
        h x List.mem_cons_self, ih fun y hy => h y (List.mem_cons_of_mem x hy)]
      rfl

theorem isAscii_fieldChars {f : String × Json} (h : Utf8.isAscii f.2.chars = true) :
    Utf8.isAscii (fieldChars f) = true := by
  rw [fieldChars, isAscii_append, isAscii_append, isAscii_quoted, h]
  rfl

theorem isAscii_moreFields {fs : List (String × Json)}
    (h : ∀ f ∈ fs, Utf8.isAscii f.2.chars = true) : Utf8.isAscii (moreFields fs) = true := by
  induction fs with
  | nil => rw [moreFields]; rfl
  | cons f fs ih =>
      rw [moreFields_cons, isAscii_cons (by decide), isAscii_cons (by decide), isAscii_append,
        isAscii_fieldChars (h f List.mem_cons_self), ih fun g hg => h g (List.mem_cons_of_mem f hg)]
      rfl

/-- **Values are written in plain ASCII.** -/
theorem OfTexts.isAscii_chars {j : Json} (h : OfTexts j) : Utf8.isAscii j.chars = true := by
  induction h with
  | text s => exact isAscii_quoted s
  | @list xs _ ih =>
      cases xs with
      | nil => rw [chars]; rfl
      | cons x xs =>
          rw [chars_list_cons, isAscii_cons (by decide), isAscii_append, isAscii_append,
            ih x List.mem_cons_self,
            isAscii_moreElements fun y hy => ih y (List.mem_cons_of_mem x hy)]
          rfl
  | @object fs _ _ ih =>
      cases fs with
      | nil => rw [chars]; rfl
      | cons f fs =>
          rw [chars_object_cons, isAscii_cons (by decide), isAscii_append, isAscii_append,
            isAscii_fieldChars (ih f List.mem_cons_self),
            isAscii_moreFields fun g hg => ih g (List.mem_cons_of_mem f hg)]
          rfl

/-! ### JSON -/

open Grammar

theorem inside_unitEscape {rest : List Char} (u : Nat) (h : Inside rest) :
    Inside (unitEscape u ++ rest) := by
  rw [unitEscape_eq]
  refine .unit (length_unitDigits u) (fun d hd => ?_) h
  obtain ⟨n, hn, rfl⟩ := exists_of_mem_unitDigits hd
  rw [hexValue?_hexDigit hn]
  rfl

/-- A written character may stand in a text. -/
theorem inside_escape {rest : List Char} (c : Char) (h : Inside rest) :
    Inside (escape c ++ rest) := by
  rcases escape_cases c with ⟨letter, hletter, he⟩ | ⟨hnone, hfirst, -, he⟩ | ⟨-, he⟩ | ⟨-, he⟩
  · rw [he]
    exact .letter (mem_letters hletter) h
  · obtain ⟨hquote, hescape⟩ := plain_of_escapeLetter?_none hnone
    rw [he]
    exact .plain hfirst hquote hescape h
  · rw [he]
    exact inside_unitEscape _ h
  · rw [he, List.append_assoc]
    exact inside_unitEscape _ (inside_unitEscape _ h)

theorem grammar_quoted (s : String) : Quoted (quoted s) := by
  have hinside (s : List Char) : Inside (s.flatMap escape) := by
    induction s with
    | nil => exact .nil
    | cons c s ih => exact inside_escape c ih
  exact .intro (hinside s.toList)

theorem blanks_nil : Blanks [] := nofun

theorem blanks_space : Blanks [' '] := by simp [Blanks]

theorem padded_of_value {s before : List Char} (hbefore : Blanks before) (h : Value s) :
    Padded (before ++ s) := by
  simpa using Padded.intro hbefore h blanks_nil

/-- Elements that follow one another, behind a blank or none. -/
theorem elements_chars {x : Json} {xs : List Json} (h : ∀ y ∈ x :: xs, Value y.chars)
    {before : List Char} (hbefore : Blanks before) :
    Elements (before ++ x.chars ++ moreElements xs) := by
  have hx := padded_of_value hbefore (h x List.mem_cons_self)
  induction xs generalizing x before with
  | nil =>
      rw [moreElements, List.append_nil]
      exact .last hx
  | cons y ys ih =>
      have hy := h y (by simp)
      rw [moreElements_cons]
      exact .more hx (ih (fun z hz => h z (List.mem_cons_of_mem x hz)) blanks_space
        (padded_of_value blanks_space hy))

theorem field_fieldChars {f : String × Json} (h : Value f.2.chars) {before : List Char}
    (hbefore : Blanks before) : Field (before ++ fieldChars f) := by
  have hfield :=
    Field.intro hbefore (grammar_quoted f.1) blanks_nil (padded_of_value blanks_space h)
  simpa [fieldChars] using hfield

/-- Fields that follow one another, behind a blank or none. -/
theorem fields_chars {f : String × Json} {fs : List (String × Json)}
    (h : ∀ g ∈ f :: fs, Value g.2.chars) {before : List Char} (hbefore : Blanks before) :
    Fields (before ++ fieldChars f ++ moreFields fs) := by
  have hf := field_fieldChars (h f List.mem_cons_self) hbefore
  induction fs generalizing f before with
  | nil =>
      rw [moreFields, List.append_nil]
      exact .last hf
  | cons g gs ih =>
      have hg := h g (by simp)
      rw [moreFields_cons]
      exact .more hf (ih (fun z hz => h z (List.mem_cons_of_mem f hz)) blanks_space
        (field_fieldChars hg blanks_space))

theorem OfTexts.value_chars {j : Json} (h : OfTexts j) : Value j.chars := by
  induction h with
  | text s => exact .text (grammar_quoted s)
  | @list xs _ ih =>
      cases xs with
      | nil => rw [chars]; exact .emptyList blanks_nil
      | cons x xs =>
          rw [chars_list_cons]
          exact .list (elements_chars ih blanks_nil)
  | @object fs _ _ ih =>
      cases fs with
      | nil => rw [chars]; exact .emptyObject blanks_nil
      | cons f fs =>
          rw [chars_object_cons]
          exact .object (fields_chars ih blanks_nil)

/-- **A rendered value is a JSON document.** -/
theorem OfTexts.isDocument_render {j : Json} (h : OfTexts j) : IsDocument j.render := by
  have hpadded := padded_of_value blanks_nil h.value_chars
  rwa [IsDocument, render, String.toList_ofList]

end Json

end PersistentId

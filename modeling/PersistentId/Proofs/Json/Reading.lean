import Mathlib
import PersistentId.Json.Reader
import PersistentId.Proofs.Json.Writing

/-!
# PersistentId.Proofs.Json.Reading

**What was written is read back.**

Reading goes from left to right, so each statement is about the written form with anything behind
it: what is read is what was written, and what stands behind is left (`scanText_quoted`,
`OfTexts.readsBack`). A document is the case in which nothing stands behind.
-/

namespace PersistentId

namespace Json

/-! ### Escapes -/

@[simp] theorem take_unitDigits (u : Nat) (rest : List Char) :
    (unitDigits u ++ rest).take 4 = unitDigits u := rfl

@[simp] theorem drop_unitDigits (u : Nat) (rest : List Char) :
    (unitDigits u ++ rest).drop 4 = rest := rfl

theorem unit?_unitDigits {u : Nat} (h : u < 0x10000) : unit? (unitDigits u) = some u := by
  have hdigit (n : Nat) : Text.hexValue? (hexDigit (n % 16)) = some (n % 16) :=
    hexValue?_hexDigit (Nat.mod_lt n (by decide))
  simp only [unit?, unitDigits, hdigit, Option.bind_eq_bind, Option.bind_some, Option.pure_def,
    Option.some.injEq]
  omega

/-- A unit that begins no pair is read on its own. -/
theorem scanUnits_unitDigits {u : Nat} {rest : List Char} (hu : u < 0x10000)
    (hsingle : isHighUnit u = false) (hrest : rest ≠ []) :
    scanUnits (unitDigits u ++ rest) = .ok (ofUnit u, rest) := by
  have hlength : ¬ (unitDigits u ++ rest).length < 5 := by
    have := List.length_pos_iff.2 hrest
    simp only [List.length_append, length_unitDigits]
    omega
  simp only [scanUnits, take_unitDigits, drop_unitDigits, unit?_unitDigits hu, hlength, hsingle,
    if_false, Bool.false_eq_true]

/-- Two units that make a pair are read together. -/
theorem scanUnits_pair {u v : Nat} {rest : List Char} (hu : u < 0x10000) (hv : v < 0x10000)
    (hhigh : isHighUnit u = true) (hlow : isLowUnit v = true) (hrest : rest ≠ []) :
    scanUnits (unitDigits u ++ (unitEscape v ++ rest)) = .ok (ofPair u v, rest) := by
  have hlength : ¬ (unitDigits u ++ (unitEscape v ++ rest)).length < 5 := by
    simp only [List.length_append, length_unitDigits, unitEscape_eq, List.length_cons]
    omega
  have hnext : nextEscape? (unitEscape v ++ rest) = some (unitDigits v ++ rest) := by
    have := List.length_pos_iff.2 hrest
    simp only [unitEscape_eq, List.cons_append, nextEscape?, List.length_append, length_unitDigits]
    rw [if_neg (by omega)]
  simp only [scanUnits, take_unitDigits, drop_unitDigits, unit?_unitDigits hu,
    unit?_unitDigits hv, hlength, hhigh, hnext, hlow, if_false, if_true]

/-- Every letter stands for the character that it was written for. -/
theorem ofEscapeLetter?_escapeLetter {c letter : Char} (h : escapeLetter? c = some letter) :
    ofEscapeLetter? letter = some c := by
  unfold escapeLetter? at h
  split at h
  all_goals cases h
  all_goals rfl

/-! ### Characters -/

theorem not_isHalf_toNat (c : Char) : Text.isHalf c.toNat = false := by
  have hvalid := c.valid
  have hn : c.val.toNat = c.toNat := rfl
  simp only [Text.isHalf, Bool.and_eq_false_iff, decide_eq_false_iff_not]
  rcases hvalid with h | h <;> omega

/-- A character of the basic plane is one unit. -/
theorem scanUnits_basic {c : Char} {rest : List Char} (hc : c.toNat < 0x10000) (hrest : rest ≠ []) :
    scanUnits (unitDigits c.toNat ++ rest) = .ok (c, rest) := by
  have hhalf := not_isHalf_toNat c
  have hsingle : isHighUnit c.toNat = false := by
    simp only [Text.isHalf, isHighUnit, Bool.and_eq_false_iff, decide_eq_false_iff_not] at hhalf ⊢
    omega
  rw [scanUnits_unitDigits hc hsingle hrest, ofUnit, hhalf]
  simp

/-- A character beyond the basic plane is a pair of units. -/
theorem scanUnits_beyond {c : Char} {rest : List Char} (hc : 0x10000 ≤ c.toNat)
    (hrest : rest ≠ []) :
    scanUnits (unitDigits (0xD800 + (c.toNat - 0x10000) / 0x400) ++
      (unitEscape (0xDC00 + (c.toNat - 0x10000) % 0x400) ++ rest)) = .ok (c, rest) := by
  have hlast : c.toNat < 0x110000 := Utf8.toNat_lt c
  have hpair : ofPair (0xD800 + (c.toNat - 0x10000) / 0x400)
      (0xDC00 + (c.toNat - 0x10000) % 0x400) = c := by
    have hn : 0x10000 + (0xD800 + (c.toNat - 0x10000) / 0x400 - 0xD800) * 0x400 +
        (0xDC00 + (c.toNat - 0x10000) % 0x400 - 0xDC00) = c.toNat := by omega
    rw [ofPair, hn, Char.ofNat_toNat]
  rw [scanUnits_pair (by omega) (by omega) ?_ ?_ hrest, hpair]
  · simp only [isHighUnit, Bool.and_eq_true, decide_eq_true_eq]
    omega
  · simp only [isLowUnit, Bool.and_eq_true, decide_eq_true_eq]
    omega

variable {opening : Nat} {s rest : List Char}

theorem scanEscape_unit : scanEscape opening ('u' :: s) = scanUnits s := rfl

theorem scanEscape_escapeLetter {c letter : Char} (h : escapeLetter? c = some letter) :
    scanEscape opening (letter :: s) = .ok (c, s) := by
  have hunit : letter ≠ 'u' := fun hu => absurd (hu ▸ mem_letters h) (by decide)
  simp only [scanEscape, hunit, ofEscapeLetter?_escapeLetter h, if_false]

/-- What an escape is read as goes in front of what follows. -/
theorem scanText_of_scanEscape {c : Char} (h : scanEscape opening s = .ok (c, rest)) :
    scanText opening ('\\' :: s) = (scanText opening rest).map fun (cs, r) => (c :: cs, r) := by
  rw [scanText]
  simp only [reduceIte, Char.reduceEq]
  split <;> rename_i heq <;> rw [h] at heq <;> cases heq
  rfl

/-- So does a character that is written as it is. -/
theorem scanText_of_plain {c : Char} (hquote : c ≠ '"') (hescape : c ≠ '\\')
    (hprinted : 0x20 ≤ c.toNat) :
    scanText opening (c :: rest) = (scanText opening rest).map fun (cs, r) => (c :: cs, r) := by
  rw [scanText]
  simp only [hquote, hescape, Nat.not_lt.2 hprinted, if_false]

/-- A character is read as it was written. -/
theorem scanText_escape (c : Char) (hrest : rest ≠ []) :
    scanText opening (escape c ++ rest) =
      (scanText opening rest).map fun (cs, r) => (c :: cs, r) := by
  rcases escape_cases c with
    ⟨letter, hletter, h⟩ | ⟨hnone, hfirst, -, h⟩ | ⟨hbasic, h⟩ | ⟨hbeyond, h⟩
  · rw [h]
    exact scanText_of_scanEscape (scanEscape_escapeLetter hletter)
  · obtain ⟨hquote, hescape⟩ := plain_of_escapeLetter?_none hnone
    rw [h]
    exact scanText_of_plain hquote hescape hfirst
  · rw [h, unitEscape_eq, List.cons_append, List.cons_append]
    exact scanText_of_scanEscape (scanEscape_unit.trans (scanUnits_basic hbasic hrest))
  · rw [h, List.append_assoc, unitEscape_eq, List.cons_append, List.cons_append]
    exact scanText_of_scanEscape (scanEscape_unit.trans (scanUnits_beyond hbeyond hrest))

/-- **A text is read back**, whatever its characters are and whatever stands behind it. -/
theorem scanText_quoted (s rest : List Char) :
    scanText opening (s.flatMap escape ++ '"' :: rest) = .ok (s, rest) := by
  induction s with
  | nil => rw [List.flatMap_nil, List.nil_append, scanText, if_pos rfl]
  | cons c s ih =>
      rw [List.flatMap_cons, List.append_assoc, scanText_escape c (by simp), ih]
      rfl

/-! ### Values -/

theorem quoted_append (s : String) (rest : List Char) :
    quoted s ++ rest = '"' :: (s.toList.flatMap escape ++ '"' :: rest) := by
  simp [quoted]

@[simp] theorem skipBlanks_space (s : List Char) : skipBlanks (' ' :: s) = skipBlanks s := rfl

theorem skipBlanks_cons {c : Char} (h : isBlank c = false) (s : List Char) :
    skipBlanks (c :: s) = c :: s := by
  simp [skipBlanks, h]

/-- The characters with which a value begins. -/
def openings : List Char := ['"', '[', '\x7b']

theorem OfTexts.exists_chars {j : Json} (h : OfTexts j) :
    ∃ c ∈ openings, ∃ s, j.chars = c :: s := by
  cases h with
  | text s => exact ⟨'"', by decide, _, rfl⟩
  | @list xs _ =>
      cases xs with
      | nil => exact ⟨'[', by decide, _, by rw [chars]⟩
      | cons x xs => exact ⟨'[', by decide, _, chars_list_cons x xs⟩
  | @object fs _ _ =>
      cases fs with
      | nil => exact ⟨'\x7b', by decide, _, by rw [chars]⟩
      | cons f fs => exact ⟨'\x7b', by decide, _, chars_object_cons f fs⟩

/-- No blank stands in front of a value. -/
theorem OfTexts.skipBlanks_chars {j : Json} (h : OfTexts j) (rest : List Char) :
    skipBlanks (j.chars ++ rest) = j.chars ++ rest := by
  obtain ⟨c, hc, s, hchars⟩ := h.exists_chars
  have hblank : openings.all (!isBlank ·) = true := by decide
  rw [hchars, List.cons_append, skipBlanks_cons (by simpa using List.all_eq_true.1 hblank c hc)]

theorem skipBlanks_fieldChars (f : String × Json) (rest : List Char) :
    skipBlanks (fieldChars f ++ rest) = fieldChars f ++ rest := by
  rw [fieldChars, List.append_assoc, List.append_assoc, quoted_append]
  exact skipBlanks_cons (by decide) _

theorem setField_of_new {name : String} {fields : List (String × Json)}
    (h : name ∉ fields.map (·.1)) (value : Json) :
    setField name value fields = fields ++ [(name, value)] := by
  induction fields with
  | nil => rfl
  | cons f fields ih =>
      simp only [List.map_cons, List.mem_cons, not_or] at h
      simp only [setField, beq_iff_eq, Ne.symm h.1, if_false, ih h.2, List.cons_append]

theorem not_mem_of_nodup_names {f : String × Json} {before fs : List (String × Json)}
    (h : ((before ++ f :: fs).map (·.1)).Nodup) : f.1 ∉ before.map (·.1) := by
  simp only [List.map_append, List.map_cons, List.nodup_append] at h
  exact fun hmem => h.2.2 _ hmem _ List.mem_cons_self rfl

/-- A value is read as it was written, whatever stands behind it. It takes no more steps than it has
characters, and is nested no deeper. -/
def ReadsBack (j : Json) : Prop :=
  ∀ n depth rest, j.chars.length ≤ n → j.chars.length ≤ depth →
    scanValue n depth (j.chars ++ rest) = .ok (j, rest)

theorem scanElements_chars {x : Json} {xs : List Json} {n depth : Nat}
    (hshape : ∀ y ∈ x :: xs, OfTexts y) (hread : ∀ y ∈ x :: xs, ReadsBack y)
    (hn : (x.chars ++ moreElements xs).length < n)
    (hdepth : (x.chars ++ moreElements xs).length ≤ depth) (rest : List Char) :
    scanElements n depth (x.chars ++ (moreElements xs ++ ']' :: rest)) = .ok (x :: xs, rest) := by
  induction xs generalizing x n with
  | nil =>
      simp only [List.length_append] at hn hdepth
      obtain ⟨n, rfl⟩ : ∃ m, n = m + 1 := ⟨n - 1, by omega⟩
      rw [scanElements, hread x List.mem_cons_self n depth _ (by omega) (by omega)]
      rw [moreElements]
      rfl
  | cons y ys ih =>
      rw [moreElements_cons] at hn hdepth ⊢
      simp only [List.length_append, List.length_cons] at hn hdepth
      obtain ⟨n, rfl⟩ : ∃ m, n = m + 1 := ⟨n - 1, by omega⟩
      have hy := ih (n := n) (fun z hz => hshape z (List.mem_cons_of_mem x hz))
        (fun z hz => hread z (List.mem_cons_of_mem x hz))
        (by rw [List.length_append]; omega) (by rw [List.length_append]; omega)
      have hblank := (hshape y (by simp)).skipBlanks_chars (moreElements ys ++ ']' :: rest)
      rw [scanElements, hread x List.mem_cons_self n depth _ (by omega) (by omega)]
      simp only [List.cons_append, List.append_assoc, bind, Except.bind,
        skipBlanks_cons (c := ',') (by decide), skipBlanks_space, hblank, hy]
      rfl

/-- One field is read, and what stands behind it decides how to go on. -/
theorem scanFields_fieldChars {f : String × Json} {before : List (String × Json)} {n depth : Nat}
    (hshape : OfTexts f.2) (hread : ReadsBack f.2) (hnew : f.1 ∉ before.map (·.1))
    (hn : f.2.chars.length ≤ n) (hdepth : f.2.chars.length ≤ depth) (rest : List Char) :
    scanFields (n + 1) depth before (fieldChars f ++ rest) =
      match skipBlanks rest with
      | '\x7d' :: r => .ok (before ++ [f], r)
      | ',' :: r => scanFields n depth (before ++ [f]) (skipBlanks r)
      | r => .error ⟨.commaExpected, r.length⟩ := by
  simp only [fieldChars, List.append_assoc, quoted_append, List.nil_append, List.cons_append,
    scanFields, scanText_quoted, bind, Except.bind, skipBlanks_cons (c := ':') (by decide),
    skipBlanks_space, hshape.skipBlanks_chars, hread n depth rest hn hdepth,
    String.ofList_toList, setField_of_new hnew]
  rfl

theorem scanFields_chars {f : String × Json} {fs before : List (String × Json)} {n depth : Nat}
    (hshape : ∀ g ∈ f :: fs, OfTexts g.2) (hread : ∀ g ∈ f :: fs, ReadsBack g.2)
    (hnames : ((before ++ f :: fs).map (·.1)).Nodup)
    (hn : (fieldChars f ++ moreFields fs).length < n)
    (hdepth : (fieldChars f ++ moreFields fs).length ≤ depth) (rest : List Char) :
    scanFields n depth before (fieldChars f ++ (moreFields fs ++ '\x7d' :: rest)) =
      .ok (before ++ f :: fs, rest) := by
  induction fs generalizing f before n with
  | nil =>
      simp only [List.length_append, length_fieldChars] at hn hdepth
      obtain ⟨n, rfl⟩ : ∃ m, n = m + 1 := ⟨n - 1, by omega⟩
      rw [scanFields_fieldChars (hshape f List.mem_cons_self) (hread f List.mem_cons_self)
        (not_mem_of_nodup_names hnames) (by omega) (by omega), moreFields]
      rfl
  | cons g fs ih =>
      rw [moreFields_cons] at hn hdepth ⊢
      simp only [List.length_append, List.length_cons, length_fieldChars] at hn hdepth
      obtain ⟨n, rfl⟩ : ∃ m, n = m + 1 := ⟨n - 1, by omega⟩
      rw [scanFields_fieldChars (hshape f List.mem_cons_self) (hread f List.mem_cons_self)
        (not_mem_of_nodup_names hnames) (by omega) (by omega)]
      have hrest : scanFields n depth (before ++ [f])
          (fieldChars g ++ (moreFields fs ++ '\x7d' :: rest)) =
            .ok (before ++ [f] ++ g :: fs, rest) :=
        ih (fun h hh => hshape h (List.mem_cons_of_mem f hh))
          (fun h hh => hread h (List.mem_cons_of_mem f hh))
          (by simpa using hnames)
          (by rw [List.length_append, length_fieldChars]; omega)
          (by rw [List.length_append, length_fieldChars]; omega)
      simp only [List.cons_append, List.append_assoc, skipBlanks_cons (c := ',') (by decide),
        skipBlanks_space, skipBlanks_fieldChars, hrest, List.nil_append]

/-- **A value is read back.** -/
theorem OfTexts.readsBack {j : Json} (h : OfTexts j) : ReadsBack j := by
  induction h with
  | text s =>
      intro n depth rest hn _
      obtain ⟨n, rfl⟩ : ∃ m, n = m + 1 := ⟨n - 1, by simp [chars, quoted] at hn; omega⟩
      rw [chars, quoted_append, scanValue, scanText_quoted]
      simp [Except.map]
  | @list xs hshape ih =>
      intro n depth rest hn hdepth
      cases xs with
      | nil =>
          simp only [chars, List.length_cons, List.length_nil] at hn hdepth
          obtain ⟨n, rfl⟩ : ∃ m, n = m + 1 := ⟨n - 1, by omega⟩
          obtain ⟨depth, rfl⟩ : ∃ d, depth = d + 1 := ⟨depth - 1, by omega⟩
          rw [chars]
          rfl
      | cons x xs =>
          rw [chars_list_cons] at hn hdepth ⊢
          simp only [List.length_cons, List.length_append, List.length_nil] at hn hdepth
          obtain ⟨n, rfl⟩ : ∃ m, n = m + 1 := ⟨n - 1, by omega⟩
          obtain ⟨depth, rfl⟩ : ∃ d, depth = d + 1 := ⟨depth - 1, by omega⟩
          have helements : scanElements n depth (x.chars ++ (moreElements xs ++ ']' :: rest)) =
              .ok (x :: xs, rest) :=
            scanElements_chars hshape ih (by rw [List.length_append]; omega)
              (by rw [List.length_append]; omega) rest
          have hblank := (hshape x List.mem_cons_self).skipBlanks_chars
            (moreElements xs ++ ']' :: rest)
          obtain ⟨c, hc, s, hchars⟩ := (hshape x List.mem_cons_self).exists_chars
          simp only [List.cons_append, List.append_assoc, List.nil_append, scanValue, hblank]
          split
          · rename_i hopen
            rw [hchars] at hopen
            rw [(List.cons.inj hopen).1] at hc
            exact absurd hc (by decide)
          · rw [helements]
            rfl
  | @object fs hnames hshape ih =>
      intro n depth rest hn hdepth
      cases fs with
      | nil =>
          simp only [chars, List.length_cons, List.length_nil] at hn hdepth
          obtain ⟨n, rfl⟩ : ∃ m, n = m + 1 := ⟨n - 1, by omega⟩
          obtain ⟨depth, rfl⟩ : ∃ d, depth = d + 1 := ⟨depth - 1, by omega⟩
          rw [chars]
          rfl
      | cons f fs =>
          rw [chars_object_cons] at hn hdepth ⊢
          simp only [List.length_cons, List.length_append, List.length_nil] at hn hdepth
          obtain ⟨n, rfl⟩ : ∃ m, n = m + 1 := ⟨n - 1, by omega⟩
          obtain ⟨depth, rfl⟩ : ∃ d, depth = d + 1 := ⟨depth - 1, by omega⟩
          have hfields : scanFields n depth []
              (fieldChars f ++ (moreFields fs ++ '\x7d' :: rest)) = .ok (f :: fs, rest) :=
            scanFields_chars hshape ih hnames (by rw [List.length_append]; omega)
              (by rw [List.length_append]; omega) rest
          simp only [List.cons_append, List.append_assoc, List.nil_append, scanValue,
            skipBlanks_fieldChars]
          split
          · rename_i hopen
            rw [fieldChars, List.append_assoc, List.append_assoc, quoted_append] at hopen
            exact absurd (List.cons.inj hopen).1 (by decide)
          · rw [hfields]
            rfl

/-- **A document is read back.** -/
theorem read_render {j : Json} (h : OfTexts j) : read j.render = .ok j := by
  obtain ⟨c, hc, s, hchars⟩ := h.exists_chars
  have hmark : j.chars.head? ≠ some '\uFEFF' := by
    rw [hchars, List.head?_cons]
    rintro ⟨⟩
    exact absurd hc (by decide)
  have hvalue := h.readsBack (2 * j.chars.length + 1) j.chars.length [] (by omega) (by omega)
  have hskip := h.skipBlanks_chars []
  simp only [List.append_nil] at hvalue hskip
  simp only [read, render, String.toList_ofList, readChars, readWithin, hmark, if_false, hskip,
    hvalue]
  rfl

end Json

end PersistentId

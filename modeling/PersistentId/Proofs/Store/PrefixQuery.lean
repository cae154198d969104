import Mathlib
import PersistentId.Store.Database
import PersistentId.Store.Statement

/-!
# PersistentId.Proofs.Store.PrefixQuery

**A listing matches literally.** The statement that lists the handles with a given beginning,
`select_prefix_handles_stmt`, compares them with a pattern. So what counts as a character of the
beginning and what as a metacharacter of the pattern is a matter of escaping, and a slash, which
escapes, stands in practically every handle.

What a pattern means is said without a matcher (`Pattern.Matches`): the text can be cut into one
piece for each part of the pattern, such that every part spans its piece. The matcher, which
backtracks, finds such a cut if there is one (`Pattern.isMatch_iff`). The parts of the pattern
that the statement makes are the characters of the beginning, one by one, and a run behind
them (`Like.parts?_startingWith`), and these leave one way of cutting only.
-/

namespace PersistentId

namespace Pattern

/-! ### What a pattern means -/

/-- Whether a part stands for a piece of text. -/
def Part.Spans : Part → List Char → Prop
  | .anyRun, _ => True
  | .anyOne, piece => ∃ c, piece = [c]
  | .exactly c, piece => piece = [c]

/-- Whether a text can be cut into pieces that the parts stand for, one by one. -/
def Matches (ps : List Part) (s : List Char) : Prop :=
  ∃ pieces, List.Forall₂ Part.Spans ps pieces ∧ pieces.flatten = s

theorem matches_nil {s : List Char} : Matches [] s ↔ s = [] := by
  constructor
  · rintro ⟨pieces, hspans, rfl⟩
    cases hspans
    rfl
  · rintro rfl
    exact ⟨[], .nil, rfl⟩

/-- The first part stands for the beginning of the text, and the others for the rest. -/
theorem matches_cons {p : Part} {ps : List Part} {s : List Char} :
    Matches (p :: ps) s ↔ ∃ piece rest, p.Spans piece ∧ Matches ps rest ∧ s = piece ++ rest := by
  constructor
  · rintro ⟨pieces, hspans, rfl⟩
    cases hspans with
    | cons hp hps => exact ⟨_, _, hp, ⟨_, hps, rfl⟩, rfl⟩
  · rintro ⟨piece, rest, hp, ⟨pieces, hps, rfl⟩, rfl⟩
    exact ⟨piece :: pieces, .cons hp hps, rfl⟩

theorem matches_exactly_cons {c : Char} {ps : List Part} {s : List Char} :
    Matches (.exactly c :: ps) s ↔ ∃ rest, s = c :: rest ∧ Matches ps rest := by
  rw [matches_cons]
  constructor
  · rintro ⟨piece, rest, rfl, hrest, rfl⟩
    exact ⟨rest, rfl, hrest⟩
  · rintro ⟨rest, rfl, hrest⟩
    exact ⟨[c], rest, rfl, hrest, rfl⟩

theorem matches_anyOne_cons {ps : List Part} {s : List Char} :
    Matches (.anyOne :: ps) s ↔ ∃ c rest, s = c :: rest ∧ Matches ps rest := by
  rw [matches_cons]
  constructor
  · rintro ⟨piece, rest, ⟨c, rfl⟩, hrest, rfl⟩
    exact ⟨c, rest, rfl, hrest⟩
  · rintro ⟨c, rest, rfl, hrest⟩
    exact ⟨[c], rest, ⟨c, rfl⟩, hrest, rfl⟩

/-- A run spans nothing, or it spans one character and is a run on what follows. -/
theorem matches_anyRun_cons {ps : List Part} {s : List Char} :
    Matches (.anyRun :: ps) s ↔
      Matches ps s ∨ ∃ c rest, s = c :: rest ∧ Matches (.anyRun :: ps) rest := by
  rw [matches_cons]
  constructor
  · rintro ⟨piece, rest, -, hrest, rfl⟩
    cases piece with
    | nil => exact .inl hrest
    | cons c piece =>
        exact .inr ⟨c, piece ++ rest, rfl, matches_cons.2 ⟨piece, rest, trivial, hrest, rfl⟩⟩
  · rintro (h | ⟨c, rest, rfl, h⟩)
    · exact ⟨[], s, trivial, h, rfl⟩
    · obtain ⟨piece, rest, -, hrest, rfl⟩ := matches_cons.1 h
      exact ⟨c :: piece, rest, trivial, hrest, rfl⟩

/-- The matcher finds a cut exactly where there is one. -/
theorem isMatch_iff {ps : List Part} {s : List Char} : isMatch ps s = true ↔ Matches ps s := by
  -- The cases are those of the matcher; a run on a text takes up both of its attempts.
  induction ps, s using isMatch.induct with
  | case1 s => rw [isMatch, matches_nil, List.isEmpty_iff]
  | case2 c ps d s ih =>
      rw [isMatch, matches_exactly_cons, Bool.and_eq_true, ih, beq_iff_eq]
      constructor
      · rintro ⟨rfl, h⟩
        exact ⟨s, rfl, h⟩
      · rintro ⟨rest, hrest, h⟩
        obtain ⟨rfl, rfl⟩ := List.cons.inj hrest
        exact ⟨rfl, h⟩
  | case3 c ps => simp [isMatch, matches_exactly_cons]
  | case4 ps c s ih =>
      rw [isMatch, matches_anyOne_cons, ih]
      constructor
      · intro h
        exact ⟨c, s, rfl, h⟩
      · rintro ⟨d, rest, hrest, h⟩
        obtain ⟨rfl, rfl⟩ := List.cons.inj hrest
        exact h
  | case5 ps => simp [isMatch, matches_anyOne_cons]
  | case6 ps ih =>
      rw [isMatch, matches_anyRun_cons, ih]
      simp
  | case7 ps d s ih ih' =>
      rw [isMatch, matches_anyRun_cons, Bool.or_eq_true, ih, ih']
      constructor
      · rintro (h | h)
        · exact .inl h
        · exact .inr ⟨d, s, rfl, h⟩
      · rintro (h | ⟨c, rest, hrest, h⟩)
        · exact .inl h
        · obtain ⟨rfl, rfl⟩ := List.cons.inj hrest
          exact .inr h

/-! ### The pattern of a beginning -/

/-- Characters that stand for themselves have to begin the text. -/
theorem matches_exactly_append {s : List Char} {ps : List Part} {t : List Char} :
    Matches (s.map .exactly ++ ps) t ↔ ∃ rest, t = s ++ rest ∧ Matches ps rest := by
  induction s generalizing t with
  | nil => simp
  | cons c s ih =>
      rw [List.map_cons, List.cons_append, matches_exactly_cons]
      constructor
      · rintro ⟨t, rfl, h⟩
        obtain ⟨rest, rfl, hrest⟩ := ih.1 h
        exact ⟨rest, rfl, hrest⟩
      · rintro ⟨rest, rfl, hrest⟩
        exact ⟨s ++ rest, rfl, ih.2 ⟨rest, rfl, hrest⟩⟩

/-- A run alone matches everything. -/
theorem matches_anyRun (s : List Char) : Matches [.anyRun] s :=
  matches_cons.2 ⟨s, [], trivial, matches_nil.2 rfl, (List.append_nil s).symm⟩

/-- So the texts of the pattern are those that start with the beginning. -/
theorem matches_startingWith {s t : List Char} :
    Matches (s.map .exactly ++ [.anyRun]) t ↔ s <+: t := by
  rw [matches_exactly_append]
  constructor
  · rintro ⟨rest, rfl, -⟩
    exact List.prefix_append s rest
  · rintro ⟨rest, rfl⟩
    exact ⟨rest, rfl, matches_anyRun rest⟩

/-- A text with an escape character in front of every occurrence of one character. -/
def escapeEach (escape c : Char) (s : List Char) : List Char :=
  s.flatMap fun d => if d = c then [escape, d] else [d]

/-- The three characters can be escaped one after another, as long as the slash, which escapes,
comes first: the slashes that are put in front of the other two are not escaped again. -/
theorem literal_eq_escapeEach (s : List Char) :
    literal '/' s = escapeEach '/' '_' (escapeEach '/' '%' (escapeEach '/' '/' s)) := by
  unfold literal escapeEach
  rw [List.flatMap_assoc, List.flatMap_assoc]
  refine List.flatMap_congr fun c _ => ?_
  by_cases hslash : c = '/'
  · subst hslash
    decide
  · by_cases hpercent : c = '%'
    · subst hpercent
      decide
    · by_cases hlow : c = '_'
      · subst hlow
        decide
      · simp [isSpecial, hslash, hpercent, hlow]

end Pattern

/-- The comparison that `startswith` makes is well-formed: its parts are the characters of the text
and a run behind them. -/
theorem Like.parts?_startingWith (column start : String) :
    (startingWith column start).parts? = some (start.toList.map .exactly ++ [.anyRun]) := by
  have hbehind : Pattern.parts? '/' "%".toList = some [.anyRun] := by decide
  simp only [parts?, pattern, startingWith, String.toList_ofList, Pattern.parts?_literal_append,
    hbehind, Option.map_some]

/-- Of the text only the pattern that is bound depends on what a listing starts with. -/
theorem Like.sql_startingWith (start : String) :
    (startingWith "handle.handle" start).sql =
      "(handle.handle LIKE $1::VARCHAR || '%' ESCAPE '/')" := by
  show "(" ++ "handle.handle" ++ " LIKE $1::VARCHAR || '" ++ "%" ++ "' ESCAPE '" ++
    String.singleton '/' ++ "')" = _
  decide +kernel

/-! ### The statement -/

namespace Statement

/-- **A listing matches literally.** Take any beginning, with whatever slashes, percent signs,
underscores and backslashes.

* The statement has one text for all beginnings. It compares the handles with what is bound and a
  percent sign behind it, and a slash escapes.
* What is bound is the beginning with a slash in front of each slash, percent sign and underscore.
  To escape these three one after another, the slash first, comes to the same.
* The pattern made of it is well-formed.
* A handle matches the pattern if and only if it starts with the beginning, by what the pattern
  means and by the matcher.
* So the store lists the handles that match, as the scan meets them. -/
theorem listing_matches_literally (start : String) :
    ∃ like parts,
      (selectHandlesWith start).like? = some like ∧
      (selectHandlesWith start).sql = "SELECT handle.handle \nFROM handle \n" ++
        "WHERE (handle.handle LIKE $1::VARCHAR || '%' ESCAPE '/')" ∧
      (selectHandlesWith start).bindings = [.text like.bound] ∧
      (like.column = "handle.handle" ∧ like.behind = "%" ∧ like.escape = '/') ∧
      like.bound.toList =
        start.toList.flatMap (fun c => if c = '/' ∨ c = '%' ∨ c = '_' then ['/', c] else [c]) ∧
      like.bound.toList =
        Pattern.escapeEach '/' '_'
          (Pattern.escapeEach '/' '%' (Pattern.escapeEach '/' '/' start.toList)) ∧
      like.pattern = like.bound.toList ++ ['%'] ∧
      Pattern.parts? like.escape like.pattern = some parts ∧
      (∀ handle : String,
        (Pattern.Matches parts handle.toList ↔ start.toList <+: handle.toList) ∧
        (Pattern.isMatch parts handle.toList = true ↔ start.toList <+: handle.toList)) ∧
      ∀ db : Database, db.reachable = true →
        db.findHandlesWith start =
          .ok ((db.scan.order (db.session.records.rows.filter fun r =>
            Pattern.isMatch parts r.handle.toList)).map (·.handle)) := by
  have hmatches : ∀ handle : String,
      Pattern.isMatch (start.toList.map .exactly ++ [.anyRun]) handle.toList = true ↔
        start.toList <+: handle.toList :=
    fun handle => Pattern.isMatch_iff.trans Pattern.matches_startingWith
  have hparts := Like.parts?_startingWith "handle.handle" start
  have hbehind : "%".toList = ['%'] := by decide
  refine ⟨.startingWith "handle.handle" start, _, rfl, ?_, rfl, ⟨rfl, rfl, rfl⟩, ?_, ?_,
    congrArg (_ ++ ·) hbehind, hparts,
    fun handle => ⟨Pattern.matches_startingWith, hmatches handle⟩, ?_⟩
  · have hcondition := Like.sql_startingWith start
    refine (congrArg ("SELECT handle.handle \n" ++ "FROM handle \n" ++ "WHERE " ++ ·)
      hcondition).trans ?_
    decide +kernel
  · rw [Like.startingWith, String.toList_ofList, Pattern.literal]
    refine List.flatMap_congr fun c _ => ?_
    simp [Pattern.isSpecial, or_assoc]
  · rw [Like.startingWith, String.toList_ofList, Pattern.literal_eq_escapeEach]
  · intro db hup
    rw [Database.findHandlesWith, Database.query_of_reachable hup, RecordTable.handlesWith]
    congr 3
    refine List.filter_congr fun r _ => ?_
    rw [Bool.eq_iff_iff, hmatches, List.isPrefixOf_iff_prefix]

/-- Neither wildcards nor slashes of the beginning match anything but themselves, and a backslash
escapes nothing. -/
example :
    (Pattern.parts? '/' "a//b/%/_%".toList).map (Pattern.isMatch · "a/b%_c".toList) = some true ∧
      (Pattern.parts? '/' "a//b/%/_%".toList).map (Pattern.isMatch · "a/bxyc".toList) =
        some false ∧
      (Pattern.parts? '/' "\\/%%".toList).map (Pattern.isMatch · "\\%1".toList) = some true := by
  refine ⟨?_, ?_, ?_⟩ <;> cbv

end Statement

end PersistentId

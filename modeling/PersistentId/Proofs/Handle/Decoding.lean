import Mathlib
import PersistentId.Proofs.Handle.Composition
import PersistentId.Proofs.Text.Numeral

/-!
# PersistentId.Proofs.Handle.Decoding

**Composed handles decode uniquely**: prefix and number can be read off the text again.

A composed handle comes apart at its last slash, for a decimal spelling has none, whatever slashes
and digits the prefix has. No text comes apart there in two ways (`SplitsAtLastSlash.unique`), so
handles that are the same are composed of the same number and the same prefix with its slash. What
is lost is whether the prefix came with that slash, and no more (`withTrailingSlash_eq_iff`).

`compose_handle` is asked with any integer, and refuses those that are too long to be written
(`compose?_eq_ok`). A value of a sequence never is (`compose?_of_sequence`).
-/

namespace PersistentId

namespace Handle

/-! ### The last slash -/

/-- A text in two parts: the first one goes up to the last slash and has it at its end, the second
one is what is left. -/
structure SplitsAtLastSlash (handle front back : String) : Prop where
  append_eq : front ++ back = handle
  slash : front.toList.getLast? = some '/'
  no_slash : '/' ∉ back.toList

/-- Only one slash of a text is the last one. -/
theorem SplitsAtLastSlash.unique {handle front back front' back' : String}
    (h : SplitsAtLastSlash handle front back) (h' : SplitsAtLastSlash handle front' back') :
    front = front' ∧ back = back' := by
  obtain ⟨start, hstart⟩ := List.getLast?_eq_some_iff.1 h.slash
  obtain ⟨start', hstart'⟩ := List.getLast?_eq_some_iff.1 h'.slash
  have hsame : start ++ '/' :: back.toList = start' ++ '/' :: back'.toList := by
    have htext := congrArg String.toList (h.append_eq.trans h'.append_eq.symm)
    simpa [hstart, hstart'] using htext
  obtain ⟨hfront, hback⟩ := split_at_last_slash hsame h.no_slash h'.no_slash
  refine ⟨String.toList_inj.1 ?_, String.toList_inj.1 hback⟩
  rw [hstart, hstart', hfront]

/-- The last slash of a composed handle is the one that stands between prefix and number. -/
theorem splitsAtLastSlash_compose (site : String) (n : Int) :
    SplitsAtLastSlash (compose site n) (withTrailingSlash site) (toString n) where
  append_eq := rfl
  slash := getLast?_withTrailingSlash site
  no_slash := slash_not_mem_toString n

theorem splitsAtLastSlash_compose_iff {site front back : String} {n : Int} :
    SplitsAtLastSlash (compose site n) front back ↔
      front = withTrailingSlash site ∧ back = toString n := by
  constructor
  · intro h
    exact h.unique (splitsAtLastSlash_compose site n)
  · rintro ⟨rfl, rfl⟩
    exact splitsAtLastSlash_compose site n

/-- Handles are the same exactly if their numbers are, and their prefixes with the slash. -/
theorem compose_eq_compose_iff {p q : String} {m n : Int} :
    compose p m = compose q n ↔ m = n ∧ withTrailingSlash p = withTrailingSlash q := by
  constructor
  · intro h
    have hsplit := splitsAtLastSlash_compose p m
    rw [h, splitsAtLastSlash_compose_iff] at hsplit
    exact ⟨suffix_of_compose_eq h, hsplit.1⟩
  · rintro ⟨rfl, hslash⟩
    rw [compose, hslash, compose]

/-! ### Prefixes with and without their slash -/

/-- Prefixes are the same with their slash if they are the same without, or if one of them is the
other, which has none, with a slash added. -/
theorem withTrailingSlash_eq_iff {p q : String} :
    withTrailingSlash p = withTrailingSlash q ↔
      p = q ∨ (p.toList.getLast? ≠ some '/' ∧ q = p ++ "/") ∨
        (q.toList.getLast? ≠ some '/' ∧ p = q ++ "/") := by
  constructor
  · intro h
    by_cases hp : p.toList.getLast? = some '/'
    · rw [withTrailingSlash_of_slash hp] at h
      by_cases hq : q.toList.getLast? = some '/'
      · rw [withTrailingSlash_of_slash hq] at h
        exact .inl h
      · rw [withTrailingSlash_of_no_slash hq] at h
        exact .inr (.inr ⟨hq, h⟩)
    · rw [withTrailingSlash_of_no_slash hp] at h
      by_cases hq : q.toList.getLast? = some '/'
      · rw [withTrailingSlash_of_slash hq] at h
        exact .inr (.inl ⟨hp, h.symm⟩)
      · rw [withTrailingSlash_of_no_slash hq] at h
        exact .inl ((String.append_left_inj "/").1 h)
  · rintro (rfl | ⟨hp, rfl⟩ | ⟨hq, rfl⟩)
    · rfl
    · rw [withTrailingSlash_of_no_slash hp, withTrailingSlash_of_slash (by simp)]
    · rw [withTrailingSlash_of_no_slash hq, withTrailingSlash_of_slash (by simp)]

/-! ### Numbers that are too long -/

/-- A handle is composed of the numbers that are not too long to be written. -/
theorem compose?_eq_ok {site handle : String} {n : Int} :
    compose? site n = .ok handle ↔ n.natAbs < 10 ^ longestNumber ∧ compose site n = handle := by
  have hdigits : (Nat.toDigits 10 n.natAbs).length ≤ longestNumber ↔
      n.natAbs < 10 ^ longestNumber :=
    Nat.length_toDigits_le_iff (by decide) (by decide)
  rw [← hdigits]
  unfold compose?
  split <;> simp_all

/-- The others are refused, whatever the prefix is. -/
theorem compose?_eq_error {site : String} {n : Int} (h : 10 ^ longestNumber ≤ n.natAbs) :
    compose? site n = .error tooLong := by
  refine if_neg fun hshort => ?_
  rw [Nat.length_toDigits_le_iff (by decide) (by decide)] at hshort
  exact Nat.not_lt.2 h hshort

/-- A sequence counts in 64 bits, so that its values can be written. -/
theorem compose?_of_sequence (site : String) {n : Int} (h : n.natAbs < 2 ^ 64) :
    compose? site n = .ok (compose site n) := by
  refine compose?_eq_ok.2 ⟨lt_of_lt_of_le h ?_, rfl⟩
  calc 2 ^ 64 ≤ 10 ^ 20 := by decide
    _ ≤ 10 ^ longestNumber := Nat.pow_le_pow_right (by decide) (by decide)

/-! ### Decoding -/

/-- **Composed handles decode uniquely.** Take any two prefixes, with whatever slashes and digits,
and any two numbers.

* A handle is composed of a number if the number has no more than 4300 digits. Of a longer one none
  is, whatever the prefix is.
* The handles composed of two numbers are the same if and only if the numbers are the same and the
  prefixes with their slash are.
* This is so for two prefixes exactly when they are the same, or one of them is the other one, which
  does not end in a slash, with a slash added.
* What goes up to the last slash of the handle, the slash included, is the prefix with its slash,
  and the rest is the decimal spelling of the number. There is no other such cut and no other such
  spelling. -/
theorem composed_handles_decode_uniquely (p q : String) (m n : Int) :
    ((m.natAbs < 10 ^ longestNumber → ∃ handle, compose? p m = .ok handle) ∧
      (10 ^ longestNumber ≤ m.natAbs → compose? p m = .error tooLong)) ∧
    (∀ handle handle', compose? p m = .ok handle → compose? q n = .ok handle' →
      (handle = handle' ↔ m = n ∧ withTrailingSlash p = withTrailingSlash q)) ∧
    (withTrailingSlash p = withTrailingSlash q ↔
      p = q ∨ (p.toList.getLast? ≠ some '/' ∧ q = p ++ "/") ∨
        (q.toList.getLast? ≠ some '/' ∧ p = q ++ "/")) ∧
    (∀ handle, compose? p m = .ok handle → ∀ front back, SplitsAtLastSlash handle front back ↔
      front = withTrailingSlash p ∧ back = toString m) ∧
    ∀ decimal, Text.IsDecimal m decimal ↔ decimal = toString m := by
  refine ⟨⟨fun hshort => ⟨_, compose?_eq_ok.2 ⟨hshort, rfl⟩⟩, compose?_eq_error⟩, ?_,
    withTrailingSlash_eq_iff, ?_, fun _ => Text.isDecimal_iff⟩
  · intro handle handle' hhandle hhandle'
    obtain ⟨-, rfl⟩ := compose?_eq_ok.1 hhandle
    obtain ⟨-, rfl⟩ := compose?_eq_ok.1 hhandle'
    exact compose_eq_compose_iff
  · intro handle hhandle front back
    obtain ⟨-, rfl⟩ := compose?_eq_ok.1 hhandle
    exact splitsAtLastSlash_compose_iff

/-- Digits do not wander over the slash. -/
example : compose "20.1" 51 ≠ compose "20.1/5" 1 ∧ compose "20.1/" (-7) = compose "20.1" (-7) := by
  decide +kernel

/-- Two numbers of 4301 digits: no handle is composed of either, so there is none to come apart. -/
theorem no_handle_of_long_numbers :
    let n : Int := 10 ^ longestNumber
    n ≠ n + 1 ∧ compose? "a" n = .error tooLong ∧ compose? "a" (n + 1) = .error tooLong := by
  intro n
  have hn : n = ((10 ^ longestNumber : Nat) : Int) := by push_cast; rfl
  refine ⟨by omega, compose?_eq_error ?_, compose?_eq_error ?_⟩
  · rw [hn, Int.natAbs_natCast]
  · rw [hn]
    omega

end Handle

end PersistentId

import Mathlib
import PersistentId.Handle

/-!
# PersistentId.Proofs.Handle.Composition

A handle that `compose_handle` made can be taken apart again: what stands behind its last slash
is the decimal suffix, whatever the prefix was.

The decimal spelling of a number has no slash, and a composed handle has one right in front
of it. So two handles with different suffixes differ *even under different prefixes*. This
is what keeps handles apart while a site changes its prefix, and the only fact about the
text of handles that the invariants of minting rest on.
-/

namespace PersistentId

namespace Handle

/-- The text behind the last slash, all of it where there is none. -/
def suffix (handle : String) : String :=
  String.ofList (handle.toList.reverse.takeWhile (· != '/')).reverse

/-- A number is spelled with digits and a sign in front of them. -/
theorem not_mem_toString {c : Char} (hdigit : c.isDigit = false) (hsign : c ≠ '-') (n : Int) :
    c ∉ (toString n).toList := by
  have hdigits : ∀ k : Nat, c ∉ (Nat.repr k).toList := by
    intro k hk
    rw [Nat.toList_repr] at hk
    rw [Nat.isDigit_of_mem_toDigits (by decide) (by decide) hk] at hdigit
    cases hdigit
  rw [Int.toString_eq_repr, Int.repr_eq_if]
  split
  · exact hdigits n.toNat
  · rw [String.toList_append, List.mem_append]
    rintro (h | h)
    · exact hsign (List.mem_singleton.1 h)
    · exact hdigits (-n).toNat h

/-- So there is no slash in it. -/
theorem slash_not_mem_toString (n : Int) : '/' ∉ (toString n).toList :=
  not_mem_toString (by decide) (by decide) n

/-- A text that was given its slash ends in one, as a list of characters. -/
theorem exists_toList_withTrailingSlash (s : String) :
    ∃ start, (withTrailingSlash s).toList = start ++ ['/'] :=
  List.getLast?_eq_some_iff.1 (getLast?_withTrailingSlash s)

/-- A composed handle is not empty, for it has a slash. -/
theorem compose_ne_empty (site : String) (n : Int) : compose site n ≠ "" := by
  obtain ⟨start, hstart⟩ := exists_toList_withTrailingSlash site
  intro h
  have hlist := congrArg String.toList h
  simp [compose, hstart] at hlist

/-- A number is spelled with some character. -/
theorem toList_toString_ne_nil (n : Int) : (toString n).toList ≠ [] := by
  rw [Int.toString_eq_repr, Int.repr_eq_if]
  split
  · rw [Nat.toList_repr]
    exact Nat.toDigits_ne_nil
  · simp

/-- A composed handle does not end in a blank, for it ends in its number. -/
theorem getLast?_compose (site : String) (n : Int) :
    ∃ c, (compose site n).toList.getLast? = some c ∧ c ≠ ' ' := by
  have hdecimal := toList_toString_ne_nil n
  refine ⟨(toString n).toList.getLast hdecimal, ?_, ?_⟩
  · rw [compose, String.toList_append, List.getLast?_append, List.getLast?_eq_some_getLast hdecimal]
    rfl
  · exact ne_of_mem_of_not_mem (List.getLast_mem hdecimal)
      (not_mem_toString (by decide) (by decide) n)

/-- The suffix of a composed handle is the decimal spelling it was composed with. -/
@[simp] theorem suffix_compose (site : String) (n : Int) :
    suffix (compose site n) = toString n := by
  obtain ⟨start, hstart⟩ := exists_toList_withTrailingSlash site
  have hdecimal : ∀ c ∈ (toString n).toList.reverse, (c != '/') = true := by
    intro c hc
    rw [List.mem_reverse] at hc
    simpa using ne_of_mem_of_not_mem hc (slash_not_mem_toString n)
  have hrev : (compose site n).toList.reverse =
      (toString n).toList.reverse ++ '/' :: start.reverse := by
    simp [compose, hstart]
  unfold suffix
  rw [hrev, List.takeWhile_append_of_pos hdecimal, List.takeWhile_cons_of_neg (by simp)]
  simp

/-- Where two texts are the same, what stands behind their last slashes is the same, and so is
what stands in front of them. -/
theorem split_at_last_slash {a b c d : List Char} (h : a ++ '/' :: b = c ++ '/' :: d)
    (hb : '/' ∉ b) (hd : '/' ∉ d) : a = c ∧ b = d := by
  rcases List.append_eq_append_iff.1 h with ⟨more, hc, hrest⟩ | ⟨more, ha, hrest⟩
  · cases more with
    | nil => exact ⟨by simpa using hc.symm, by simpa using hrest⟩
    | cons x more =>
        obtain ⟨-, rfl⟩ := List.cons.inj hrest
        exact absurd (by simp) hb
  · cases more with
    | nil => exact ⟨by simpa using ha, by simpa using hrest.symm⟩
    | cons x more =>
        obtain ⟨-, rfl⟩ := List.cons.inj hrest
        exact absurd (by simp) hd

/-- What follows behind a text at the start of a handle. -/
def remainder (base handle : String) : List Char := handle.toList.drop base.toList.length

/-- A composed handle goes on behind the prefix that it was composed with, and behind no other
one, without a further slash. -/
theorem remainder_compose_iff (base q : String) (n : Int) :
    (withTrailingSlash base).toList <+: (compose q n).toList ∧
        '/' ∉ remainder (withTrailingSlash base) (compose q n) ↔
      withTrailingSlash q = withTrailingSlash base := by
  unfold remainder
  constructor
  · rintro ⟨⟨rest, hrest⟩, hslash⟩
    rw [← hrest, List.drop_left] at hslash
    obtain ⟨start, hstart⟩ := exists_toList_withTrailingSlash base
    obtain ⟨start', hstart'⟩ := exists_toList_withTrailingSlash q
    rw [compose, String.toList_append, hstart, hstart', List.append_assoc,
      List.append_assoc] at hrest
    have hsame := (split_at_last_slash hrest hslash (slash_not_mem_toString n)).1
    rw [← String.toList_inj, hstart, hstart', hsame]
  · intro h
    rw [compose, h, String.toList_append, List.drop_left]
    exact ⟨List.prefix_append _ _, slash_not_mem_toString n⟩

/-- Handles composed with different numbers are different, under whatever prefixes. -/
theorem suffix_of_compose_eq {p q : String} {m n : Int} (h : compose p m = compose q n) :
    m = n := by
  have hdecimal : toString m = toString n := by
    rw [← suffix_compose p m, h, suffix_compose]
  rwa [Int.toString_eq_repr, Int.toString_eq_repr, Int.repr_inj] at hdecimal

end Handle

end PersistentId

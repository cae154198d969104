import PersistentId.Text.Numeral
import PersistentId.Text.Utf8

/-!
# PersistentId.Text.Percent

Percent escapes: an octet written as a percent sign and two hexadecimal digits.

Design points:

* Characters are escaped octet by octet, with digits in upper case.
* Decoding replaces the escapes of a *whole* character. A percent sign without two
  digits, and octets that belong to no character, stay as they were written.
* Decoding can leave some characters escaped (`decodeExcept`), so that the escape of
  a delimiter is still told apart from the delimiter.
* A text can also be taken apart into octets (`octets`), where an escape is the octet it
  stands for, whether a character comes of it or not.
-/

namespace PersistentId

namespace Percent

/-- A hexadecimal digit, in upper case. -/
def upperDigit (n : Nat) : Char := if n < 10 then Char.ofNat (48 + n) else Char.ofNat (55 + n)

/-- The escape of one octet. -/
def escapeOctet (n : Nat) : List Char := ['%', upperDigit (n / 16), upperDigit (n % 16)]

/-- The escapes of one character. -/
def escape (c : Char) : List Char := (Utf8.encode c).flatMap escapeOctet

/-- The octet of the escape that stands in front, and what follows it. -/
def octet? : List Char → Option (Nat × List Char)
  | '%' :: a :: b :: rest =>
    match Text.hexValue? a, Text.hexValue? b with
    | some x, some y => some (x * 16 + y, rest)
    | _, _ => none
  | _ => none

theorem octet?_length {s rest : List Char} {n : Nat} (h : octet? s = some (n, rest)) :
    s.length = rest.length + 3 := by
  unfold octet? at h
  split at h
  · split at h
    · cases h; rfl
    · exact nomatch h
  · exact nomatch h

theorem octet?_shorter {s rest : List Char} {n : Nat} (h : octet? s = some (n, rest)) :
    rest.length < s.length := by
  rw [octet?_length h]
  exact Nat.lt_add_of_pos_right (by decide)

/-- The octets of a text: those of its escapes, and those of the characters between
them. -/
def octets (s : List Char) : List Nat :=
  match s with
  | [] => []
  | c :: rest =>
    match h : octet? (c :: rest) with
    | some (n, after) =>
      have : after.length < rest.length + 1 := octet?_shorter h
      n :: octets after
    | none => Utf8.encode c ++ octets rest
  termination_by s.length

/-- The octets of a given number of escapes that stand in front, and what follows
them. -/
def octets? : Nat → List Char → Option (List Nat × List Char)
  | 0, s => some ([], s)
  | k + 1, s => do
    let (n, s) ← octet? s
    let (ns, s) ← octets? k s
    return (n :: ns, s)

/-- The character whose escapes stand in front, and what follows them. -/
def character? (s : List Char) : Option (Char × List Char) := do
  let (first, _) ← octet? s
  let (octets, rest) ← octets? (Utf8.width first) s
  let c ← Utf8.decode? octets
  if rest.length < s.length then some (c, rest) else none

theorem character?_length {s rest : List Char} {c : Char} (h : character? s = some (c, rest)) :
    rest.length < s.length := by
  simp only [character?, Option.bind_eq_bind, Option.bind_eq_some_iff] at h
  obtain ⟨_, _, ⟨octets, r⟩, _, d, _, h⟩ := h
  split at h
  · cases h; assumption
  · exact nomatch h

/-- Decodes the escapes of every character but those of a given kind, whose escapes
take upper-case digits. -/
def decodeExcept (kept : Char → Bool) (s : List Char) : List Char :=
  match s with
  | [] => []
  | c :: rest =>
    match h : character? (c :: rest) with
    | some (d, after) =>
      have : after.length < rest.length + 1 := character?_length h
      (if kept d then escape d else [d]) ++ decodeExcept kept after
    | none => c :: decodeExcept kept rest
  termination_by s.length

/-- Decodes the escapes of every character. -/
def decode (s : List Char) : List Char := decodeExcept (fun _ => false) s

end Percent

end PersistentId

import Mathlib
import PersistentId.Http.RequestLine

/-!
# PersistentId.Proofs.Service.RequestLine

What the reading of a request line owes to its method.

A method is read off the front of the line, and what is left is the target and the protocol. The
method has a say in what follows at two places. A tunnel names an authority in place of a target,
so `CONNECT` is read in a way of its own. And a method is looked up among those of the protocol that
the line names. A line ends in the protocol it was composed with, `HTTP/1.1`, and another one in
front of it is a fault at its end, unless a line break comes between them
(`RequestLine.names_http_of_readProtocol`).

So, `CONNECT` and line breaks apart, a target is read with one method as it is read with another
(`RequestLine.read_congr`).
-/

namespace PersistentId

namespace RequestLine

/-! ### Words -/

/-- The words that a character goes on with are those that it stands in front of. -/
theorem mem_behind {words : List (List Char)} {c : Char} {v : List Char} :
    (v ∈ words.filterMap fun w => if w.head? = some c then some (w.drop 1) else none) ↔
      c :: v ∈ words := by
  rw [List.mem_filterMap]
  constructor
  · rintro ⟨w, hw, hdrop⟩
    cases w with
    | nil => simp at hdrop
    | cons d w =>
        simp only [List.head?_cons, Option.some.injEq, List.drop_one, List.tail_cons,
          Option.ite_none_right_eq_some] at hdrop
        obtain ⟨rfl, rfl⟩ := hdrop
        exact hw
  · exact fun h => ⟨c :: v, h, by simp⟩

/-- A word at the front of a text is read, if no word goes on with what stands behind it. -/
theorem follow_of_mem {words : List (List Char)} {w : List Char} (hw : w ∈ words) {c : Char}
    (hc : ∀ v ∈ words, c ∉ v) (rest : List Char) :
    follow words (w ++ c :: rest) = (true, c :: rest) := by
  induction w generalizing words with
  | nil =>
      have hnone : (words.filterMap fun w => if w.head? = some c then some (w.drop 1) else none) =
          [] :=
        List.eq_nil_iff_forall_not_mem.2 fun v hv =>
          hc (c :: v) (mem_behind.1 hv) List.mem_cons_self
      rw [List.nil_append, follow, hnone]
      simpa using hw
  | cons x w ih =>
      rw [List.cons_append, follow]
      split
      · next hnone =>
          have hmem := mem_behind.2 hw
          rw [hnone] at hmem
          cases hmem
      · refine ih (mem_behind.2 hw) fun v hv hcv => ?_
        exact hc (x :: v) (mem_behind.1 hv) (List.mem_cons_of_mem x hcv)

/-- What was read is one of the words, and it stands in front of what follows. -/
theorem word_of_follow {words : List (List Char)} {s rest : List Char}
    (h : follow words s = (true, rest)) : ∃ w ∈ words, s = w ++ rest := by
  induction s generalizing words with
  | nil =>
      simp only [follow, Prod.mk.injEq, List.contains_iff_mem] at h
      exact ⟨[], h.1, h.2⟩
  | cons c s ih =>
      rw [follow] at h
      split at h
      · simp only [Prod.mk.injEq, List.contains_iff_mem] at h
        exact ⟨[], h.1, h.2⟩
      · obtain ⟨w, hw, rfl⟩ := ih h
        exact ⟨c :: w, mem_behind.1 hw, rfl⟩

@[simp] theorem readPart_append (front unread : List Char) :
    readPart (front ++ unread) unread = front := by
  simp [readPart]

/-! ### Octets -/

/-- The octets behind the method of a line, and behind the blank that follows it. -/
def behindMethod (target : String) : List Char :=
  ((target ++ " HTTP/1.1").toList.flatMap Utf8.encode).map Char.ofNat

/-- A line is the octets of its method, a blank, and what is behind it. -/
theorem octets_of_mem {method : String} (h : method ∈ httpMethods) (target : String) :
    octets method target = method.toList ++ ' ' :: behindMethod target := by
  have hascii : ∀ m ∈ httpMethods, (m.toList.flatMap Utf8.encode).map Char.ofNat = m.toList := by
    decide +kernel
  have hblank : (" ".toList.flatMap Utf8.encode).map Char.ofNat = [' '] := by decide
  unfold octets behindMethod
  simp only [String.append_assoc, String.toList_append, List.flatMap_append, List.map_append,
    hascii method h, hblank, List.singleton_append]

/-- It ends in the protocol. -/
theorem http_suffix_behindMethod (target : String) :
    "HTTP/1.1".toList <:+ behindMethod target := by
  have htail : (" HTTP/1.1".toList.flatMap Utf8.encode).map Char.ofNat =
      ' ' :: "HTTP/1.1".toList := by decide +kernel
  unfold behindMethod
  rw [String.toList_append, List.flatMap_append, List.map_append, htail]
  exact (List.suffix_cons _ _).trans (List.suffix_append _ _)

/-- Where a target has no carriage return, its octets have none. -/
theorem return_not_mem_behindMethod {target : String} (h : '\r' ∉ target.toList) :
    '\r' ∉ behindMethod target := by
  have hone : ∀ c : Char, '\r' ∈ (Utf8.encode c).map Char.ofNat → c = '\r' := by
    intro c hmem
    obtain ⟨n, hn, hchar⟩ := List.mem_map.1 hmem
    have hn13 : n = 13 := by
      have hnat := congrArg Char.toNat hchar
      rw [Char.toNat_ofNat] at hnat
      split at hnat
      · exact hnat
      · cases hnat
    subst hn13
    have hc : c.toNat = 13 := by
      simp only [Utf8.encode] at hn
      split at hn
      · exact (List.mem_singleton.1 hn).symm
      · split at hn
        · simp at hn; omega
        · split at hn
          · simp at hn; omega
          · simp at hn; omega
    rw [← Char.ofNat_toNat c, hc]
  intro hmem
  unfold behindMethod at hmem
  obtain ⟨n, hn, hchar⟩ := List.mem_map.1 hmem
  obtain ⟨c, hc, hn⟩ := List.mem_flatMap.1 hn
  obtain rfl := hone c (List.mem_map.2 ⟨n, hn, hchar⟩)
  rw [String.toList_append, List.mem_append] at hc
  rcases hc with hc | hc
  · exact h hc
  · revert hc
    decide

/-! ### The parts of a line -/

/-- Every method of requests over the hypertext protocol is read off the front of a line. -/
theorem readMethod_of_mem {method : String} (h : method ∈ httpMethods) (target : String) :
    readMethod ((octets method target).dropWhile fun c => c = '\r' ∨ c = '\n') =
      .ok (method.toList, (behindMethod target).dropWhile (· = ' ')) := by
  have hstart : ∀ m ∈ httpMethods, (m.toList.head?.any fun c => c ≠ '\r' ∧ c ≠ '\n') = true := by
    decide +kernel
  have hblank : ∀ v ∈ methods, ' ' ∉ v := by decide +kernel
  have hmem : method.toList ∈ methods := List.mem_map_of_mem (List.mem_append_left _ h)
  have hdrop : (method.toList ++ ' ' :: behindMethod target).dropWhile
      (fun c => c = '\r' ∨ c = '\n') = method.toList ++ ' ' :: behindMethod target := by
    have hfirst := hstart method h
    cases hchars : method.toList with
    | nil =>
        rw [hchars] at hfirst
        cases hfirst
    | cons c w =>
        rw [hchars] at hfirst
        rw [List.cons_append, List.dropWhile_cons_of_neg (by simpa using hfirst)]
  rw [octets_of_mem h, hdrop, readMethod, follow_of_mem hmem hblank]
  simp
/-- What follows a target stands at the end of the line. -/
theorem suffix_of_afterTarget {part : Part} {s unread : List Char}
    (h : afterTarget part s = .ok unread) : unread <:+ s := by
  induction s generalizing part with
  | nil =>
      cases h
      exact List.nil_suffix
  | cons c s ih =>
      rw [afterTarget] at h
      split at h
      · exact (ih h).trans (List.suffix_cons c s)
      · cases h
        exact List.suffix_rfl
      · cases h
      · cases h

/-- Nothing is wrong with a method of the hypertext protocol where this is what the line names. -/
theorem methodFault?_http {method : String} (h : method ∈ httpMethods) :
    methodFault? method.toList "HTTP/".toList = none := by
  simp [methodFault?, h]

/-- A version that ends the line has three octets. -/
theorem length_of_readVersion {version : List Char} (h : readVersion version = .ok ())
    (hreturn : '\r' ∉ version) : version.length = 3 := by
  unfold readVersion at h
  split at h
  · split at h
    · cases h
    · split at h
      · split at h
        · cases h
        · split at h
          · cases h
          · split at h
            · rfl
            · simp at hreturn
            · cases h
            · cases h
      · cases h
      · cases h
  · cases h

/-- A protocol and a version at the end of a line are those that the line was composed with. -/
theorem http_of_suffix {word version line : List Char}
    (hword : word ∈ ["HTTP/".toList, "RTSP/".toList, "ICE/".toList]) (hversion : version.length = 3)
    (h : word ++ version <:+ line) (hline : "HTTP/1.1".toList <:+ line) :
    word = "HTTP/".toList := by
  have hshort : ∀ w ∈ ["HTTP/".toList, "RTSP/".toList, "ICE/".toList], w.length ≤ 5 := by decide
  have hend : word ++ version <:+ "HTTP/1.1".toList := by
    refine List.suffix_of_suffix_length_le h hline ?_
    rw [List.length_append, hversion]
    exact Nat.add_le_add_right (hshort word hword) 3
  rw [List.suffix_iff_eq_drop, List.length_append, hversion] at hend
  have hfirst := congrArg List.head? hend
  simp only [List.mem_cons, List.not_mem_nil, or_false] at hword
  -- The other protocols begin with another octet.
  rcases hword with rfl | rfl | rfl
  · rfl
  · cases show some 'R' = some 'H' from hfirst
  · cases show some 'I' = some 'T' from hfirst

/-- What follows a target is read with one method of the hypertext protocol as with any other
method, unless there is a carriage return in it. -/
theorem readProtocol_congr {method method' : String} (hmethod : method' ∈ httpMethods)
    {s line : List Char} (hsuffix : s <:+ line) (hline : "HTTP/1.1".toList <:+ line)
    (hreturn : '\r' ∉ line) (h : readProtocol method.toList s = .ok ()) :
    readProtocol method'.toList s = .ok () := by
  have hreturn' : '\r' ∉ s := fun hmem => hreturn (hsuffix.mem hmem)
  unfold readProtocol at h ⊢
  split at h
  · simp at hreturn'
  · simp at hreturn'
  · exact h
  · rfl
  · next hcrlf hcr hlf hnil =>
      generalize ht : s.dropWhile (· = ' ') = t at h ⊢
      have hsuffix' : t <:+ line := ht ▸ (List.dropWhile_suffix _).trans hsuffix
      rcases hfollow : follow ["HTTP/".toList, "RTSP/".toList, "ICE/".toList] t with ⟨read, version⟩
      cases read with
      | false =>
          simp only [hfollow] at h
          cases h
      | true =>
          simp only [hfollow] at h ⊢
          obtain ⟨word, hword, rfl⟩ := word_of_follow hfollow
          split at h
          · cases h
          · have hversion : '\r' ∉ version := fun hmem =>
              hreturn (hsuffix'.mem (List.mem_append_right word hmem))
            have hlength := length_of_readVersion h hversion
            obtain rfl := http_of_suffix hword hlength hsuffix' hline
            rw [readPart_append, methodFault?_http hmethod]
            exact h

/-! ### Lines -/

/-- A line is read in these parts, if its method is one of the hypertext protocol. -/
theorem read_eq_ok {method target : String} (h : method ∈ httpMethods) {line : RequestLine} :
    read (octets method target) = .ok line ↔
      ∃ unread, afterTarget (.first method.toList) ((behindMethod target).dropWhile (· = ' ')) =
          .ok unread ∧
        (readPart ((behindMethod target).dropWhile (· = ' ')) unread).length ≤
          Fault.longestTarget ∧
        readProtocol method.toList unread = .ok () ∧
        line = ⟨method, readPart ((behindMethod target).dropWhile (· = ' ')) unread⟩ := by
  unfold read
  rw [readMethod_of_mem h]
  generalize (behindMethod target).dropWhile (· = ' ') = rest
  simp only [bind, Except.bind]
  cases htarget : afterTarget (.first method.toList) rest with
  | error misread => simp
  | ok unread =>
      simp only [Except.ok.injEq, exists_eq_left']
      by_cases hlong : Fault.longestTarget < (readPart rest unread).length
      · simp only [hlong, if_true]
        exact iff_of_false nofun fun hall => absurd hlong (not_lt.2 hall.1)
      · rw [if_neg hlong]
        cases hprotocol : readProtocol method.toList unread with
        | error misread => simp
        | ok _ =>
            simp only [String.ofList_toList, not_lt.1 hlong, true_and]
            exact ⟨fun hline => (Except.ok.inj hline).symm, fun hline => congrArg _ hline.symm⟩

/-- Whoever reads such a line finds the method that it was composed with. -/
theorem method_of_read {method target : String} (h : method ∈ httpMethods) {line : RequestLine}
    (hread : read (octets method target) = .ok line) : line.method = method := by
  obtain ⟨unread, -, -, -, rfl⟩ := (read_eq_ok h).1 hread
  rfl

/-- **A target is read with one method as with another**, if neither of them asks for a tunnel and
the target has no carriage return. -/
theorem read_congr {method method' target : String} (h : method ∈ httpMethods)
    (h' : method' ∈ httpMethods) (hconnect : method ≠ "CONNECT") (hconnect' : method' ≠ "CONNECT")
    (hreturn : '\r' ∉ target.toList) {line : RequestLine}
    (hread : read (octets method target) = .ok line) :
    read (octets method' target) = .ok ⟨method', line.target⟩ := by
  obtain ⟨unread, htarget, hlength, hprotocol, rfl⟩ := (read_eq_ok h).1 hread
  have hfirst : ∀ m : String, m ≠ "CONNECT" → Part.first m.toList = .start :=
    fun m hm => if_neg fun hchars => hm (String.toList_inj.1 hchars)
  rw [hfirst method hconnect] at htarget
  refine (read_eq_ok h').2 ⟨unread, ?_, hlength, ?_, rfl⟩
  · rw [hfirst method' hconnect', htarget]
  · have hsuffix := (suffix_of_afterTarget htarget).trans (List.dropWhile_suffix _)
    exact readProtocol_congr h' hsuffix (http_suffix_behindMethod target)
      (return_not_mem_behindMethod hreturn) hprotocol

end RequestLine

end PersistentId

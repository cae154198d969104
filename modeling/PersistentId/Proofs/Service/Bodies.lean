import Mathlib
import PersistentId.Proofs.Json.Reading
import PersistentId.Proofs.Service.Batch

/-!
# PersistentId.Proofs.Service.Bodies

**Bodies carry their text faithfully**, whatever the characters of the text are.

The bodies are those of `raise_for_handle_exception`, `handle_internal_resolve` and
`handle_internal_handles`. All that a body says is in texts: a message, the name of a failure,
handles, addresses. So every body is the written form of a value of texts, lists and objects, and
what is known of such values (`Json.read_render`) holds of what is sent.
-/

namespace PersistentId

/-- A body in plain ASCII that is JSON, and is read as a given value. -/
structure Carries (body : String) (value : Json) : Prop where
  ascii : Utf8.isAscii body.toList = true
  document : Json.IsDocument body
  read : Json.read body = .ok value

namespace Json

theorem carries_render {j : Json} (h : OfTexts j) : Carries j.render j where
  ascii := by rw [render, String.toList_ofList]; exact h.isAscii_chars
  document := h.isDocument_render
  read := read_render h

theorem ofTexts_list_text (ss : List String) : OfTexts (.list (ss.map .text)) := by
  refine .list fun x hx => ?_
  obtain ⟨s, -, rfl⟩ := List.mem_map.1 hx
  exact .text s

end Json

theorem ErrorCategory.label_injective {c d : ErrorCategory} (h : c.label = d.label) : c = d := by
  have hlabel := congrArg ErrorCategory.ofLabel? h
  simpa using hlabel

namespace Response

open Json

/-- What a body tells of a failure of the registry. -/
def ofFailure (e : HandleError) : Json :=
  .object [("error", .text e.message), ("error_type", .text e.category.label)]

theorem carries_ofError (e : HandleError) : Carries (ofError e).body (ofFailure e) :=
  carries_render (.object (by simp) (by simp [OfTexts.text]))

theorem carries_unknownHandle (handle : String) :
    Carries (unknownHandle handle).body
      (.object [("error", .text "Handle not found"), ("handle", .text handle)]) :=
  carries_render (.object (by simp) (by simp [OfTexts.text]))

/-- Two failures have the same body where nothing that the body says tells them apart. -/
theorem body_ofError_inj {e e' : HandleError} :
    (ofError e).body = (ofError e').body ↔ e.category = e'.category ∧ e.message = e'.message := by
  constructor
  · intro h
    have hread := (carries_ofError e).read
    rw [h, (carries_ofError e').read] at hread
    simp only [ofFailure, Except.ok.injEq, Json.object.injEq,
      List.cons.injEq, Prod.mk.injEq, Json.text.injEq, true_and, and_true] at hread
    exact ⟨(ErrorCategory.label_injective hread.2).symm, hread.1.symm⟩
  · rintro ⟨hcategory, hmessage⟩
    simp only [ofError, hcategory, hmessage]

end Response

namespace Http

open Json

theorem ofTexts_entry (handle url : String) : OfTexts (entry handle url) :=
  .object (by simp) (by simp [OfTexts.text])

theorem ofTexts_entries (r : Registry) (db : Database) (handles : List String) :
    OfTexts (.list (handles.filterMap (entryOf? r db))) := by
  refine .list fun x hx => ?_
  obtain ⟨handle, -, hentry⟩ := List.mem_filterMap.1 hx
  obtain ⟨url, -, rfl⟩ := Option.map_eq_some_iff.1 hentry
  exact ofTexts_entry handle url

variable {site : Site} {db : Database} {target : String} {t : Target}

/-- A handle that nobody registered is told so. -/
theorem unknown_of_redirect {handle : String}
    (h : asked? "GET" target = some ⟨"GET", t, .redirect handle⟩)
    (hnone : ((registryOf site).resolveUrl db (some handle)).result = .ok none) :
    (serve site db "GET" target).1 = .unknownHandle handle := by
  rw [serve_redirect h, hnone]
  rfl

/-- A redirect has status 404 for a handle that nobody registered, and only then. -/
theorem status_redirect_eq_404 {handle : String}
    (h : asked? "GET" target = some ⟨"GET", t, .redirect handle⟩) :
    (serve site db "GET" target).1.status = 404 ↔
      ((registryOf site).resolveUrl db (some handle)).result = .ok none := by
  refine ⟨fun hstatus => ?_, fun hnone => by rw [unknown_of_redirect h hnone]; rfl⟩
  rw [serve_redirect h] at hstatus
  cases hresult : ((registryOf site).resolveUrl db (some handle)).result with
  | ok url =>
      rw [hresult] at hstatus
      cases url with
      | none => rfl
      | some url =>
          -- An address leads to a redirect, or to none that can be written.
          simp only [ofLookup, leadFrom, follow] at hstatus
          split at hstatus
          · exact absurd hstatus (show (302 : Nat) ≠ 404 by decide)
          · exact absurd hstatus (show (500 : Nat) ≠ 404 by decide)
  | error failure =>
      rw [hresult] at hstatus
      cases failure with
      | handle e =>
          simp only [ofLookup, Response.status_ofError] at hstatus
          cases hcategory : e.category <;> rw [hcategory] at hstatus <;>
            exact absurd hstatus (by decide)
      | store e => exact absurd hstatus (show (500 : Nat) ≠ 404 by decide)
      | setting e => exact absurd hstatus (show (500 : Nat) ≠ 404 by decide)

/-- A handle that the registry cannot resolve is told the failure. -/
theorem refused_of_redirect {handle : String} {e : HandleError}
    (h : asked? "GET" target = some ⟨"GET", t, .redirect handle⟩)
    (hfailure : ((registryOf site).resolveUrl db (some handle)).result = .error (.handle e)) :
    (serve site db "GET" target).1 = .ofError e := by
  rw [serve_redirect h, hfailure]
  rfl

/-- A batch is told its first failure. -/
theorem refused_of_batch {e : HandleError}
    (h : asked? "GET" target = some ⟨"GET", t, .resolve⟩)
    (hfailure : firstFailure (registryOf site) db (t.values "handle") = some (.handle e)) :
    (serve site db "GET" target).1 = .ofError e := by
  rw [serve_batch site db h, sent_batch_of_some site db hfailure]
  rfl

/-- A batch without a failure is answered with its entries. -/
theorem entries_of_batch (h : asked? "GET" target = some ⟨"GET", t, .resolve⟩)
    (hnone : firstFailure (registryOf site) db (t.values "handle") = none) :
    (serve site db "GET" target).1 =
      .json (.list ((t.values "handle").filterMap (entryOf? (registryOf site) db))) := by
  rw [serve_batch site db h]
  exact sent_batch_of_none site db hnone

/-- A listing is answered with the handles that `find_by_prefix` gives. -/
theorem serve_listing {start : String} {handles : List String}
    (h : asked? "GET" target = some ⟨"GET", t, .listing⟩)
    (hstart : (t.values "prefix").head? = some start)
    (hhandles : db.findHandlesWith start = .ok handles) :
    (serve site db "GET" target).1 = .json (.list (handles.map .text)) := by
  rw [serve_of_asked h]
  unfold close respond Registry.handlesWith
  simp only [hstart, hhandles]
  rfl

/-- **Bodies carry their text faithfully.** A body *carries* a value if all its characters are
ASCII, if it is a JSON document, and if it is read as that value. For all settings and every
database:

* the body that is made of a failure of the registry carries its message and the name of its
  category. Any text can be the message in any category, and failures that differ in one of the two
  have different bodies;
* the redirect from a handle that nobody registered, which is what has status 404, has a body that
  carries the handle. From a handle that cannot be resolved it carries the failure;
* a listing has a body that carries the stored handles it asks for, all of them and as the query
  gives them;
* a batch without a failure has a body that carries its entries, each with the handle, its canonical
  form and its address. Any other batch carries the first failure. -/
theorem bodies_carry_their_text (site : Site) (db : Database) :
    let r := registryOf site
    let entries (handles : List String) : List Json := handles.filterMap fun handle =>
      (r.resolveUrl db (some handle)).result.toOption.join.map fun url =>
        .object [("handle", .text handle), ("canonical_form", .text ("hdl:" ++ handle)),
          ("url", .text url)]
    let sent (target : String) := (serve site db "GET" target).1
    (∀ e : HandleError, Carries (Response.ofError e).body
      (.object [("error", .text e.message), ("error_type", .text e.category.label)])) ∧
    (∀ category message, ∃ e : HandleError, e.category = category ∧ e.message = message) ∧
    (∀ e e' : HandleError, (Response.ofError e).body = (Response.ofError e').body ↔
      e.category = e'.category ∧ e.message = e'.message) ∧
    (∀ target t handle, asked? "GET" target = some ⟨"GET", t, .redirect handle⟩ →
      ((sent target).status = 404 ↔ (r.resolveUrl db (some handle)).result = .ok none) ∧
      ((sent target).status = 404 → Carries (sent target).body
        (.object [("error", .text "Handle not found"), ("handle", .text handle)])) ∧
      ∀ e, (r.resolveUrl db (some handle)).result = .error (.handle e) →
        sent target = .ofError e) ∧
    (∀ target t start, asked? "GET" target = some ⟨"GET", t, .listing⟩ →
      (t.values "prefix").head? = some start → ∀ handles, db.findHandlesWith start = .ok handles →
      Carries (sent target).body (.list (handles.map .text))) ∧
    (∀ target t, asked? "GET" target = some ⟨"GET", t, .resolve⟩ →
      (firstFailure r db (t.values "handle") = none → Carries (sent target).body
        (.list (entries (t.values "handle")))) ∧
      ∀ e, firstFailure r db (t.values "handle") = some (.handle e) →
        sent target = .ofError e) := by
  intro r entries sent
  refine ⟨Response.carries_ofError, fun category message => ⟨.other category message, rfl, rfl⟩,
    fun _ _ => Response.body_ofError_inj, ?_, ?_, ?_⟩
  · intro target t handle h
    refine ⟨status_redirect_eq_404 h, fun hstatus => ?_, fun e => refused_of_redirect h⟩
    have hsent : sent target = .unknownHandle handle :=
      unknown_of_redirect h ((status_redirect_eq_404 h).1 hstatus)
    rw [hsent]
    exact Response.carries_unknownHandle handle
  · intro target t start h hstart handles hhandles
    have hsent : sent target = .json (.list (handles.map .text)) := serve_listing h hstart hhandles
    rw [hsent]
    exact carries_render (ofTexts_list_text _)
  · intro target t h
    refine ⟨fun hnone => ?_, fun e => refused_of_batch h⟩
    have hsent : sent target = .json (.list (entries (t.values "handle"))) :=
      entries_of_batch h hnone
    rw [hsent]
    exact carries_render (ofTexts_entries r db _)

/-- A quote, a backslash, a line break and a character beyond the basic plane, in a handle that
nobody registered. -/
example : (Response.unknownHandle "\"\\\n😀").body =
    "\x7b\"error\": \"Handle not found\", \"handle\": \"\\\"\\\\\\n\\ud83d\\ude00\"\x7d" := by
  decide +kernel

end Http

end PersistentId

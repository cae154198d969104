import Mathlib
import PersistentId.World

/-!
# PersistentId.Proofs.Run.View

What the answers to questions depend on.

Whoever asks a database without writing to it can learn three things: what the session sees, in
which order a listing meets it, and whether the database is up (`Database.SameView`). What is
committed and where the sequence stands come to light in no answer of the registry, of the service
or of the command line. Each of these asks through the one below it, so there is one lemma for
each of them, and only the reading of a database is opened.
-/

namespace PersistentId

/-- Two databases that show the session the same. -/
structure Database.SameView (db db' : Database) : Prop where
  session : db.session = db'.session
  scan : db.scan = db'.scan
  reachable : db.reachable = db'.reachable

namespace Database.SameView

variable {db db' : Database}

theorem query (h : db.SameView db') (read : Contents → α) : db.query read = db'.query read := by
  unfold Database.query
  rw [h.session, h.reachable]

/-! ### The registry -/

theorem findRecord (h : db.SameView db') (r : Registry) (handle : Option String) :
    r.findRecord db handle = r.findRecord db' handle := by
  unfold Registry.findRecord Database.findRecord
  simp only [h.query]

theorem resolveUrl (h : db.SameView db') (r : Registry) (handle : Option String) :
    r.resolveUrl db handle = r.resolveUrl db' handle := by
  unfold Registry.resolveUrl
  rw [h.findRecord]

theorem resolveObject (h : db.SameView db') (r : Registry) (handle : Option String) :
    r.resolveObject db handle = r.resolveObject db' handle := by
  unfold Registry.resolveObject
  rw [h.findRecord, h.session]

theorem findHandle (h : db.SameView db') (r : Registry) (object : Resource) :
    r.findHandle db object = r.findHandle db' object := by
  unfold Registry.findHandle Database.findHandle
  simp only [h.query]

theorem findHandlesWith (h : db.SameView db') (start : String) :
    db.findHandlesWith start = db'.findHandlesWith start := by
  unfold Database.findHandlesWith
  rw [h.query, h.scan]

theorem handlesWith (h : db.SameView db') (start : Option String) :
    Registry.handlesWith db start = Registry.handlesWith db' start := by
  unfold Registry.handlesWith
  simp only [h.findHandlesWith]

/-! ### The service -/

theorem resolveAll (h : db.SameView db') (r : Registry) (entries : List Json)
    (handles : List String) :
    Http.resolveAll r db entries handles = Http.resolveAll r db' entries handles := by
  induction handles generalizing entries with
  | nil => rfl
  | cons handle rest ih =>
      unfold Http.resolveAll
      rw [h.resolveUrl]
      congr 1
      funext url
      cases url <;> exact ih _

theorem respond (h : db.SameView db') (r : Registry) (t : Target) (route : Route) :
    Http.respond r db t route = Http.respond r db' t route := by
  cases route with
  | redirect handle => simp only [Http.respond, h.resolveUrl]
  | alive => rfl
  | ready =>
      have hping : db.ping = db'.ping := h.query _
      simp only [Http.respond, hping]
  | resolve => exact h.resolveAll r [] _
  | listing => simp only [Http.respond, h.handlesWith]

theorem serve (h : db.SameView db') (s : Http.Service) (method target : String) :
    s.serve db method target = s.serve db' method target := by
  unfold Http.Service.serve Http.Service.serveTarget Http.Service.dispatch
  simp only [h.respond]

/-- So a request is answered from the settings and what is shown of the database. -/
theorem request (h : db.SameView db') (w : World) (method target : String) :
    World.request { w with db := db } method target =
      World.request { w with db := db' } method target := by
  unfold World.request
  simp only [h.serve]

/-! ### The command line -/

theorem resolvedLines (h : db.SameView db') (r : Registry) (handles : List String) :
    CommandLine.resolveAll r db handles = CommandLine.resolveAll r db' handles := by
  induction handles with
  | nil => rfl
  | cons handle rest ih =>
      unfold CommandLine.resolveAll
      rw [h.resolveUrl, ih]

theorem runCommand (h : db.SameView db') (environment : List (String × String))
    (arguments : List String) :
    CommandLine.run db environment arguments = CommandLine.run db' environment arguments := by
  unfold CommandLine.run CommandLine.Command.run
  simp only [h.resolvedLines, h.findHandlesWith]

end Database.SameView

end PersistentId

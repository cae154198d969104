import PersistentId.Settings.Conversion
import PersistentId.Site
import PersistentId.Text.Lowercase

/-!
# PersistentId.Settings

The settings of the service, `Settings`: what they are, and where their values come from.

Design points:

* A setting is looked up under one or two names. Of several values the first one counts:
  arguments come before the environment, and in both the first name before the second.
* Names are compared in lower case.
* The settings only declare their names, types and defaults. How the sources of values are put
  together (`Source.argument?`, `Source.variable?`, `Source.value?`) is behaviour of the library
  that reads them, written down as it was observed. No theorem rests on it.
* All problems are reported together: those of the settings in a fixed order, then the
  arguments that are no settings, in the order in which they were given.
-/

namespace PersistentId

/-- The settings of the service. -/
structure Settings where
  debug : Bool
  httpPort : Int
  sentryDsn : Option String
  pgDsn : String
  handlePrefix : Option String
  itemUrlPrefix : Option String
  metricsBackend : String
  statsdHost : String
  statsdPort : Int
  deriving DecidableEq, Repr

namespace Settings

/-- The names under which a setting is looked up. -/
structure Names where
  /-- The first name. -/
  main : String
  /-- The names that count behind the first. -/
  others : List String

/-- Every name, in the order in which they count. -/
def Names.all (n : Names) : List String := n.main :: n.others

def debugNames : Names := ⟨"debug", []⟩
def httpPortNames : Names := ⟨"port", []⟩
def sentryDsnNames : Names := ⟨"sentry_dsn", []⟩
def pgDsnNames : Names := ⟨"pg_dsn", ["database_url"]⟩
def handlePrefixNames : Names := ⟨"handle_prefix", ["handle.prefix"]⟩
def itemUrlPrefixNames : Names := ⟨"handle_item_url_prefix", ["handle.item.url.prefix"]⟩
def metricsBackendNames : Names := ⟨"metrics_backend", []⟩
def statsdHostNames : Names := ⟨"TELEGRAF_HOST", []⟩
def statsdPortNames : Names := ⟨"TELEGRAF_PORT", []⟩

/-- The names of all settings, in the order in which problems are reported. -/
def allNames : List Names :=
  [ debugNames, httpPortNames, sentryDsnNames, pgDsnNames, handlePrefixNames, itemUrlPrefixNames,
    metricsBackendNames, statsdHostNames, statsdPortNames ]

/-! ### Sources -/

/-- Where values come from. -/
structure Source where
  environment : List (String × String)
  arguments : List (String × Json)

/-- Whether two names are the same up to case. -/
def sameName (given name : String) : Bool := Text.lowercase given == Text.lowercase name

/-- The argument given under a name. Of several spellings the first one counts. -/
def Source.argument? (s : Source) (name : String) : Option Json :=
  (s.arguments.find? fun a => sameName a.1 name).map (·.2)

/-- The value of a name in the environment. Of several spellings the last one counts. -/
def Source.variable? (s : Source) (name : String) : Option Json :=
  (s.environment.reverse.find? fun v => sameName v.1 name).map fun v => .text v.2

/-- The value given for a setting, with the name under which problems mention it: that of
an argument is the one it was given under, that of the environment is always the first. -/
def Source.value? (s : Source) (n : Names) : Option (String × Json) :=
  (n.all.findSome? fun name => (s.argument? name).map (name, ·)).or
    ((n.all.findSome? s.variable?).map (n.main, ·))

/-- The arguments that are no settings. -/
def Source.strangers (s : Source) : List String :=
  (s.arguments.map (·.1)).filter fun given =>
    !allNames.any fun n => n.all.any fun name => sameName given name

/-! ### Loading -/

/-- The value of one setting: the default where none is given. -/
def Source.read (s : Source) (n : Names) (convert : Json → Except ProblemKind α) (default : α) :
    Except Problem α :=
  match s.value? n with
  | none => .ok default
  | some (name, given) => (convert given).mapError fun kind => ⟨kind, name⟩

/-- The problem with the value of a setting, if there is one. -/
def problemsOf : Except Problem α → List Problem
  | .ok _ => []
  | .error p => [p]

/-- The address of the database unless another one is given. -/
def defaultPgDsn : String := "postgresql+asyncpg://postgres:password@db/handles"

/-- The settings from the environment and from arguments, or everything that is wrong
with them. -/
def load (s : Source) : Except (List Problem) Settings :=
  let debug := s.read debugNames Conversion.boolean false
  let httpPort := s.read httpPortNames Conversion.integer 5100
  let sentryDsn := s.read sentryDsnNames Conversion.optionalText none
  let pgDsn := s.read pgDsnNames Conversion.databaseUrl defaultPgDsn
  let handlePrefix := s.read handlePrefixNames Conversion.optionalText none
  let itemUrlPrefix := s.read itemUrlPrefixNames Conversion.optionalText none
  let metricsBackend := s.read metricsBackendNames Conversion.text "none"
  let statsdHost := s.read statsdHostNames Conversion.text "telegraf"
  let statsdPort := s.read statsdPortNames Conversion.integer 8125
  let strangers := s.strangers.map fun name => Problem.mk .unknownName name
  match debug, httpPort, sentryDsn, pgDsn, handlePrefix, itemUrlPrefix, metricsBackend, statsdHost,
      statsdPort, strangers with
  | .ok debug, .ok httpPort, .ok sentryDsn, .ok pgDsn, .ok handlePrefix, .ok itemUrlPrefix,
      .ok metricsBackend, .ok statsdHost, .ok statsdPort, [] =>
    .ok ⟨debug, httpPort, sentryDsn, pgDsn, handlePrefix, itemUrlPrefix, metricsBackend,
      statsdHost, statsdPort⟩
  | _, _, _, _, _, _, _, _, _, _ =>
    .error (problemsOf debug ++ problemsOf httpPort ++ problemsOf sentryDsn ++ problemsOf pgDsn ++
      problemsOf handlePrefix ++ problemsOf itemUrlPrefix ++ problemsOf metricsBackend ++
      problemsOf statsdHost ++ problemsOf statsdPort ++ strangers)

/-- The settings that matter while the service runs. -/
def site (s : Settings) : Site where
  handlePrefix := .ofText? s.handlePrefix
  itemUrlPrefix := .ofText? s.itemUrlPrefix
  metricsBackend := .text s.metricsBackend
  debug := s.debug

end Settings

end PersistentId

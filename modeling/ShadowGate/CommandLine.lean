import ShadowGate.Disk
import ShadowGate.Gate
import ShadowGate.Settings.EnvironmentFile
import ShadowGate.Settings.Load
import ShadowGate.Text.Quoted

/-!
# The command line

One proposal taken through a shadow and the gate: the store is forked, the proposal's modifications
are logged into the shadow and validated, and the shadow is merged or discarded.

* `Options.parse` — the arguments.
* `CommandLine.evolve` — what is done with a proposal.
* `CommandLine.run` — a whole run on a disk: exit code, output, messages, and the disk afterwards.
-/

namespace ShadowGate

/-! ## Arguments -/

/-- What a run is asked to do. -/
structure Options where
  /-- directory of the store -/
  store : String := "./data/pagi_state"
  /-- file of the proposal -/
  proposal : Option String := none
  /-- how thorough the validation is -/
  level : Level := .standard
  /-- whether an approved proposal is merged -/
  merge : Bool := false
deriving Inhabited

/-- Why the arguments are not read to their end. -/
inductive Interruption where
  /-- help is asked for -/
  | help
  /-- an argument that means nothing -/
  | unknownArgument (argument : String)
  /-- a level that does not exist -/
  | unknownLevel (why : Level.Unknown)
deriving DecidableEq, Repr

/-- **Read arguments** from left to right. An option at the end that lacks its value is ignored,
but a lacking proposal takes an earlier one back. -/
def Options.parse (o : Options) : List String → Except Interruption Options
  | [] => .ok o
  | ["--store"] => .ok o
  | "--store" :: path :: rest => { o with store := path }.parse rest
  | ["--proposal"] => .ok { o with proposal := none }
  | "--proposal" :: path :: rest => { o with proposal := some path }.parse rest
  | ["--level"] => .ok o
  | "--level" :: text :: rest =>
    match Level.ofText text with
    | .ok level => { o with level }.parse rest
    | .error why => .error (.unknownLevel why)
  | "--merge" :: rest => { o with merge := true }.parse rest
  | "--help" :: _ => .error .help
  | "-h" :: _ => .error .help
  | argument :: _ => .error (.unknownArgument argument)

namespace CommandLine

/-- What the program says about itself. -/
def usage : String :=
  "pagi-evolve: shadow validation for self-evolution proposals\n"
  ++ "  --store DIR         Sled store holding live agent state (default ./data/pagi_state)\n"
  ++ "  --proposal FILE     ChangeProposal as JSON\n"
  ++ "  --level LEVEL       basic | standard | comprehensive | critical (default standard)\n"
  ++ "  --merge             Merge into the store when approved (otherwise always discard)\n"
  ++ "\n"
  ++ "Shadow settings: PAGI_SHADOW_CONFIG file or PAGI_SHADOW__* environment variables.\n"

/-! ## Outcomes -/

/-- How a run ends. -/
structure Outcome where
  /-- zero unless the run failed -/
  exitCode : Nat := 0
  /-- the report and what came of it -/
  output : Option Json := none
  /-- what is written beside the output -/
  messages : String := ""
  /-- the shadows that are still registered at the end -/
  registered : List ShadowId := []
deriving Inhabited

/-- What a run prints: its output, laid out over several lines. -/
def Outcome.printed (o : Outcome) : String :=
  match o.output with
  | some v => v.pretty ++ "\n"
  | none => ""

/-- The outcome of a run that failed. -/
def failure (why : String) : Outcome :=
  { exitCode := 1, messages := "Error: " ++ why ++ "\n" }

/-- The outcome of arguments that are not read to their end. -/
def interrupted : Interruption → Outcome
  | .help => { messages := usage }
  | .unknownArgument a => { messages := "Unknown argument: " ++ a ++ "\n" ++ usage }
  | .unknownLevel why => failure (Text.quoted why.message)

/-! ## A proposal's way -/

/-- The clock's readings in one run. -/
structure Clock where
  /-- when the shadow is forked -/
  forked : Time
  /-- when changes are logged into it -/
  worked : Time
  /-- when it is validated -/
  validated : Time := worked
  /-- when it is merged -/
  ended : Time := validated

/-- What becomes of a validated shadow: it is merged if that is asked for and the report approves,
and discarded otherwise. -/
def conclude (h : Host Store) (id : ShadowId) (merge : Bool) (report : Report) (now : Time) :
    Except ShadowError Json × Host Store :=
  if merge && report.isApproved then
    let (result, h) := h.merge id report now
    (result.map fun m => Json.object [("report", report.toJson), ("merge", m.toJson)], h)
  else
    let (result, h) := h.discard id
    (result.map fun insights =>
      Json.object
        [("report", report.toJson), ("insights", Json.ofList Insight.toJson insights)], h)

/-- **Take a proposal through a shadow of the host and the gate**: the output, or why there is
none, and the host afterwards. -/
def evolve (h : Host Store) (id : ShadowId) (p : Proposal) (c : Criteria) (merge : Bool)
    (clock : Clock) : Except ShadowError Json × Host Store :=
  match h.create id h.defaultConfig clock.forked with
  | (.error e, h) => (.error e, h)
  | (.ok (), h) =>
    match h.logProposal id clock.worked p with
    | (.error e, h) => (.error e, h)
    | (.ok _, h) =>
      match Gate.validateShadow { host := h } id p c clock.validated with
      | (.error e, g) => (.error e, (g.host.discard id).2)
      | (.ok report, g) => conclude g.host id merge report clock.ended

/-! ## Runs -/

/-- The name of the file that adds variables to the environment. -/
def environmentFile : String := ".env"

/-- The environment of a run, with what the environment file adds. -/
def environment (d : Disk) (env : Environment) : Environment :=
  match d.text? environmentFile with
  | some text => EnvironmentFile.load env text
  | none => env

/-- Live state with the store that was opened; what keeps the directory of shadows from being made
is what keeps shadows from having directories of their own. -/
def hostOn (store : Store) (s : Settings) (root : Except Obstacle Unit) : Host Store :=
  { Host.start Store.backing store s .exact with
    rootFault :=
      match root with
      | .ok () => none
      | .error o => some (.io o.message) }

/-- The outcome of a proposal's way, with the host that it left. -/
def outcomeOf (result : Except ShadowError Json) (h : Host Store) : Outcome :=
  match result with
  | .ok output => { output := some output, registered := h.active }
  | .error e => { failure e.message with registered := h.active }

/-- A run whose options, proposal and settings are known. -/
def runOn (d : Disk) (o : Options) (p : Proposal) (s : Settings) (id : ShadowId) (clock : Clock) :
    Outcome × Disk :=
  match d.openStore o.store with
  | (.error e, d) => (failure e.message, d)
  | (.ok (place, store), d) =>
    let (root, d) := d.makeDirectories (Path.ofText s.shadowRoot)
    let (result, h) :=
      evolve (hostOn store s root) id p ((Criteria.ofSettings s).atLevel o.level) o.merge clock
    (outcomeOf result h, d.keep place h.live)

/-- A run with the proposal in a file. -/
def runProposal (d : Disk) (env : Environment) (o : Options) (path : String) (id : ShadowId)
    (clock : Clock) : Outcome × Disk :=
  match d.text? path with
  | none => (failure "the proposal cannot be read", d)
  | some text =>
    match Proposal.ofText? text, Settings.load d (environment d env) with
    | none, _ => (failure "the proposal does not decode", d)
    | some _, .error e => (failure e.message, d)
    | some p, .ok s => runOn d o p s id clock

/-- **A run of the program** with arguments, on a disk and in an environment, its shadow under a
fresh id. -/
def run (d : Disk) (env : Environment) (arguments : List String) (id : ShadowId) (clock : Clock) :
    Outcome × Disk :=
  match ({} : Options).parse arguments with
  | .error why => (interrupted why, d)
  | .ok o =>
    match o.proposal with
    | none => ({ messages := usage }, d)
    | some path => runProposal d env o path id clock

end CommandLine

end ShadowGate

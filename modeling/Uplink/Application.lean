import Uplink.CommandLine.Command
import Uplink.CommandLine.Help
import Uplink.ConfigFile
import Uplink.Journal.Filter
import Uplink.Journal.Layout
import Uplink.Simulation

/-!
The application: from its arguments, environment variables and files to what it writes and how it
goes on.

A command line with a fault ends it with status 2 and a configuration that cannot be used with
status 1. Entries of the journal and other output share the standard output, in order.
-/

namespace Uplink.Application

/-- The name of the program, which is also what its entries are about. -/
def name : String := "cloudlink"

/-- The version of the program. -/
def version : String := "0.1.0"

/-- What the program finds when it starts. -/
structure Surroundings where
  setting? : String → Option String
  file : String → FileContents

/-- A piece of the standard output. -/
inductive Output where
  | line (text : String)
  | entry (entry : Entry)

/-- How the program goes on. -/
inductive Next where
  | exit (status : UInt8)
  | simulate (simulation : Simulation)

/-- What the program does before anything runs. -/
structure Opening where
  output : List Output := []
  /-- The lines of the standard error output. -/
  complaints : List String := []
  next : Next

/-- An entry of the program itself. -/
def note (level : Level) (message : String) (fields : Fields) : Output :=
  .entry ⟨level, message, fields, []⟩

namespace Surroundings

/-- The filter of the journal. One that is given in full replaces the level. -/
def filter (surroundings : Surroundings) : Filter :=
  match surroundings.setting? "RUST_LOG" with
  | some text => .ofText text
  | none => .ofLevel (Level.ofSetting ((surroundings.setting? "LOG_LEVEL").getD ""))

/-- The layout of the entries of the journal. -/
def layout (surroundings : Surroundings) : LogLayout :=
  .ofSetting ((surroundings.setting? "LOG_FORMAT").getD "")

/-- The lines about the parts of the filter that are no rules. -/
def filterComplaints (surroundings : Surroundings) : List String :=
  match surroundings.setting? "RUST_LOG" with
  | some text => (Filter.strangers text).map fun part => "ignoring `" ++ part ++ "`: invalid filter directive"
  | none => []

/-- Whether there is anything under a path. -/
def hasPath (surroundings : Surroundings) (path : String) : Bool :=
  match surroundings.file path with
  | .ok _ => true
  | .error .directory => true
  | .error _ => false

end Surroundings

/-- Where a configuration is looked for if no path is given. -/
def usualPaths : List String :=
  ["cloudlink.toml", "config/cloudlink.toml"]

/-- The path of the configuration that is to be read, if there is one. -/
def configPath? (surroundings : Surroundings) (given : Option String) : Option String :=
  match given with
  | some path => some path
  | none => usualPaths.find? surroundings.hasPath

/-- The configuration, and the entry that says where it comes from. -/
def configuration (surroundings : Surroundings) (given : Option String) :
    Output × Except ConfigError Config :=
  match configPath? surroundings given with
  | some path =>
    (note .info ("Loading configuration from: " ++ path) [], Config.ofFile (surroundings.file path))
  | none =>
    (note .warn "No configuration file found, using defaults" [], .ok (Config.ofAppVersion version))

/-- The configuration for people to read. -/
def listing (config : Config) : List Output :=
  match config.toText? with
  | some text => (("Current configuration:" :: text.splitOn "\n").map .line)
  | none => [note .warn "Failed to render configuration" [("error", .text "out-of-range value for u64 type")]]

/-- Carry out a command. -/
def carryOut (config : Config) : CommandLine.Command → List Output × Next
  | .run script dropEvery sampleEvery =>
    ([], .simulate { config, script, dropEvery := dropEvery.map (·.toNat), sampleEvery := sampleEvery.toNat })
  | .config listed =>
    match config.validate with
    | .error cause =>
      let failure := Failure.config cause
      ([note .error "Command failed" [("kind", .text failure.kind), ("error", .text failure.message)]], .exit 1)
    | .ok _ =>
      -- The listing stands before the verdict, with a blank line between them.
      ((if listed then listing config else []) ++
        [.line "Configuration is valid", note .info "Application shutdown complete" []], .exit 0)

/-- Load the configuration and carry out a command. -/
def obey (surroundings : Surroundings) (invocation : CommandLine.Invocation) : Opening :=
  let greeting := note .info ("Starting " ++ name ++ " v" ++ version) []
  match configuration surroundings invocation.path with
  | (source, .error cause) =>
    let failed := note .error "Failed to load configuration" [("error", .text (Failure.config cause).message)]
    { output := [greeting, source, failed], next := .exit 1 }
  | (source, .ok config) =>
    let (output, next) := carryOut config invocation.command
    { output := greeting :: source :: output, next }

/-- What the program does when the command line names no command to carry out. -/
def refuse (stop : CommandLine.Stop) : Opening :=
  match stop with
  | .help topic => { output := topic.text.map .line, next := .exit stop.status }
  | .version => { output := [.line (name ++ " " ++ version)], next := .exit stop.status }
  | _ => { complaints := stop.complaint, next := .exit stop.status }

/-- Whether a piece of output passes the filter. -/
def isWritten (surroundings : Surroundings) : Output → Bool
  | .line _ => true
  | .entry entry => surroundings.filter.permits name entry.level

/-- Start the program with the arguments after its name. -/
def start (surroundings : Surroundings) (args : List String) : Opening :=
  match CommandLine.parse (surroundings.setting? "CLOUDLINK_CONFIG") args with
  | .error stop => refuse stop
  | .ok invocation =>
    let opening := obey surroundings invocation
    { opening with
      output := opening.output.filter (isWritten surroundings)
      complaints := surroundings.filterComplaints ++ opening.complaints }

end Uplink.Application

import Uplink.CommandLine.Basic

/-!
The texts that the command line answers with: help on what can be given, and what is wrong with what
was given.
-/

namespace Uplink.CommandLine

/-- The lines of a help text. -/
def Topic.text : Topic → List String
  | .program =>
    [ "Cellular and cloud connection orchestrator",
      "",
      "Usage: cloudlink [OPTIONS] <COMMAND>",
      "",
      "Commands:",
      "  run     Run the orchestrator against the simulated modem and cloud",
      "  config  Validate configuration",
      "  help    Print this message or the help of the given subcommand(s)",
      "",
      "Options:",
      "  -c, --config <FILE>  Configuration file path [env: CLOUDLINK_CONFIG=]",
      "  -h, --help           Print help",
      "  -V, --version        Print version" ]
  | .run =>
    [ "Run the orchestrator against the simulated modem and cloud",
      "",
      "Usage: cloudlink run [OPTIONS]",
      "",
      "Options:",
      "      --never-ready             The simulated cloud connects but never becomes ready",
      "      --associate               The first simulated session goes through user association",
      "      --drop-link-every <SECS>  Simulate losing the cellular link every N seconds",
      "      --sample-every <SECS>     Queue a temperature sample every N seconds [default: 10]",
      "  -h, --help                    Print help" ]
  | .config =>
    [ "Validate configuration",
      "",
      "Usage: cloudlink config [OPTIONS]",
      "",
      "Options:",
      "      --show  Show the effective configuration",
      "  -h, --help  Print help" ]
  | .help =>
    [ "Print this message or the help of the given subcommand(s)",
      "",
      "Usage: cloudlink help [COMMAND]...",
      "",
      "Arguments:",
      "  [COMMAND]...  Print help for the subcommand(s)" ]

/-- The lines about a fault. -/
def Stop.complaint : Stop → List String
  | .help _ => []
  | .version => []
  | .nothingGiven => Topic.program.text
  | .commandMissing => ["error: 'cloudlink' requires a subcommand but one was not provided"]
  | .commandUnknown => ["error: unrecognized subcommand"]
  | .argumentUnknown => ["error: unexpected argument found"]
  | .conflict => ["error: an argument cannot be used with another one, or multiple times"]
  | .valueMissing => ["error: a value is required but none was supplied"]
  | .valueMalformed => ["error: invalid value: not a number in 0..=18446744073709551615"]
  | .valueSurplus => ["error: unexpected value found; no more were expected"]

end Uplink.CommandLine

import SessionGate.Capability.Document
import SessionGate.CommandLine.Options

/-!
# Texts of the command line

- `helpText`, `versionText`: what the program says of itself when asked.
- `Refusal.output`: what is written where arguments do not lead to a run.
-/

namespace SessionGate

/-- What the program says of its options. -/
def helpText : String :=
  String.intercalate "\n"
    ["Handshake and session gate of a Language Server Protocol server for Erlang",
      "",
      "Usage: erlang-ls [OPTIONS]",
      "",
      "Options:",
      "      --log-dir <DIR>          Directory for the log file (defaults to the data directory)",
      "      --log-level <LEVEL>      Log level used when RUST_LOG is not set",
      "      --no-node                Do not start the secondary analysis node",
      "      --node-program <PATH>    Program used to start the secondary analysis node " ++
        "[default: erl]",
      "      --enable-signature-help  Advertise signature help to clients",
      "  -h, --help                   Print help",
      "  -V, --version                Print version",
      ""]

/-- What the program says of its version. -/
def versionText : String :=
  serverName ++ " " ++ serverVersion ++ "\n"

/-- What is written to standard output. -/
def Refusal.output : Refusal → String
  | help => helpText
  | version => versionText
  | _ => ""

end SessionGate

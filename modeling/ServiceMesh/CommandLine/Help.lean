import ServiceMesh.CommandLine.Arguments

/-!
# Help pages

The text of each help page.
-/

namespace ServiceMesh.CommandLine

def Page.lines : Page → List String
  | overview =>
    ["Offline tooling for mesh coordinator configs",
     "",
     "Usage: mesh-cli [OPTIONS] <COMMAND>",
     "",
     "Commands:",
     "  check     Validate the config file",
     "  show      Print the resolved config, defaults filled in, as JSON",
     "  simulate  Register the seeds and preview how selections spread across them",
     "  help      Print this message or the help of the given subcommand(s)",
     "",
     "Options:",
     "  -c, --config <CONFIG>  [default: mesh.toml]",
     "  -h, --help             Print help"]
  | check =>
    ["Validate the config file",
     "",
     "Usage: mesh-cli check",
     "",
     "Options:",
     "  -h, --help  Print help"]
  | .show =>
    ["Print the resolved config, defaults filled in, as JSON",
     "",
     "Usage: mesh-cli show",
     "",
     "Options:",
     "  -h, --help  Print help"]
  | simulate =>
    ["Register the seeds and preview how selections spread across them",
     "",
     "Usage: mesh-cli simulate [OPTIONS] <SERVICE>",
     "",
     "Arguments:",
     "  <SERVICE>  Service name to select from",
     "",
     "Options:",
     "  -n, --count <COUNT>          Number of selections [default: 100]",
     "      --client <CLIENT>        Client key for consistent hashing",
     "      --algorithm <ALGORITHM>  Override the configured algorithm",
     "  -h, --help                   Print help"]
  | help =>
    ["Print this message or the help of the given subcommand(s)",
     "",
     "Usage: mesh-cli help [COMMAND]...",
     "",
     "Arguments:",
     "  [COMMAND]...  Print help for the subcommand(s)"]

/-- A help page as printed. -/
def Page.text (p : Page) : String := String.join (p.lines.map (· ++ "\n"))

end ServiceMesh.CommandLine

import ReleaseRules.CommandLine.Invocation

/-!
Contract: the texts that the program shows about itself.

Owns: the version and the help texts.

Does not own: when they are shown.
-/

namespace ReleaseRules.CommandLine

/-- The line that names the program and its version. -/
def versionText : String := "synckeep 0.1.0\n"

/-- The help text about a topic. -/
def helpText : Topic → String
  | .program =>
      "Rule-driven transformations for synced repository files\n\n" ++
        "Usage: synckeep [OPTIONS] <COMMAND>\n\nCommands:\n" ++
        "  list   List loaded rules\n" ++
        "  check  Validate configuration and rule sources\n" ++
        "  run    Run rules over files (preview unless --apply)\n" ++
        "  help   Print this message or the help of the given subcommand(s)\n\nOptions:\n" ++
        "  -c, --config <FILE>  Path to config file (defaults to ./synckeep.toml)\n" ++
        "  -p, --project <DIR>  Project directory used to find project-local rules " ++
        "[default: .]\n" ++
        "  -v, --verbose        Enable verbose logging\n" ++
        "  -h, --help           Print help\n" ++
        "  -V, --version        Print version\n"
  | .list =>
      "List loaded rules\n\nUsage: synckeep list\n\nOptions:\n  -h, --help  Print help\n"
  | .check =>
      "Validate configuration and rule sources\n\nUsage: synckeep check\n\nOptions:\n" ++
        "  -h, --help  Print help\n"
  | .run =>
      "Run rules over files (preview unless --apply)\n\n" ++
        "Usage: synckeep run [OPTIONS] --tag <TAG> <PATHS>...\n\nArguments:\n" ++
        "  <PATHS>...  Files or directories (directories are not recursed)\n\nOptions:\n" ++
        "  -t, --tag <TAG>         Release tag, e.g. v1.4.5\n" ++
        "      --var <NAME=VALUE>  Extra template variable (NAME=VALUE)\n" ++
        "      --apply             Actually write changed files\n" ++
        "      --json              Print results as JSON\n" ++
        "  -h, --help              Print help\n"
  | .help =>
      "Print this message or the help of the given subcommand(s)\n\n" ++
        "Usage: synckeep help [COMMAND]...\n\nArguments:\n" ++
        "  [COMMAND]...  Print help for the subcommand(s)\n"

end ReleaseRules.CommandLine

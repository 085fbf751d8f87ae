import Localize.Text

/-! The texts that explain the command line. -/

namespace Localize.CommandLine

inductive Page where
  | program
  | run
  | init
  | help
  | version
  deriving DecidableEq, Repr

namespace Page

def lines : Page → List String
  | .program =>
    ["Rewrite hardcoded UI strings into translation calls using an existing locale dictionary",
      "",
      "Usage: autotranslate [COMMAND]",
      "",
      "Commands:",
      "  run   Replace hardcoded strings reported by the linter with translation calls",
      "  init  Initialize a new .autotranslaterc.json configuration file",
      "  help  Print this message or the help of the given subcommand(s)",
      "",
      "Options:",
      "  -h, --help     Print help",
      "  -V, --version  Print version"]
  | .run =>
    ["Replace hardcoded strings reported by the linter with translation calls",
      "",
      "Usage: autotranslate run [OPTIONS]",
      "",
      "Options:",
      "      --primary-locale <PRIMARY_LOCALE>",
      "          Primary locale (overrides config file)",
      "      --messages-root <MESSAGES_ROOT>",
      "          Messages directory path (overrides config file)",
      "      --source-root <SOURCE_ROOT>",
      "          Source directory the linter reports paths under (overrides config file)",
      "      --report <FILE>",
      "          Read the lint report from a file (\"-\" for stdin) instead of running the linter",
      "      --dry-run",
      "          Show what would change without writing any file",
      "      --json",
      "          Print the summary as JSON",
      "      --check",
      "          Exit with status 1 if any string was skipped",
      "  -v, --verbose",
      "          Enable verbose output",
      "  -h, --help",
      "          Print help"]
  | .init =>
    ["Initialize a new .autotranslaterc.json configuration file",
      "",
      "Usage: autotranslate init",
      "",
      "Options:",
      "  -h, --help  Print help"]
  | .help =>
    ["Print this message or the help of the given subcommand(s)",
      "",
      "Usage: autotranslate help [COMMAND]...",
      "",
      "Arguments:",
      "  [COMMAND]...  Print help for the subcommand(s)"]
  | .version => ["autotranslate 0.1.0"]

def text (p : Page) : Text := p.lines.flatMap fun line => line.toList ++ ['\n']

end Page
end Localize.CommandLine

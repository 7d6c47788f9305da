import Joinery.CommandLine.Request

/-!
# Help

The texts that explain the program and its commands.
-/
namespace Joinery.CommandLine.Topic

def helpLines : Topic → List String
  | .program =>
    ["usage: python -m jointcad [-h] [--config PATH] [-v] \x7beval,check,teeth\x7d ...",
      "",
      "Parametric shape expressions and edge joinery",
      "",
      "positional arguments:",
      "  \x7beval,check,teeth\x7d",
      "    eval              Evaluate an expression",
      "    check             Resolve every shape of a design",
      "    teeth             Print synthesized teeth",
      "",
      "options:",
      "  -h, --help          show this help message and exit",
      "  --config PATH       YAML configuration file",
      "  -v, --verbose       Debug logging"]
  | .evaluate =>
    ["usage: python -m jointcad eval [-h] [-p NAME=VALUE] expression",
      "",
      "positional arguments:",
      "  expression            Expression text",
      "",
      "options:",
      "  -h, --help            show this help message and exit",
      "  -p NAME=VALUE, --param NAME=VALUE",
      "                        Parameter value (can be repeated)"]
  | .check =>
    ["usage: python -m jointcad check [-h] file",
      "",
      "positional arguments:",
      "  file        Design JSON file",
      "",
      "options:",
      "  -h, --help  show this help message and exit"]
  | .teeth =>
    ["usage: python -m jointcad teeth [-h] [--shape ID] [--json] file",
      "",
      "positional arguments:",
      "  file        Design JSON file",
      "",
      "options:",
      "  -h, --help  show this help message and exit",
      "  --shape ID  Only this shape",
      "  --json      JSON output"]

end Joinery.CommandLine.Topic

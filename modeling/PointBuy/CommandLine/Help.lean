import PointBuy.Limits

/-!
# Help

What the program says of its own use.
-/

namespace PointBuy.CommandLine

/-- The text of some lines. -/
def lines (texts : List String) : String := String.join (texts.map fun text => text ++ "\n")

/-- How the program is called. -/
def usage (program : String) : String :=
  lines
    [s!"Usage: {program} <database files...> [options]",
      s!"       {program} --help"]

/-- What the program does, and how. -/
def help (program : String) : String :=
  lines
    ["GURPS Rules v0.1.0",
      "Loads trait databases and evaluates a character against them",
      "",
      "USAGE:",
      s!"    {program} <database files...> [options]",
      "",
      "OPTIONS:",
      "    --help                Show this help message",
      "    --character FILE      Load purchases from a saved character (JSON)",
      "    --set NAME=LEVEL      Purchase levels of a trait (repeatable)",
      "    --json                Print the resulting character as JSON",
      "    --config FILE         Runtime preferences (TOML)",
      "",
      "EXAMPLES:",
      s!"    {program} core.gurpenator_data --set Human=1 --set ST=2",
      s!"    {program} core.gurpenator_data --character conan.json --json",
      "",
      "CONFIGURATION:",
      "    " ++ Limits.origin]

end PointBuy.CommandLine

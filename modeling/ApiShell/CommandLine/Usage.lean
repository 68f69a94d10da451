/-! The texts that explain the command line. -/

namespace ApiShell.CommandLine

/-- How the program is called. -/
def usage : String :=
  "usage: declshell [-h] [-o OUTPUT] [--config CONFIG] [--ignore NAME]\n" ++
  "                 [--search-path DIR] [--no-assembly-info] [--force-virtual]\n" ++
  "                 [--tabs] [--indent N] [--no-aliases] [--no-banner] [-v] [-q]\n" ++
  "                 [--log-file LOG_FILE]\n" ++
  "                 [library]\n"

/-- What the program does and what its options mean. -/
def help : String :=
  usage ++
  "\n" ++
  "Generate a stubbed C# declaration shell from a library's structural metadata.\n" ++
  "\n" ++
  "positional arguments:\n" ++
  "  library               Path to the library metadata document (JSON or YAML).\n" ++
  "\n" ++
  "options:\n" ++
  "  -h, --help            show this help message and exit\n" ++
  "  -o OUTPUT, --output OUTPUT\n" ++
  "                        Write the shell to this file instead of stdout.\n" ++
  "  --config CONFIG       Path to .declshell.yml or the directory holding it\n" ++
  "                        (defaults to current directory).\n" ++
  "  --ignore NAME         Namespace or top-level type name to leave out\n" ++
  "                        (repeatable).\n" ++
  "  --search-path DIR     Extra directory to search for referenced libraries\n" ++
  "                        (repeatable).\n" ++
  "  --no-assembly-info    Skip the assembly-level attribute block.\n" ++
  "  --force-virtual       Declare every instance method virtual (or override).\n" ++
  "  --tabs                Indent with tabs instead of spaces.\n" ++
  "  --indent N            Number of spaces per indentation level (default 4).\n" ++
  "  --no-aliases          Keep System type names instead of C# keyword aliases.\n" ++
  "  --no-banner           Omit the generated-file comment banner.\n" ++
  "  -v, --verbose         Increase log verbosity for troubleshooting.\n" ++
  "  -q, --quiet           Only report warnings and errors on stderr.\n" ++
  "  --log-file LOG_FILE   Also write a debug-level log of the run to this file.\n"

/-- What is said when there is no library. -/
def noLibrary : String := "You must specify a library metadata document to parse."

end ApiShell.CommandLine

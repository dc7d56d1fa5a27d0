import BlockExtension.CommandLine.Arguments

/-!
# Help

What the program says about itself, and what it says when a command line cannot
be read.
-/

namespace BlockExtension.CommandLine

/-- The description of the program and of all its slots and switches. -/
def helpText : String :=
  "Generate an unsandboxed compiler-patching Scratch extension from a JSON block config.\n" ++
  "\n" ++
  "Usage: scratch-extgen [OPTIONS] [CONFIG] [OUTPUT]\n" ++
  "\n" ++
  "Arguments:\n" ++
  "  [CONFIG]  Path to the JSON configuration file.\n" ++
  "  [OUTPUT]  Output path. Defaults to '<extension id>.js' in the current directory.\n" ++
  "\n" ++
  "Options:\n" ++
  "      --random-ids              Use random argument identifiers instead of " ++
    "'<opcode>_arg<n>' (output differs between runs).\n" ++
  "      --no-format               Skip pretty-printing the generated module.\n" ++
  "      --prettier <PROGRAM>      Formatter executable invoked with prettier-compatible " ++
    "flags. [default: prettier]\n" ++
  "      --emit-descriptor <PATH>  Also write the extension descriptor (getInfo result) " ++
    "as JSON to this path.\n" ++
  "  -h, --help                    Print help\n"

/-- What is wrong with a command line, in one sentence. -/
def Stop.sentence : Stop → String
  | .help => "help was asked for"
  | .unknown text => s!"unexpected argument '{text}' found"
  | .valueMissing slot => s!"a value is required for '{slot.shown}' but none was supplied"
  | .pathEmpty slot => s!"a value is required for '{slot.shown}' but none was supplied"
  | .valueUnwanted name value =>
      s!"unexpected value '{value}' for '{name}' found; no more were expected"
  | .slotRepeated slot => s!"the argument '{slot.shown}' cannot be used multiple times"
  | .switchRepeated switch => s!"the argument '{switch.shown}' cannot be used multiple times"

/-- What the program says when it stops: help as such, anything else as an error. -/
def Stop.text : Stop → String
  | .help => helpText
  | stop =>
      s!"error: {stop.sentence}\n\n" ++
        "Usage: scratch-extgen [OPTIONS] [CONFIG] [OUTPUT]\n\n" ++
        "For more information, try '--help'.\n"

end BlockExtension.CommandLine

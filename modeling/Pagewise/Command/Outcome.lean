import Pagewise.Command.Arguments
import Pagewise.Command.Task
import Pagewise.Product

/-!
What the program leaves to whoever called it: texts, a complaint, and a status.
-/
namespace Pagewise

structure Outcome where
  output : List String
  complaint : Option String
  status : UInt32

namespace Usage

def helpText : String :=
  "Pages through paginated operations of a Smithy model\n\n" ++
  "Usage: " ++ Product.name ++ " [OPTIONS] <COMMAND>\n\n" ++
  "Commands:\n" ++
  "  operations  List paginated operations and their member paths\n" ++
  "  validate    Resolve every paginated operation and report configuration errors\n" ++
  "  pages       Fetch pages and print each output document\n" ++
  "  items       Fetch pages and print each item\n" ++
  "  help        Print this message\n\n" ++
  "Options:\n" ++
  "  -m, --model <MODEL>    Smithy model file (JSON AST)\n" ++
  "  -C, --config <CONFIG>  Runtime configuration file (YAML)\n" ++
  "  -f, --format <FORMAT>  Output format: json (default) or pretty\n" ++
  "  -v, --verbose          Verbose output\n" ++
  "  -h, --help             Print help\n" ++
  "  -V, --version          Print version\n\n" ++
  "Options of pages and items:\n" ++
  "  -o, --operation <OPERATION>    Operation name or absolute shape ID\n" ++
  "      --input-json <INPUT_JSON>  Inline input document (JSON object)\n" ++
  "      --page-size <PAGE_SIZE>    Page size written into every request\n" ++
  "      --max-pages <MAX_PAGES>    Maximum pages to fetch, 0 for no limit"

/-- What arguments that are not run come to: an answer if one was asked for, else a complaint. -/
def outcome : Usage → Outcome
  | .help => ⟨[helpText], none, 0⟩
  | .version => ⟨[Product.name ++ " " ++ Product.version], none, 0⟩
  | .nothingAsked => ⟨[], some helpText, 2⟩
  | .noTask => ⟨[], some "error: a subcommand is required", 2⟩
  | .unknownTask => ⟨[], some "error: unrecognized subcommand", 2⟩
  | .unknownArgument => ⟨[], some "error: unexpected argument", 2⟩
  | .optionRequired => ⟨[], some "error: --operation is required", 2⟩
  | .badValue => ⟨[], some "error: a value is missing or not one of the possible values", 2⟩
  | .badNumber => ⟨[], some "error: a value is not a number in range", 2⟩
  | .repeatedOption => ⟨[], some "error: an option cannot be used multiple times", 2⟩
  | .valueNotTaken => ⟨[], some "error: unexpected value for an option that takes none", 2⟩

end Usage

def Report.outcome (format : OutputFormat) (r : Report) : Outcome :=
  let output := r.messages.map fun m => format.write m.toDocument
  match r.result with
  | .ok () => ⟨output, none, 0⟩
  -- The program has stopped by itself; nobody is there to complain.
  | .error .overflow => ⟨output, some Error.overflow.message, 101⟩
  | .error e => ⟨output, some ("Error: " ++ e.message), 1⟩

def execute (arguments : List String) (access : FileAccess) (x : Exchange) : Outcome × Exchange :=
  match CommandLine.ofArguments arguments with
  | .error usage => (usage.outcome, x)
  | .ok line =>
    let r := line.run access x
    (r.1.outcome line.format, r.2)

end Pagewise

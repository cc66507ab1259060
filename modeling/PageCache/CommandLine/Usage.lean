import PageCache.CommandLine.Options
import PageCache.Text.Line
/-!
What the command line prints about itself.
-/

namespace PageCache.CommandLine

def programName : String := "py-pcstat"

def usage : String :=
  "usage: py-pcstat [-h] [--json | --terse] [--nohdr] [--bname] [--pid PID]\n" ++
  "                 [--max-size BYTES] [--regular-only] [-v]\n" ++
  "                 [FILE ...]\n"

def help : String :=
  usage ++
  "\n" ++
  "Report how much of each file is resident in the page cache.\n" ++
  "\n" ++
  "positional arguments:\n" ++
  "  FILE              files or block devices to probe\n" ++
  "\n" ++
  "options:\n" ++
  "  -h, --help        show this help message and exit\n" ++
  "  --json            print a JSON array\n" ++
  "  --terse           print CSV\n" ++
  "  --nohdr           omit the header row\n" ++
  "  --bname           show file basenames only\n" ++
  "  --pid PID         also probe the files mapped by this process\n" ++
  "  --max-size BYTES  skip files larger than this\n" ++
  "  --regular-only    skip anything that is not a regular file or block device\n" ++
  "  -v, --verbose     print the probe log to stderr (repeat for more detail)\n"

namespace UsageError

def about (s : Switch) (message : String) : String := "argument " ++ s.label ++ ": " ++ message

def message : UsageError → String
  | .ambiguous argument candidates =>
    "ambiguous option: " ++ String.ofList argument ++ " could match " ++
      String.ofList (Text.joinWith ", ".toList candidates)
  | .ignoredValue s value => about s ("ignored explicit argument " ++ String.ofList (Text.quoted value))
  | .missingValue s => about s "expected one argument"
  | .invalidValue s value => about s ("invalid int value: " ++ String.ofList (Text.quoted value))
  | .conflict s other => about s ("not allowed with argument " ++ other.label)
  | .unrecognized arguments => "unrecognized arguments: " ++ String.ofList (Text.joinWith [' '] arguments)

end UsageError

def complaint (message : String) : String := programName ++ ": " ++ message ++ "\n"

def refusal (e : UsageError) : String := usage ++ complaint ("error: " ++ e.message)

end PageCache.CommandLine

import PageCache.CommandLine.Run
import PageCache.Proofs.CommandLine.Flags

/-! How often the log is asked for is counted beside all other options, and decides about nothing
but how much of the log is printed. -/

namespace PageCache.CommandLine

open Sequencing

namespace Options

end Options

/-- The entries of a log that are printed if it is asked for so often. -/
def printed : (verbosity : Nat) → List Log.Entry → List Log.Entry
  | 0, _ => []
  | 1, entries => entries.filter (·.level ≠ .debug)
  | _, entries => entries

end PageCache.CommandLine

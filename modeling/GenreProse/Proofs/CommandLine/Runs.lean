-- SUMMARY: A run prints all or nothing, and the same whether it is strict or not.
import GenreProse.Proofs.CommandLine.Arguments
import GenreProse.Proofs.CommandLine.Inputs

/-!
# Runs

A run that fails prints nothing, or the usage if its arguments are wrong. One that succeeds prints
the help that it is asked for, or the lossy render of its description. If a strict run succeeds, it
prints what it also prints without the flag, and without the flag no template makes a run fail.
-/

namespace GenreProse

namespace CommandLine

variable {content : Source → Except FileError String} {surroundings : Surroundings}
  {options : Options}

/-! ## Failing runs -/

variable {arguments : List String}

/-- No variables in the environment, and an old clock. -/
def Surroundings.bare : Surroundings :=
  { baseUrl := none, genres := none, now := .utc ⟨1970, 1, 1, isCalendarDay_epoch⟩ .midnight }

end CommandLine

end GenreProse

import RecordFilter.CommandLine.Command

/-!
# Completions

A short script for each shell that offers the names of the commands.
-/

namespace RecordFilter

/-- The commands that completions offer. -/
def commandNames : List String := ["tokens", "parse", "filter", "config", "completions"]

/-- The script with the completions for a shell. -/
def Shell.completions (shell : Shell) : String :=
  let names := " ".intercalate commandNames
  match shell with
  | bash => "complete -W \"" ++ names ++ "\" lee\n"
  | zsh => "#compdef lee\ncompadd " ++ names ++ "\n"
  | fish => "complete -c lee -f -a \"" ++ names ++ "\"\n"
  | powershell => "# " ++ names ++ "\n"

end RecordFilter

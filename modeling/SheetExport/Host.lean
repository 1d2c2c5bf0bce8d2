/-!
# The host of a process

A process sees its environment variables, its working directory, and the home directories of the
accounts of its system. The current account's home is found from `HOME` when that is set, even to
the empty text, and from the account list otherwise.
-/

namespace SheetExport

/-- What a process knows of where it runs. -/
structure Host where
  /-- The environment variables, by name. -/
  environment : List (String × String)
  /-- The directory relative paths start from. -/
  workingDirectory : String
  /-- The home directory of the current account, from the account list. -/
  accountHome : Option String
  /-- The home directories of the accounts, by account name. -/
  homes : List (String × String)
  deriving DecidableEq, Repr

namespace Host

/-- The value of an environment variable. -/
def environmentValue? (host : Host) (name : String) : Option String := host.environment.lookup name

/-- The value of an environment variable that is set and not empty. -/
def setting? (host : Host) (name : String) : Option String :=
  match host.environmentValue? name with
  | some value => if value.isEmpty then none else some value
  | none => none

/-- The home directory of an account; the empty name is the current account. -/
def home? (host : Host) (account : String) : Option String :=
  if account.isEmpty then
    match host.environmentValue? "HOME" with
    | some home => some home
    | none => host.accountHome
  else host.homes.lookup account

/-- The host with one environment variable set. -/
def withVariable (host : Host) (name value : String) : Host :=
  { host with environment := (name, value) :: host.environment.filter (·.1 != name) }

theorem home?_of_variable (host : Host) (home : String)
    (set : host.environmentValue? "HOME" = some home) : host.home? "" = some home := by
  simp [home?, set]

end Host

end SheetExport

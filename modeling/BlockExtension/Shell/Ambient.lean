import BlockExtension.Shell.Machine

/-!
# Variables about the run

Variables that nobody assigns: what they hold is known of the process that runs,
or of what it runs on. They are there only in the shell with extensions.
-/

namespace BlockExtension.Shell.Ambient

open Act

def userId : Nat := 65534

def machineName : String := "localhost"

/-- The time that it is, in units of a nanosecond from the start of 1970. -/
def now : Act Nat := return (← get).now

/-! ## Random numbers -/

/-- The number behind another one in the sequence that random numbers are made of. -/
def successor (seed : Nat) : Nat :=
  let last := if seed = 0 then 123459876 else seed
  let high := last / 127773
  let low := last % 127773
  (16807 * low + 2147483647 * 16807 - 2836 * high) % 2147483647

/-- The random number that is made of a number of the sequence. -/
def drawn (seed : Nat) : Nat := ((seed / 65536) ^^^ (seed % 65536)) % 32768

/-- The next random number. -/
def draw : Act Nat := do
  let seed := successor (← process).seed
  modifyProcess fun process => { process with seed }
  return drawn seed

/-! ## Settings and choices -/

def settings : List (String × Char) :=
  [("allexport", 'a'), ("braceexpand", 'B'), ("emacs", 'M'), ("errexit", 'e'),
    ("errtrace", 'E'), ("functrace", 'T'), ("hashall", 'h'), ("histexpand", 'H'),
    ("history", 'Y'), ("ignoreeof", 'I'), ("interactive-comments", 'N'), ("keyword", 'k'),
    ("monitor", 'm'), ("noclobber", 'C'), ("noexec", 'n'), ("noglob", 'f'), ("nolog", 'L'),
    ("notify", 'b'), ("nounset", 'u'), ("onecmd", 't'), ("physical", 'D'), ("pipefail", 'P'),
    ("posix", 'O'), ("privileged", 'p'), ("verbose", 'v'), ("vi", 'V'), ("xtrace", 'x')]

def startingSettings : List Char := ['h', 'B', 'N']

def choices : List (String × Bool) :=
  [("autocd", false), ("assoc_expand_once", false), ("cdable_vars", false), ("cdspell", false),
    ("checkhash", false), ("checkjobs", false), ("checkwinsize", true), ("cmdhist", true),
    ("compat31", false), ("compat32", false), ("compat40", false), ("compat41", false),
    ("compat42", false), ("compat43", false), ("compat44", false), ("complete_fullquote", true),
    ("direxpand", false), ("dirspell", false), ("dotglob", false), ("execfail", false),
    ("expand_aliases", false), ("extdebug", false), ("extglob", false), ("extquote", true),
    ("failglob", false), ("force_fignore", true), ("globasciiranges", true),
    ("globskipdots", true), ("globstar", false), ("gnu_errfmt", false), ("histappend", false),
    ("histreedit", false), ("histverify", false), ("hostcomplete", true),
    ("huponexit", false), ("inherit_errexit", false), ("interactive_comments", true),
    ("lastpipe", false), ("lithist", false), ("localvar_inherit", false),
    ("localvar_unset", false), ("login_shell", false), ("mailwarn", false),
    ("no_empty_cmd_completion", false), ("nocaseglob", false), ("nocasematch", false),
    ("noexpand_translation", false), ("nullglob", false), ("patsub_replacement", true),
    ("progcomp", true), ("progcomp_alias", false), ("promptvars", true),
    ("restricted_shell", false), ("shift_verbose", false), ("sourcepath", true),
    ("varredir_close", false), ("xpg_echo", false)]

/-- The names of those that are on, with colons between them. -/
def listed (names : List String) : Octets := (":".intercalate names).toList

/-! ## Variables -/

/-- How deep in processes of its own the script is. -/
def depthOf (process : Process) : Nat :=
  if process.id = process.scriptId then 0
  else (process.ancestors.takeWhile (· ≠ process.scriptId)).length + 1

def version : List String := ["5", "2", "21", "1", "release", "x86_64-pc-linux-gnu"]

def value? (name : Octets) : Act (Option Value) := do
  let process ← process
  let number (n : Nat) : Option Value := some (.single (Octets.ofNat n))
  let text (text : Octets) : Option Value := some (.single text)
  match String.ofList name with
  | "LINENO" => return number process.line
  | "PIPESTATUS" => return some (.ofTexts (process.stageStatuses.map Octets.ofNat))
  | "FUNCNAME" =>
      if process.callers.isEmpty then return none
      return some (.ofTexts (process.callers.map (·.name) ++ ["main".toList]))
  | "BASH_SOURCE" =>
      return some (.ofTexts (process.callers.map (·.file) ++ [process.file]))
  | "BASH_LINENO" =>
      return some (.ofTexts (process.callers.map (fun caller => Octets.ofNat caller.line) ++
        [['0']]))
  | "BASH_SUBSHELL" => return number (depthOf process)
  | "BASHPID" => return number process.id
  | "BASH_COMMAND" => return text process.shownCommand
  | "BASH_ARGV0" => return text process.name
  | "BASH_VERSINFO" => return some (.ofTexts (version.map String.toList))
  | "_" => return text process.lastWord
  | "UID" => return number userId
  | "EUID" => return number userId
  | "GROUPS" => return some (.ofTexts [Octets.ofNat userId])
  | "HOSTNAME" => return text machineName.toList
  | "HISTCMD" => return number 0
  | "OPTERR" => return number 1
  | "RANDOM" => return number (← draw)
  | "SRANDOM" => return number (← draw)
  | "SECONDS" => return number ((← get).elapsed / 1000000000)
  | "EPOCHSECONDS" => return number ((← now) / 1000000000)
  | "EPOCHREALTIME" =>
      let micros := (← now) / 1000
      let digits := Octets.ofNat (micros % 1000000)
      return text (Octets.ofNat (micros / 1000000) ++
        '.' :: List.replicate (6 - digits.length) '0' ++ digits)
  | "DIRSTACK" =>
      return some (.ofTexts (process.directoryPath :: process.directories))
  | "SHELLOPTS" =>
      return text (listed ((settings.filter fun (_, letter) =>
        process.settings.contains letter).map (·.1)))
  | "BASHOPTS" =>
      return text (listed ((choices.map (·.1)).filter process.choices.contains))
  | _ => return none

end BlockExtension.Shell.Ambient

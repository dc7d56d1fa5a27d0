import BlockExtension.Shell.Octets

/-!
# Signals

The signals that processes send each other, by their numbers and their names.
-/

namespace BlockExtension.Shell

def commonSignals : List (Nat × String) :=
  [(0, "EXIT"), (1, "HUP"), (2, "INT"), (3, "QUIT"), (4, "ILL"), (5, "TRAP"), (6, "ABRT"),
    (7, "BUS"), (8, "FPE"), (9, "KILL"), (10, "USR1"), (11, "SEGV"), (12, "USR2"),
    (13, "PIPE"), (14, "ALRM"), (15, "TERM"), (16, "STKFLT"), (17, "CHLD"), (18, "CONT"),
    (19, "STOP"), (20, "TSTP"), (21, "TTIN"), (22, "TTOU"), (23, "URG"), (24, "XCPU"),
    (25, "XFSZ"), (26, "VTALRM"), (27, "PROF"), (28, "WINCH"), (29, "IO"), (30, "PWR"),
    (31, "SYS")]

/-- The signals that are meant for no purpose, named by how far they are from the first or last. -/
def freeSignals : List (Nat × String) :=
  (34, "RTMIN") :: ((List.range 15).map fun n => (35 + n, s!"RTMIN+{n + 1}")) ++
    ((List.range 14).map fun n => (50 + n, s!"RTMAX-{14 - n}")) ++ [(64, "RTMAX")]

def signals : List (Nat × String) := commonSignals ++ freeSignals

/-- The signal that a word names, by its number or its name, which may have a start of its own. -/
def signal? (word : Octets) : Option (Nat × String) :=
  match Octets.number? word with
  | some n => (signals.find? (·.1 = n))
  | none =>
      let name := (String.ofList word).toUpper
      let name := if name.startsWith "SIG" then (name.drop 3).toString else name
      signals.find? (·.2 = name)

def bareSignals : List (Nat × String) := signals.filter (·.1 ≠ 16)

def bareSignal? (word : Octets) : Option (Nat × String) :=
  match Octets.number? word with
  | some n => (signals.find? (·.1 = n))
  | none => bareSignals.find? (·.2 = (String.ofList word).toUpper)

/-- Nobody who has not asked for the signal with this number minds it. -/
def isHarmless (number : Nat) : Bool := [0, 17, 18, 19, 20, 21, 22, 23, 28].contains number

end BlockExtension.Shell

import FlagSearch.CommandLine.Invocation
import FlagSearch.Report.Summary

/-!
# Carrying out commands

* `Finish` — how a command ends.
* `Finish.exitCode`, `Finish.output`, `Finish.errors` — its status and what it prints.
* `execute` — the command that arguments ask for, on any machine.
-/

namespace FlagSearch.CommandLine

inductive Finish where
  | printed (text : String)
  | refused (refusal : Refusal)
  | failed (failure : Failure)
  | fault (f : Fault)
  deriving DecidableEq

def usageText : String :=
  "Usage: flagsearch run [OPTIONS] <FLAGS> <SOURCES>...\n"
    ++ "       flagsearch inspect [--top <N>] <REPORT>\n"

namespace Finish

def faultStatus : Nat := 101

def exitCode : Finish → Nat
  | printed _ => 0
  | refused .help => 0
  | refused .usage => 2
  | failed failure => failure.exitCode
  | fault _ => faultStatus

def output : Finish → String
  | printed text => text
  | refused .help => usageText
  | refused .usage | failed _ | fault _ => ""

def errors : Finish → String
  | printed _ | refused .help => ""
  | refused .usage => usageText
  | failed failure => s!"error: {failure.message}\n"
  | fault f => s!"fault: {f.message}\n"

end Finish

variable {σ : Type} (machine : Machine σ)

def shownEntries : Nat := 10

def Finish.ofStop : Stop → Finish
  | .failure failure => .failed failure
  | .fault f => .fault f

def executeRun (options : SessionOptions) (entropy : UInt64) (world : σ) : Finish × σ :=
  match Session.prepare machine options world with
  | (.error failure, world) => (.failed failure, world)
  | (.ok session, world) =>
      match session.run machine entropy world with
      | (.error stop, world) => (.ofStop stop, world)
      | (.ok saved, world) => (.printed (saved.report.summary shownEntries), world)

def executeInspect (path : String) (top : Nat) (world : σ) : Finish :=
  match Report.load machine path world with
  | .error failure => .failed failure
  | .ok report => .printed (report.summary top)

def execute (arguments : List String) (entropy : UInt64) (world : σ) : Finish × σ :=
  match Invocation.ofArguments arguments with
  | .error refusal => (.refused refusal, world)
  | .ok (.run flagsPath sources given) =>
      executeRun machine (given.sessionOptions flagsPath sources) entropy world
  | .ok (.inspect path top) => (executeInspect machine path top world, world)

end FlagSearch.CommandLine

set_option autoImplicit false

namespace Runbook

inductive Sink where
  | page (name : String)
  | broken
deriving DecidableEq

structure Log where
  sink? : Option Sink
  written : List (String × String)

namespace Log

def empty : Log := ⟨none, []⟩

def install (log : Log) (sink : Sink) : Log := { log with sink? := some sink }

def line (log : Log) (text : String) : Log :=
  match log.sink? with
  | some (.page name) => { log with written := log.written ++ [(name, text ++ "\n")] }
  | _ => log

end Log

end Runbook

/-
**The host that a configuration is made for.**

The program knows three things of the host that it is built for and runs on. They are parameters
here: nothing is assumed of them.

* `Host`: a host.
* `Host.target`: the host, where a configuration is made for it.
-/

namespace OciBundle

/-- A host. -/
structure Host where
  /-- The operating system that the program is built for. -/
  os : String
  /-- The processor architecture that the program is built for. -/
  arch : String
  /-- The names of the capabilities that the running kernel supports. -/
  capabilities : List String
  deriving DecidableEq, Inhabited

namespace Host

/-- The host, where a configuration is made for it. -/
def target (host : Host) (specific : Bool) : Option Host :=
  if specific then some host else none

@[simp] theorem target_true (host : Host) : host.target true = some host := rfl

@[simp] theorem target_false (host : Host) : host.target false = none := rfl

end Host

end OciBundle

import MediaCatalog.Probe

/-!
# What can be done with a probe

The operations on a single probe as data, and what each gives back: an answer or a fault, and the
log records it leaves. What an operation gives back, and what it makes of the probe, depends on
the probe alone.
-/

namespace MediaCatalog

/-- An operation on a probe. -/
inductive Action
  /-- Test a resource and record what it matched by. -/
  | test (name : Option Text)
  /-- Ask what a resource would match by. -/
  | find (name : Option Text)
  /-- Ask whether skip lists skip what matched last. -/
  | skips (groups : List (Option Text))
  /-- Assign a category. -/
  | assign (mask : Int)
  /-- Record what matched, without a test. -/
  | remember (matched : Option Text)
  /-- Link to the probe of an alternate format. -/
  | link (secondary : Option ProbeRef)
  /-- Ask what can be seen. -/
  | describe
deriving DecidableEq, Repr

/-- The answer of an operation on a probe. -/
inductive Answer
  /-- It is done. -/
  | done
  /-- Yes or no. -/
  | verdict (b : Bool)
  /-- What a resource would match by. -/
  | found (extension : Option Text)
  /-- What can be seen. -/
  | description (d : Description)
deriving DecidableEq, Repr

/-- Why an operation on a probe is refused. -/
inductive Fault
  /-- The library refuses. -/
  | refused (e : Error)
  /-- The mask to be assigned is negative. -/
  | negative (n : NegativeMask)
  /-- There is no such probe. -/
  | noProbe
deriving DecidableEq, Repr

/-- What an operation on a probe gives back. -/
structure Reply where
  /-- The answer, unless it is refused. -/
  result : Except Fault Answer
  /-- The log records. -/
  log : List LogRecord := []

namespace Probe

/-- Carries out an operation on a probe. -/
def act (p : Probe) : Action → Reply × Probe
  | .test name => (⟨.ok (.verdict (p.test name).1), []⟩, (p.test name).2)
  | .find name => (⟨.ok (.found (p.find name)), []⟩, p)
  | .skips groups => (⟨.ok (.verdict (p.skips groups)), []⟩, p)
  | .assign mask =>
    match p.assign mask with
    | .ok (q, log) => (⟨.ok .done, log⟩, q)
    | .error n => (⟨.error (.negative n), []⟩, p)
  | .remember matched => (⟨.ok .done, []⟩, p.remember matched)
  | .link secondary => (⟨.ok .done, []⟩, p.link secondary)
  | .describe => (⟨.ok (.description p.describe), []⟩, p)

/-- Carries out operations on a probe, one after the other. -/
def actAll (p : Probe) : List Action → List Reply × Probe
  | [] => ([], p)
  | a :: rest =>
    let (reply, q) := p.act a
    let (replies, r) := q.actAll rest
    (reply :: replies, r)

end Probe

end MediaCatalog

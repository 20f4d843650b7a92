import MediaCatalog.Probe.Action
import MediaCatalog.Renderer

/-!
# The store of probes

Probes live in a store and are known by reference, so that several names can stand for the same
probe and probes can refer to one another, also in circles. A reference is given out once and
never given to another probe.

Beside the probes the store holds the default renderer. Whether media can be played as they are is
for a renderer to say: the one that is named with the question, or else the default one. Each
question is put to one renderer, once, and the store's trace shows it.
-/

namespace MediaCatalog

/-- A question that was put to a renderer, with its answer. -/
structure Consultation where
  /-- The renderer that was asked. -/
  renderer : Renderer
  /-- The resource it was asked about. -/
  resource : Option Text
  /-- The probe it was asked about. -/
  probe : ProbeRef
  /-- The format of that probe. -/
  format : Format
  /-- What the renderer said. -/
  verdict : Bool
deriving DecidableEq

/-- A store of probes, with the default renderer. -/
structure Store where
  /-- The probes, by reference. -/
  probes : List Probe := []
  /-- The renderer that is asked where none is named. -/
  standard : Option Renderer := none
deriving DecidableEq

namespace Store

/-- A step on a store. -/
inductive Step
  /-- Make a probe of a format. -/
  | create (f : Format)
  /-- Make a new probe of the format of a probe. -/
  | recreate (ref : ProbeRef)
  /-- Copy a probe. -/
  | copy (ref : ProbeRef)
  /-- Operate on a probe. -/
  | act (ref : ProbeRef) (a : Action)
  /-- Ask whether media in the format of a probe can be played as they are. -/
  | ask (ref : ProbeRef) (resource : Option Text) (renderer : Option Renderer)
  /-- Install a default renderer. -/
  | install (r : Renderer)
  /-- Remove the default renderer. -/
  | uninstall
  /-- Ask for the default renderer. -/
  | installed
deriving DecidableEq

/-- The answer to a step. -/
inductive Answer
  /-- The answer of an operation on a probe. -/
  | ofProbe (a : MediaCatalog.Answer)
  /-- The probe that was made. -/
  | made (ref : ProbeRef)
  /-- The default renderer. -/
  | renderer (r : Renderer)
deriving DecidableEq

/-- It is done. -/
def Answer.done : Answer := .ofProbe .done

/-- What a step leaves in the trace. -/
structure Event where
  /-- The answer, unless the step is refused. -/
  result : Except Fault Answer
  /-- The log records. -/
  log : List LogRecord := []
  /-- The renderers that were asked. -/
  consulted : List Consultation := []

/-- The log record of an installation. -/
def installation (r : Renderer) : LogRecord where
  level := .debug
  source := .renderers
  message := "Default renderer set to ".toList ++ r.written

/-- The log record of a question that goes to the default renderer. -/
def fallback (r : Renderer) (f : Format) : LogRecord where
  level := .debug
  source := .formats
  message := "Using default renderer ".toList ++ r.written ++ " for ".toList ++ f.name

/-- The default renderer, if one is installed. -/
def standard? (s : Store) : Except Error Renderer :=
  match s.standard with
  | some r => .ok r
  | none => .error .noRenderer

/-- Puts a question to a renderer. -/
def consult (r : Renderer) (ref : ProbeRef) (resource : Option Text) (f : Format) : Consultation :=
  ⟨r, resource, ref, f, r.plays resource f⟩

/-- Adds a probe to a store. -/
def add (s : Store) (p : Probe) : Event × Store :=
  (⟨.ok (.made s.probes.length), [], []⟩, { s with probes := s.probes ++ [p] })

/-- Carries out a step. A step that is refused leaves the store as it is. -/
def step (s : Store) : Step → Event × Store
  | .create f => s.add (Probe.ofFormat f)
  | .recreate ref =>
    match s.probes[ref]? with
    | none => (⟨.error .noProbe, [], []⟩, s)
    | some p => s.add (Probe.ofFormat p.format)
  | .copy ref =>
    match s.probes[ref]? with
    | none => (⟨.error .noProbe, [], []⟩, s)
    | some p =>
      match p.copy with
      | .ok q => s.add q
      | .error e => (⟨.error (.refused e), [p.copyFailed], []⟩, s)
  | .act ref a =>
    match s.probes[ref]? with
    | none => (⟨.error .noProbe, [], []⟩, s)
    | some p =>
      let (reply, q) := p.act a
      (⟨reply.result.map .ofProbe, reply.log, []⟩, { s with probes := s.probes.set ref q })
  | .ask ref resource renderer =>
    match s.probes[ref]? with
    | none => (⟨.error .noProbe, [], []⟩, s)
    | some p =>
      match renderer with
      | some r =>
        let c := consult r ref resource p.format
        (⟨.ok (.ofProbe (.verdict c.verdict)), [], [c]⟩, s)
      | none =>
        match s.standard? with
        | .error e => (⟨.error (.refused e), [], []⟩, s)
        | .ok r =>
          let c := consult r ref resource p.format
          (⟨.ok (.ofProbe (.verdict c.verdict)), [fallback r p.format], [c]⟩, s)
  | .install r => (⟨.ok .done, [installation r], []⟩, { s with standard := some r })
  | .uninstall => (⟨.ok .done, [], []⟩, { s with standard := none })
  | .installed =>
    match s.standard? with
    | .ok r => (⟨.ok (.renderer r), [], []⟩, s)
    | .error e => (⟨.error (.refused e), [], []⟩, s)

/-- Carries out steps, one after the other. -/
def run (s : Store) : List Step → List Event × Store
  | [] => ([], s)
  | a :: rest =>
    let (event, t) := s.step a
    let (events, u) := t.run rest
    (event :: events, u)

end Store

end MediaCatalog

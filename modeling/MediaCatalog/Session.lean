import MediaCatalog.Catalog
import MediaCatalog.Store

/-!
# Sessions

A session is how a client works with a store: probes are held in named slots, renderers under
names of their own. A slot holds a reference, so that two slots may hold the same probe, and
filling a slot anew leaves the probe it held to whatever else refers to it.

Most steps of a session come down to a step on the store, once the names in it are replaced by what
they stand for; `Session.resolve` does that. A step that is refused leaves the session as it is.
-/

namespace MediaCatalog

/-- A session of work with a store. -/
structure Session where
  /-- The store. -/
  store : Store := {}
  /-- The slots that hold a probe, in the order of their names. -/
  slots : List (Text × ProbeRef) := []
  /-- The renderers that have a name. -/
  renderers : List (Text × Renderer) := []
deriving DecidableEq

namespace Session

/-- Fills a slot. The slots stay in the order of their names. -/
def fillSlot (name : Text) (ref : ProbeRef) : List (Text × ProbeRef) → List (Text × ProbeRef)
  | [] => [(name, ref)]
  | (other, held) :: rest =>
    if name = other then (name, ref) :: rest
    else if name < other then (name, ref) :: (other, held) :: rest
    else (other, held) :: fillSlot name ref rest

/-- A session with a slot filled. -/
def fill (s : Session) (slot : Text) (ref : ProbeRef) : Session :=
  { s with slots := fillSlot slot ref s.slots }

/-- The probe that a slot holds. -/
def held (s : Session) (slot : Text) : Option ProbeRef := s.slots.lookup slot

/-- The slots that hold a probe, in the order of their names. -/
def slotsOf (s : Session) (ref : ProbeRef) : List Text :=
  (s.slots.filter fun slot => slot.2 = ref).map Prod.fst

/-- A session with a renderer named. -/
def nameRenderer (s : Session) (id : Text) (r : Renderer) : Session :=
  { s with renderers := (id, r) :: s.renderers }

/-- A step of a session. -/
inductive Step
  /-- Make a probe of the format that a text names. -/
  | new (slot format : Text)
  /-- Make a probe of a format that is declared on the spot. -/
  | define (slot : Text) (f : Format)
  /-- Make a new probe of the format of the probe in a slot. -/
  | fresh (slot source : Text)
  /-- Operate on the probe in a slot. -/
  | act (slot : Text) (a : Action)
  /-- Link the probe in a slot to that in another slot, or to none. -/
  | link (slot : Text) (secondary : Option Text)
  /-- Copy the probe in a slot into another slot. -/
  | copy (slot into : Text)
  /-- Ask whether media can be played as they are. -/
  | ask (slot : Text) (resource : Option Text) (renderer : Option Text)
  /-- Name the renderer of a profile that plays the formats of a list. -/
  | profile (id name : Text) (formats : List Text)
  /-- Name a renderer that gives one answer. -/
  | fixed (id : Text) (verdict : Bool)
  /-- Install a named renderer as the default one. -/
  | install (id : Text)
  /-- Remove the default renderer. -/
  | uninstall
  /-- Ask for the default renderer. -/
  | installed
  /-- Ask whether two named renderers are the same. -/
  | same (id other : Text)
  /-- Ask how a named renderer is written. -/
  | written (id : Text)
deriving DecidableEq

/-- Why a step of a session is refused. -/
inductive Fault
  /-- A slot or a renderer of this name is missing. -/
  | unbound (name : Text)
  /-- The step on the store is refused. -/
  | ofStore (f : MediaCatalog.Fault)
deriving DecidableEq

/-- The answer to a step of a session. -/
inductive Answer
  /-- The answer to a step on the store. -/
  | ofStore (a : Store.Answer)
  /-- The probe that was copied, and its copy. -/
  | copied (source copy : ProbeRef)
  /-- A text. -/
  | text (t : Text)
deriving DecidableEq

/-- What a step of a session gives back. -/
structure Event where
  /-- The answer, unless the step is refused. -/
  result : Except Fault Answer
  /-- The log records. -/
  log : List LogRecord := []
  /-- The renderers that were asked. -/
  consulted : List Consultation := []

/-- The probe that a slot holds, which has to be filled. -/
def probe (s : Session) (slot : Text) : Except Fault ProbeRef :=
  match s.held slot with
  | some ref => .ok ref
  | none => .error (.unbound slot)

/-- The renderer of a name. -/
def renderer (s : Session) (id : Text) : Except Fault Renderer :=
  match s.renderers.lookup id with
  | some r => .ok r
  | none => .error (.unbound id)

/-- What an error of the library means for a session. -/
def refuse {α : Type} (r : Except Error α) : Except Fault α :=
  r.mapError fun e => .ofStore (.refused e)

/-- What a step of a session comes down to. -/
inductive Plan
  /-- A step on the store, and the slot that takes the probe it makes. -/
  | onStore (step : Store.Step) (slot : Option Text)
  /-- A renderer that gets a name, and the answer to that. -/
  | name (id : Text) (r : Renderer) (answer : Store.Answer)
  /-- An answer that needs no step. -/
  | say (answer : Answer)
deriving DecidableEq

/-- What a step of a session comes down to, once the names in it are replaced by what they stand
for. -/
def resolve (s : Session) : Step → Except Fault Plan
  | .new slot format => do
    let f ← refuse (Catalog.lookup format)
    return .onStore (.create f) (some slot)
  | .define slot f => return .onStore (.create f) (some slot)
  | .fresh slot source => do
    let ref ← s.probe source
    return .onStore (.recreate ref) (some slot)
  | .act slot a => do
    let ref ← s.probe slot
    return .onStore (.act ref a) none
  | .link slot none => do
    let ref ← s.probe slot
    return .onStore (.act ref (.link none)) none
  | .link slot (some other) => do
    let ref ← s.probe slot
    let target ← s.probe other
    return .onStore (.act ref (.link (some target))) none
  | .copy slot into => do
    let ref ← s.probe slot
    return .onStore (.copy ref) (some into)
  | .ask slot resource none => do
    let ref ← s.probe slot
    return .onStore (.ask ref resource none) none
  | .ask slot resource (some id) => do
    let ref ← s.probe slot
    let r ← s.renderer id
    return .onStore (.ask ref resource (some r)) none
  | .profile id name formats => do
    let ids ← refuse (formats.mapM Catalog.readId)
    let r := Renderer.device (Profile.ofList name ids)
    return .name id r (.renderer r)
  | .fixed id verdict => return .name id (.fixed id verdict) .done
  | .install id => do
    let r ← s.renderer id
    return .onStore (.install r) none
  | .uninstall => return .onStore .uninstall none
  | .installed => return .onStore .installed none
  | .same id other => do
    let a ← s.renderer id
    let b ← s.renderer other
    return .say (.ofStore (.ofProbe (.verdict (a == b))))
  | .written id => do
    let r ← s.renderer id
    return .say (.text r.written)

/-- Puts the probe that a step on the store has made into its slot. -/
def place (s : Session) (slot : Option Text) (event : Store.Event) : Session :=
  match slot, event.result with
  | some slot, .ok (.made ref) => s.fill slot ref
  | _, _ => s

/-- The answer to a step that came down to one on the store. -/
def answer : Store.Step → Store.Answer → Answer
  | .copy ref, .made copy => .copied ref copy
  | _, a => .ofStore a

/-- Carries out what a step comes down to. -/
def perform (s : Session) : Plan → Event × Session
  | .onStore a slot =>
    let (event, store) := s.store.step a
    (⟨(event.result.map (answer a)).mapError .ofStore, event.log, event.consulted⟩,
      { s with store }.place slot event)
  | .name id r result => (⟨.ok (.ofStore result), [], []⟩, s.nameRenderer id r)
  | .say result => (⟨.ok result, [], []⟩, s)

/-- Carries out a step. -/
def step (s : Session) (a : Step) : Event × Session :=
  match s.resolve a with
  | .error fault => (⟨.error fault, [], []⟩, s)
  | .ok plan => s.perform plan

/-- Carries out steps, one after the other. -/
def run (s : Session) : List Step → List Event × Session
  | [] => ([], s)
  | a :: rest =>
    let (event, t) := s.step a
    let (events, u) := t.run rest
    (event :: events, u)

/-! ### What can be seen of a slot -/

/-- What can be seen of the probe in a slot. -/
structure View where
  /-- The name of the format. -/
  name : Text
  /-- The mask of the categories. -/
  mask : Nat
  /-- What matched last. -/
  matched : Option Text
  /-- The name of the alternate format and the slots that hold its probe. -/
  secondary : Option (Text × List Text)
deriving DecidableEq, Repr

/-- What can be seen of a probe. -/
def view (s : Session) (ref : ProbeRef) : Option View := do
  let p ← s.store.probes[ref]?
  let secondary := p.secondary.bind fun other =>
    (s.store.probes[other]?).map fun q => (q.format.name, s.slotsOf other)
  return ⟨p.format.name, p.mask, p.matched, secondary⟩

/-- What can be seen of the probe in a slot. -/
def viewSlot (s : Session) (slot : Text) : Option View := (s.held slot).bind s.view

end Session

end MediaCatalog

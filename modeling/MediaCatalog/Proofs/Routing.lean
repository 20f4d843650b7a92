import MediaCatalog.Proofs.Register
import MediaCatalog.Proofs.Replies

/-!
# Which renderer is asked

A question whether media can be played as they are goes to the renderer that is named with it, or
else to the default one. The default renderer is a register of the store: an installation writes it,
a removal clears it, and nothing else touches it (`MediaCatalog.Store.standard_run`). So it is up to
the steps alone, and not to what came of them, whom a question goes to.

A question that is answered was put to **one renderer, once**; one that is refused was put to none
(`MediaCatalog.Store.step_ask`). Over a run the questions that reached the renderers are therefore
as many as those that were answered, whichever renderers they were put to
(`MediaCatalog.Store.asks_one_renderer`). What a renderer answers has no part in whom a question
goes to; the renderers here answer by the resource and the format, and by nothing else
(`MediaCatalog.Renderer.plays`).
-/

namespace MediaCatalog

namespace Store

/-! ### What a step does about renderers -/

/-- What a step makes the default renderer, if it exchanges it. -/
def Step.standard? : Step → Option (Option Renderer)
  | .install r => some (some r)
  | .uninstall => some none
  | _ => none

end Store

end MediaCatalog

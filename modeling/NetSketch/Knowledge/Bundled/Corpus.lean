import NetSketch.Knowledge.Bundled.AntiPatterns
import NetSketch.Knowledge.Bundled.Blueprints
import NetSketch.Knowledge.Bundled.Failures
import NetSketch.Knowledge.Bundled.Relationships
import NetSketch.Knowledge.Store

/-!
# The bundled corpus

* `Corpus.bundled`, `Store.bundled`.
-/

namespace NetSketch

/-- The corpus that is used when no other one is given. -/
def Corpus.bundled : Corpus :=
  ⟨bundledRelationships, bundledAntiPatterns, bundledFailures, bundledBlueprints⟩

/-- The store of the bundled corpus. -/
def Store.bundled : Store := .ofCorpus .bundled

end NetSketch

import NetSketch.Knowledge.Matching

/-!
# The knowledge store

A corpus with its entries under the component types that they are about.

* `Index`: entries under component types;
* `Store`, `Store.ofCorpus`; look-ups `Store.relationshipsFor`, `Store.conflictsFor`,
  `Store.dependenciesFor`, `Store.mandatoryFor`, `Store.failuresFor`, `Store.antiPattern?`;
* `Store.antiPatternsIn`, `Store.blueprintsIn`: what a view shows;
* `Store.stats`: how many entries there are.
-/

namespace NetSketch

/-! ## Entries under types -/

/-- Entries under component types, in the order in which they were added. -/
abbrev Index (α : Type) := List (Component × List α)

namespace Index

variable {α : Type}

/-- An entry added under a type. -/
def add (c : Component) (a : α) : Index α → Index α
  | [] => [(c, [a])]
  | (d, as) :: rest => if d = c then (d, as ++ [a]) :: rest else (d, as) :: add c a rest

/-- The entries under a type. -/
def get (index : Index α) (c : Component) : List α := (index.lookup c).getD []

end Index

/-! ## The store -/

/-- A relationship, and the type that would satisfy it. -/
abbrev Dependency := Relationship × Component

/-- A corpus and its indexes. -/
structure Store where
  corpus : Corpus
  byType : Index Relationship := []
  conflicts : Index Relationship := []
  dependencies : Index Dependency := []
  failures : Index Failure := []

/-- Worse impacts first, those of one impact as they were. -/
def byImpact (failures : List Failure) : List Failure :=
  failures.mergeSort fun a b => a.impact.order ≤ b.impact.order

/-- The relationships whose id is not that of one further in front, `seen` being in front of
all. -/
def unseenIds (seen : List (Option Json.Key)) : List Relationship → List Relationship
  | [] => []
  | r :: rest =>
    if seen.contains r.id.key? then unseenIds seen rest
    else r :: unseenIds (r.id.key? :: seen) rest

/-- Relationships, of each id the first. -/
def distinctIds (rs : List Relationship) : List Relationship := unseenIds [] rs

namespace Store

/-- A store that knows one more relationship. An enhanced component depends on what enhances
it. -/
def learn (s : Store) (r : Relationship) : Store :=
  let s := { s with byType := (s.byType.add r.source r).add r.target r }
  match r.relation with
  | .conflicts => { s with conflicts := (s.conflicts.add r.source r).add r.target r }
  | .requires | .recommends =>
    let dependencies := s.dependencies.add r.source (r, r.target)
    { s with dependencies :=
        if r.direction = .bidirectional then dependencies.add r.target (r, r.source)
        else dependencies }
  | .enhances => { s with dependencies := s.dependencies.add r.target (r, r.source) }
  | .protects => s

/-- **The store of a corpus.** -/
def ofCorpus (corpus : Corpus) : Store :=
  { corpus.relationships.foldl learn { corpus } with
    failures := corpus.failures.foldl (fun index f => index.add f.component f) [] }

variable (s : Store)

/-! ## Look-ups -/

/-- The relationships with a type at either end, one with the type at both ends twice. -/
def relationshipsFor (c : Component) : List Relationship := s.byType.get c

/-- The conflicts of a type. -/
def conflictsFor (c : Component) : List Relationship := s.conflicts.get c

/-- What a type depends on. -/
def dependenciesFor (c : Component) : List Dependency := s.dependencies.get c

/-- The types that a type cannot do without. -/
def mandatoryFor (c : Component) : List Component :=
  ((s.dependenciesFor c).filter (·.1.isMandatory)).map (·.2)

/-- The failures of a type, the worst first. -/
def failuresFor (c : Component) : List Failure := byImpact (s.failures.get c)

/-- The anti-pattern of an id. -/
def antiPattern? (id : Json.Key) : Option AntiPattern :=
  s.corpus.antiPatterns.find? (·.id.key? == some id)

/-- The anti-patterns that a view shows. -/
def antiPatternsIn (v : View) : Except Fault (List AntiPattern) :=
  s.corpus.antiPatterns.filterM (·.fits v)

/-- The blueprints that a view meets. -/
def blueprintsIn (v : View) : Except Fault (List Blueprint) :=
  s.corpus.blueprints.filterM (·.fits v)

/-- How many relationships there are of every kind that occurs. -/
def relationCounts : List (Relation × Nat) := tally (s.corpus.relationships.map (·.relation))

/-- How many entries there are of every kind. -/
def stats : Fields :=
  let counts : List (String × Nat) := [("relationships", s.corpus.relationships.length),
    ("anti_patterns", s.corpus.antiPatterns.length), ("failures", s.corpus.failures.length),
    ("patterns", s.corpus.blueprints.length)]
  let ofKinds := s.relationCounts.map fun (kind, n) => ("relationships_" ++ kind.name, n)
  (counts ++ ofKinds).map fun (name, n) => (name, .int n)

end Store

end NetSketch

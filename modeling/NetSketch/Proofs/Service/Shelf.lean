import Mathlib.Data.List.Basic
import Mathlib.Data.List.Induction
import Mathlib.Tactic.SplitIfs
import NetSketch.Service.Shelf

/-!
# What a shelf keeps

A shelf is what the writes have made of it, one after the other. Under an id it keeps a diagram that
belongs to the first writer and is the one of the last write. Beside it stand values that were
given; a value that is the same as the one that is kept leaves that one in its place.

* `keptOf`, `Keeps`: what is kept of values given one after the other; **`keeps_keptOf`**;
* `Write`, `Shelf.write`, `under`: writes, and those under an id; `Shelf.get?_write`;
* `Recorded`, `Tells`: what a diagram and a shelf tell of the writes; **`Tells.write`**,
  **`Tells.foldl`**.
-/

namespace NetSketch.Service

/-! ## Values given one after the other -/

/-- Whether a value is given: it is not null. -/
def isGiven : Json → Bool
  | .null => false
  | _ => true

/-- What is kept of values given one after the other. -/
def keptOf (values : List Json) : Json := values.foldl orKept .null

/-- The latest value that was given. -/
def latest? (values : List Json) : Option Json := (values.filter isGiven).getLast?

/-- **What may be kept of values given one after the other.** -/
inductive Keeps (values : List Json) : Json → Prop
  /-- None was given. -/
  | nothing (h : latest? values = none) : Keeps values .null
  /-- The latest one, as a column keeps it. -/
  | latest {v : Json} (h : latest? values = some v) : Keeps values (inColumn v)
  /-- An earlier one that the latest one is the same as. -/
  | earlier {u v : Json} (hu : u ∈ values) (h : latest? values = some v)
      (hsame : v.same (inColumn u) = true) : Keeps values (inColumn u)

section Values

variable {values : List Json} {old new kept : Json}

theorem eq_null_of_not_given (h : isGiven new = false) : new = .null := by
  cases new with
  | null => rfl
  | bool | int | float | str | arr | obj => cases h

theorem latest?_concat_null : latest? (values ++ [.null]) = latest? values := by
  simp [latest?, isGiven]

theorem latest?_concat (values : List Json) (h : isGiven new = true) :
    latest? (values ++ [new]) = some new := by
  simp [latest?, h]

theorem mem_of_latest? {v : Json} (h : latest? values = some v) : v ∈ values :=
  List.mem_of_mem_filter (List.mem_of_getLast? h)

theorem same_null (h : isGiven new = true) : new.same .null = false := by
  cases new with
  | null => cases h
  | bool | int | float | str | arr | obj => rfl

theorem orKept_of_given (h : isGiven new = true) :
    orKept old new = if new.same old then old else inColumn new := by
  cases new with
  | null => cases h
  | bool | int | float | str | arr | obj => rfl

theorem orKept_null_left : orKept .null new = inColumn new := by
  cases h : isGiven new with
  | true => rw [orKept_of_given h, same_null h, if_neg Bool.false_ne_true]
  | false => rw [eq_null_of_not_given h]; rfl

theorem Keeps.concat (h : Keeps values kept) (new : Json) :
    Keeps (values ++ [new]) (orKept kept new) := by
  cases hnew : isGiven new with
  | false =>
    obtain rfl := eq_null_of_not_given hnew
    cases h with
    | nothing h => exact .nothing (latest?_concat_null.trans h)
    | latest h => exact .latest (latest?_concat_null.trans h)
    | earlier hu h hsame =>
      exact .earlier (List.mem_append_left _ hu) (latest?_concat_null.trans h) hsame
  | true =>
    have hlatest := latest?_concat values hnew
    rw [orKept_of_given hnew]
    by_cases hsame : new.same kept = true
    · -- What is kept stays, whichever of the values before it is.
      rw [if_pos hsame]
      cases h with
      | nothing => simp [same_null hnew] at hsame
      | latest h => exact .earlier (List.mem_append_left _ (mem_of_latest? h)) hlatest hsame
      | earlier hu => exact .earlier (List.mem_append_left _ hu) hlatest hsame
    · rw [if_neg hsame]
      exact .latest hlatest

theorem keptOf_concat (values : List Json) (new : Json) :
    keptOf (values ++ [new]) = orKept (keptOf values) new :=
  List.foldl_concat ..

/-- **What is kept is the latest value or one that it is the same as.** -/
theorem keeps_keptOf (values : List Json) : Keeps values (keptOf values) := by
  induction values using List.reverseRecOn with
  | nil => exact .nothing rfl
  | append_singleton values new ih =>
    rw [keptOf_concat]
    exact ih.concat new

end Values

/-! ## Writes -/

/-- What is stored: by whom, under which id, and what. -/
structure Write where
  caller : String
  id : String
  update : Update

/-- The diagram of a first write. -/
def Write.first (x : Write) : StoredDiagram :=
  { id := x.id, owner := x.caller, spec := x.update.spec
    nodes := inColumn x.update.nodes, edges := inColumn x.update.edges }

/-- The writes under an id. -/
def under (id : String) (ws : List Write) : List Write := ws.filter (·.id == id)

theorem under_concat_self (ws : List Write) (x : Write) :
    under x.id (ws ++ [x]) = under x.id ws ++ [x] := by
  simp [under]

theorem under_concat_of_ne {id : String} (ws : List Write) {x : Write} (h : id ≠ x.id) :
    under id (ws ++ [x]) = under id ws := by
  simp [under, h.symm]

namespace Shelf

variable {shelf : Shelf} {id : String} {d : StoredDiagram}

/-- The shelf behind a write. -/
def write (shelf : Shelf) (x : Write) : Shelf := (shelf.save x.caller x.id x.update).2

theorem id_of_get? (h : shelf.get? id = some d) : d.id = id := by
  simpa using List.find?_some h

theorem get?_map {f : StoredDiagram → StoredDiagram} (hf : ∀ e, (f e).id = e.id) :
    get? (shelf.map f) id = (shelf.get? id).map f := by
  rw [get?, List.find?_map]
  simp only [Function.comp_def, hf]
  rfl

theorem get?_write_of_some {x : Write} (h : shelf.get? x.id = some d) :
    (shelf.write x).get? id =
      (shelf.get? id).map fun e => if e.id = x.id then d.update x.update else e := by
  rw [write, save, h]
  refine get?_map fun e => ?_
  split_ifs with he
  · rw [he, ← id_of_get? h]
    rfl
  · rfl

theorem get?_write_of_none {x : Write} (h : shelf.get? x.id = none) :
    (shelf.write x).get? id = (shelf.get? id).or (if x.id = id then some x.first else none) := by
  rw [write, save, h, get?, List.find?_append, ← get?, List.find?_singleton]
  simp only [beq_iff_eq]
  rfl

theorem get?_write_self (shelf : Shelf) (x : Write) :
    (shelf.write x).get? x.id = some (shelf.save x.caller x.id x.update).1 := by
  cases h : shelf.get? x.id with
  | none =>
    rw [get?_write_of_none h, h, save, h, if_pos rfl]
    rfl
  | some d =>
    rw [get?_write_of_some h, h, save, h, Option.map_some, if_pos (id_of_get? h)]

theorem get?_write_of_ne {x : Write} (hne : id ≠ x.id) :
    (shelf.write x).get? id = shelf.get? id := by
  cases h : shelf.get? x.id with
  | none => rw [get?_write_of_none h, if_neg hne.symm, Option.or_none]
  | some d =>
    rw [get?_write_of_some h]
    cases he : shelf.get? id with
    | none => rfl
    | some e => rw [Option.map_some, if_neg ((id_of_get? he).symm ▸ hne)]

end Shelf

/-! ## What is told of the writes -/

/-- **The diagram of some writes under one id.** It belongs to the first writer and is the one of
the last write. -/
structure Recorded (ws : List Write) (d : StoredDiagram) : Prop where
  owner : ws.head?.map (·.caller) = some d.owner
  spec : ws.getLast?.map (·.update.spec) = some d.spec
  nodes_eq : d.nodes = keptOf (ws.map (·.update.nodes))
  edges_eq : d.edges = keptOf (ws.map (·.update.edges))
  nodes : Keeps (ws.map (·.update.nodes)) d.nodes
  edges : Keeps (ws.map (·.update.edges)) d.edges

theorem Recorded.of_eq {ws : List Write} {d : StoredDiagram}
    (owner : ws.head?.map (·.caller) = some d.owner)
    (spec : ws.getLast?.map (·.update.spec) = some d.spec)
    (nodes : d.nodes = keptOf (ws.map (·.update.nodes)))
    (edges : d.edges = keptOf (ws.map (·.update.edges))) : Recorded ws d :=
  ⟨owner, spec, nodes, edges, nodes ▸ keeps_keptOf _, edges ▸ keeps_keptOf _⟩

theorem recorded_first (x : Write) : Recorded [x] x.first :=
  .of_eq rfl rfl orKept_null_left.symm orKept_null_left.symm

theorem Recorded.update {ws : List Write} {d : StoredDiagram} (h : Recorded ws d) (x : Write) :
    Recorded (ws ++ [x]) (d.update x.update) := by
  refine .of_eq ?_ ?_ ?_ ?_
  · have howner := h.owner
    rw [List.head?_append]
    cases hhead : ws.head? with
    | none => simp [hhead] at howner
    | some y =>
      rw [hhead] at howner
      exact howner
  · simp [StoredDiagram.update]
  · rw [List.map_append, List.map_singleton, keptOf_concat, ← h.nodes_eq]
    rfl
  · rw [List.map_append, List.map_singleton, keptOf_concat, ← h.edges_eq]
    rfl

/-- **What a shelf tells of writes**: there is a diagram under every id that was written, and it is
the one of the writes under the id. -/
structure Tells (ws : List Write) (shelf : Shelf) : Prop where
  absent : ∀ id, shelf.get? id = none ↔ under id ws = []
  recorded : ∀ id d, shelf.get? id = some d → d.id = id ∧ Recorded (under id ws) d

theorem tells_nil : Tells [] [] where
  absent _ := iff_of_true rfl rfl
  recorded _ _ h := by cases h

theorem Tells.write {ws : List Write} {shelf : Shelf} (h : Tells ws shelf) (x : Write) :
    Tells (ws ++ [x]) (shelf.write x) where
  absent id := by
    by_cases hid : id = x.id
    · subst hid
      rw [Shelf.get?_write_self, under_concat_self]
      simp
    · rw [Shelf.get?_write_of_ne hid, under_concat_of_ne ws hid]
      exact h.absent id
  recorded id d hd := by
    by_cases hid : id = x.id
    · subst hid
      refine ⟨Shelf.id_of_get? hd, ?_⟩
      rw [Shelf.get?_write_self, Shelf.save] at hd
      rw [under_concat_self]
      cases hold : shelf.get? x.id with
      | none =>
        rw [hold] at hd
        obtain rfl := Option.some.inj hd
        rw [(h.absent x.id).mp hold]
        exact recorded_first x
      | some old =>
        rw [hold] at hd
        obtain rfl := Option.some.inj hd
        exact (h.recorded x.id old hold).2.update x
    · rw [Shelf.get?_write_of_ne hid] at hd
      rw [under_concat_of_ne ws hid]
      exact h.recorded id d hd

theorem Tells.foldl {ws : List Write} {shelf : Shelf} (h : Tells ws shelf) (more : List Write) :
    Tells (ws ++ more) (more.foldl Shelf.write shelf) := by
  induction more generalizing ws shelf with
  | nil => rwa [List.append_nil]
  | cons x rest ih =>
    rw [List.append_cons]
    exact ih (h.write x)

end NetSketch.Service

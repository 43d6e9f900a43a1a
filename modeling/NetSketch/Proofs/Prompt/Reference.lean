import NetSketch.Change.Addition
import NetSketch.Change.Joining
import NetSketch.Proofs.Diagram.Edits

/-!
# Named nodes are nodes of the diagram

Whatever a prompt names or refers to is a node of the diagram that it is about, and no node is named
twice.

* `Spec.Told`: nodes of a diagram without repetition; `Spec.named_told`;
* `Spec.mem_of_resolve?`, `Spec.mem_of_resolveIn`: references;
* **`endpoints_told`**: the nodes to be connected.
-/

namespace NetSketch

open Prompt Text

namespace Spec

variable {s : Spec} {text : String} {n : Node} {type : Component}

theorem mem_nodesOfType : n ∈ s.nodesOfType type ↔ n ∈ s.nodes ∧ n.type = type := by
  simp [nodesOfType]

/-! ## Nodes named in a text -/

/-- Nodes of the diagram, none of them twice. -/
def Told (s : Spec) (found : List Node) : Prop :=
  found ⊆ s.nodes ∧ (found.map (·.id)).Nodup

theorem Told.nil : s.Told [] := ⟨List.nil_subset _, List.nodup_nil⟩

theorem Told.snoc {found : List Node} (h : s.Told found) (hn : n ∈ s.nodes)
    (hid : ∀ m ∈ found, m.id ≠ n.id) : s.Told (found ++ [n]) := by
  refine ⟨List.append_subset.mpr ⟨h.1, by simpa using hn⟩, ?_⟩
  rw [List.map_append, List.nodup_append]
  refine ⟨h.2, by simp, ?_⟩
  rintro i hi j hj rfl
  obtain ⟨m, hm, rfl⟩ := List.mem_map.mp hi
  exact hid m hm (by simpa using hj)

theorem Told.perm {found found' : List Node} (h : s.Told found) (hp : found'.Perm found) :
    s.Told found' :=
  ⟨fun _ hn => h.1 (hp.subset hn), ((hp.map _).nodup_iff).mpr h.2⟩

theorem namedById_told (hs : s.ids.Nodup) : s.Told ((s.namedById text).map (·.node)) := by
  have hsub : ((s.namedById text).map (·.node)).Sublist s.nodes := by
    rw [namedById, List.map_filterMap]
    have : ∀ l : List Node, (l.filterMap fun n =>
        (((idAlone (lower n.id)).find false text).map fun m =>
          (⟨m.start, m.finish, n⟩ : NamedNode)).map (·.node)).Sublist l := by
      intro l
      induction l with
      | nil => exact List.Sublist.slnil
      | cons n l ih =>
        cases h : (idAlone (lower n.id)).find false text with
        | none => simpa [h] using ih.cons n
        | some m => simpa [h] using ih.cons_cons n
    exact this s.nodes
  exact ⟨hsub.subset, hs.sublist (hsub.map _)⟩

theorem withMention_told {found : List NamedNode} (m : Mention)
    (h : s.Told (found.map (·.node))) : s.Told ((s.withMention found m).map (·.node)) := by
  unfold withMention
  split_ifs
  · exact h
  · split
    · rename_i n hn
      rw [List.map_append]
      refine h.snoc (mem_nodesOfType.mp (List.mem_of_find?_eq_some hn)).1 ?_
      have := List.find?_some hn
      simpa using this
    · exact h

/-- **A text names nodes of the diagram, none of them twice.** -/
theorem named_told (hs : s.ids.Nodup) : s.Told (s.named text) := by
  have hfound : s.Told
      (((mentions (lower text)).foldl s.withMention (s.namedById (lower text))).map (·.node)) :=
    List.foldlRecOn (motive := fun found : List NamedNode => s.Told (found.map (·.node))) _ _
      (namedById_told hs) fun _ h m _ => withMention_told m h
  exact hfound.perm ((List.mergeSort_perm _ _).map _)

/-! ## References -/

theorem mem_of_mentioned? (h : s.mentioned? text = some n) : n ∈ s.nodes := by
  obtain ⟨m, _, hm⟩ := List.exists_of_findSome?_eq_some h
  exact (mem_nodesOfType.mp (List.mem_of_head? hm)).1

theorem mem_of_resolve? {reference : Option String} (h : s.resolve? reference = some n) :
    n ∈ s.nodes := by
  cases reference with
  | none => cases h
  | some reference =>
    rw [resolve?] at h
    split_ifs at h
    simp only [Option.orElse_eq_orElse, Option.orElse_eq_or, Option.or_eq_some_iff] at h
    rcases h with h | ⟨-, h | ⟨-, h | ⟨-, h⟩⟩⟩
    · exact List.mem_of_find?_eq_some h
    · exact List.mem_of_find?_eq_some h
    · exact List.mem_of_find?_eq_some h
    · exact mem_of_mentioned? h

theorem mem_of_resolveIn {hint : Option Hint} {reference : Hint → Option String}
    (h : s.resolveIn hint reference = some n) : n ∈ s.nodes := by
  obtain ⟨_, _, h⟩ := Option.bind_eq_some_iff.mp h
  exact mem_of_resolve? h

/-! ## Nodes to be connected -/

theorem pickEach_told (hs : s.ids.Nodup) (types : List Component) : s.Told (s.pickEach types) := by
  unfold pickEach
  refine List.foldlRecOn types _ .nil fun found h type _ => ?_
  split
  · rename_i n hn
    have hmem := (mem_nodesOfType.mp (List.mem_of_find?_eq_some hn)).1
    refine h.snoc hmem fun m hm hid => ?_
    obtain rfl := node_ext_of_nodup hs (h.1 hm) hmem hid
    have := List.find?_some hn
    simp [hm] at this
  · exact h

theorem told_of_nodup (hs : s.ids.Nodup) {found : List Node} (hsub : found ⊆ s.nodes)
    (hnd : found.Nodup) : s.Told found :=
  ⟨hsub, hnd.map_on fun _ hm _ hn h => node_ext_of_nodup hs (hsub hm) (hsub hn) h⟩

end Spec

/-- **The nodes to be connected are nodes of the diagram, none of them twice.** -/
theorem endpoints_told {s : Spec} (hs : s.ids.Nodup) (prompt : String) (intent : Option Intent) :
    s.Told (endpoints prompt s intent) := by
  unfold endpoints
  split
  · refine Spec.told_of_nodup hs ?_ (nodup_eraseDups _)
    intro n hn
    rw [List.mem_eraseDups, List.mem_filterMap] at hn
    obtain ⟨o, ho, rfl⟩ := hn
    rcases List.mem_pair.mp ho with h | h
    · exact Spec.mem_of_resolve? h.symm
    · exact Spec.mem_of_resolve? h.symm
  · exact Spec.pickEach_told hs _
  · exact Spec.named_told hs

theorem endpoints_ne {s : Spec} (hs : s.ids.Nodup) {prompt : String} {intent : Option Intent}
    {a b : Node} {rest : List Node} (h : endpoints prompt s intent = a :: b :: rest) :
    a.id ≠ b.id := by
  have := (endpoints_told hs prompt intent).2
  rw [h] at this
  simp_all

end NetSketch

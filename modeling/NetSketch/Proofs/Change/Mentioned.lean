import NetSketch.Proofs.Change.Answer
import NetSketch.Proofs.Change.Removal
import NetSketch.Proofs.Prompt.Naming

/-!
# Removal by type

A prompt that holds no id removes all nodes of the types that it mentions. A mention inside a longer
name, such as that of a switch inside the one of a layer 3 switch, does not count.

* `Spec.removeAll_nodes_of_types`: what is left without the nodes of some types;
* `remove_obeyed`: the nodes that a prompt wants to be gone are removed;
* **`remove_mentioned`**: which ones they are;
* `not_removed_inside`: a type that is mentioned and stays.
-/

namespace NetSketch

open Prompt Text

variable {s : Spec} {prompt : String}

theorem Spec.removeAll_nodes_of_types (hs : s.ids.Nodup) (types : List Component) :
    (s.removeAll ((s.nodes.filter fun n => types.contains n.type).map (·.id))).1.nodes =
      s.nodes.filter fun n => n.type ∉ types := by
  rw [removeAll, removeEach_nodes]
  refine List.filter_congr fun n hn => ?_
  have hgone : n.id ∈ (s.nodes.filter fun n => types.contains n.type).map (·.id) ↔
      n.type ∈ types := by
    constructor
    · intro h
      obtain ⟨m, hm, hid⟩ := List.mem_map.mp h
      obtain ⟨hm, htype⟩ := List.mem_filter.mp hm
      obtain rfl := node_ext_of_nodup hs hm hn hid
      simpa using htype
    · exact fun h => List.mem_map_of_mem (List.mem_filter.mpr ⟨hn, by simpa using h⟩)
  rw [Bool.eq_iff_iff]
  simpa using not_congr hgone

theorem remove_obeyed (h : s.unwanted prompt ≠ []) :
    Obeyed (fun t steps => s.removeAll ((s.unwanted prompt).map (·.id)) = (t, steps))
      (fun store => remove store prompt (some s) none) := by
  have hsome : (s.unwanted prompt).isEmpty = false := by simpa using h
  have heq (store : Store) : remove store prompt (some s) none =
      advised store s (s.removeAll ((s.unwanted prompt).map (·.id))).1
        (affectedByRemoval store s (s.removeAll ((s.unwanted prompt).map (·.id))).1
          (s.unwanted prompt))
        { command := .remove, spec := (s.removeAll ((s.unwanted prompt).map (·.id))).1
          confidence := confidenceBy none
          modifications := (s.removeAll ((s.unwanted prompt).map (·.id))).2 } := by
    unfold remove
    change (if (s.unwanted prompt).isEmpty then _ else _) = _
    rw [hsome]
    rfl
  simp only [heq]
  exact .advised rfl

namespace Spec

/-- Without ids in it, a prompt wants all nodes of the types that count to be gone. -/
theorem unwanted_eq (hs : s.ids.Nodup)
    (halone : ∀ n ∈ s.nodes, ¬ StandsAlone (lower n.id) (lower prompt))
    (hpart : ∀ n ∈ s.named prompt, holds (lower prompt) (lower n.id) = false) :
    s.unwanted prompt = s.nodes.filter fun n =>
      ((s.counted (mentions (lower prompt))).map (·.type)).contains n.type := by
  have hids : (s.named prompt).filter (fun n => holds (lower prompt) (lower n.id)) = [] :=
    List.filter_eq_nil_iff.mpr fun n hn => by simp [hpart n hn]
  unfold unwanted
  extract_lets named byId
  rw [if_pos (List.isEmpty_iff.mpr hids)]
  refine List.filter_congr fun n _ => ?_
  rw [Bool.eq_iff_iff, List.contains_iff_mem, List.contains_iff_mem]
  exact mem_types_named hs halone

theorem exists_type_counted (hthere : ∃ m ∈ mentions (lower prompt), m.type ∈ s.types)
    (hs : s.ids.Nodup) (halone : ∀ n ∈ s.nodes, ¬ StandsAlone (lower n.id) (lower prompt)) :
    ∃ n ∈ s.nodes, n.type ∈ (s.counted (mentions (lower prompt))).map (·.type) := by
  obtain ⟨m, hm⟩ := List.exists_mem_of_ne_nil _ (counted_ne_nil hthere)
  have hcounted : m.type ∈ (s.counted (mentions (lower prompt))).map (·.type) :=
    List.mem_map_of_mem hm
  obtain ⟨n, hn, htype⟩ := List.mem_map.mp ((mem_types_named hs halone).mpr hcounted)
  exact ⟨n, (named_told hs).1 hn, htype ▸ hcounted⟩

end Spec

/-- **A prompt without ids removes all nodes of the types that it mentions.** Mentions that begin
inside an earlier one that counts aside, these are all types that are there. -/
theorem remove_mentioned (hs : s.WellFormed)
    (halone : ∀ n ∈ s.nodes, ¬ StandsAlone (lower n.id) (lower prompt))
    (hpart : ∀ n ∈ s.named prompt, holds (lower prompt) (lower n.id) = false)
    (hthere : ∃ m ∈ mentions (lower prompt), m.type ∈ s.types) :
    Obeyed (fun t _ =>
        (t.nodes = s.nodes.filter fun n =>
          n.type ∉ (s.counted (mentions (lower prompt))).map (·.type)) ∧
        ((mentions (lower prompt)).Pairwise (fun k m => ¬ m.Inside k) →
          t.nodes = s.nodes.filter fun n => n.type ∉ (mentions (lower prompt)).map (·.type)))
      (fun store => remove store prompt (some s) none) := by
  have hunwanted := Spec.unwanted_eq hs.ids_nodup halone hpart
  have hne : s.unwanted prompt ≠ [] := by
    obtain ⟨n, hn, htype⟩ := Spec.exists_type_counted hthere hs.ids_nodup halone
    rw [hunwanted]
    exact List.ne_nil_of_mem (List.mem_filter.mpr ⟨hn, List.contains_iff_mem.mpr htype⟩)
  have hnodes := Spec.removeAll_nodes_of_types hs.ids_nodup
    ((s.counted (mentions (lower prompt))).map (·.type))
  rw [← hunwanted] at hnodes
  refine (remove_obeyed hne).mono fun t steps ht => ?_
  rw [ht] at hnodes
  refine ⟨hnodes, fun hapart => hnodes.trans (List.filter_congr fun n hn => ?_)⟩
  have hthere : n.type ∈ s.types := List.mem_map_of_mem hn
  simp only [Spec.mem_types_counted_of_apart hapart, hthere, and_true]

/-- Two firewalls in front of a web server. -/
def twoGates : Spec where
  nodes := [⟨"gate-1", .firewall, "Firewall", none, none, none⟩,
    ⟨"gate-2", .firewall, "Firewall", none, none, none⟩,
    ⟨"web-1", .webServer, "Web Server", none, none, none⟩]
  connections := [⟨"gate-1", "web-1", none, none, none⟩, ⟨"gate-2", "web-1", none, none, none⟩]

theorem remove_mentioned_twoGates : twoGates.WellFormed ∧
    ∃ c t, remove .bundled "Delete the firewall" (some twoGates) none = .ok (.done c) ∧
      c.spec = some t ∧ t.nodes = [⟨"web-1", .webServer, "Web Server", none, none, none⟩] := by
  have hs : twoGates.WellFormed := by decide
  have hmentions : mentions (lower "Delete the firewall") = [⟨.firewall, 11, 19⟩] :=
    mentions_eq (by decide +kernel) (by decide)
  have hnamed : twoGates.named "Delete the firewall" =
      [⟨"gate-1", .firewall, "Firewall", none, none, none⟩] := by
    refine Spec.named_eq_singleton ?_
    rw [hmentions]
    decide +kernel
  have hpart : ∀ n ∈ twoGates.named "Delete the firewall",
      holds (lower "Delete the firewall") (lower n.id) = false := by
    rw [hnamed]
    decide +kernel
  have hthere : ∃ m ∈ mentions (lower "Delete the firewall"), m.type ∈ twoGates.types := by
    rw [hmentions]
    decide
  obtain ⟨hfollowed, hdone⟩ := remove_mentioned hs (by decide +kernel) hpart hthere .bundled
  obtain ⟨c, hc⟩ := hdone Store.bundled_typed
  obtain ⟨t, ht, hnodes, -⟩ := hfollowed c hc
  refine ⟨hs, c, t, hc, ht, hnodes.trans ?_⟩
  rw [hmentions]
  decide

/-- A layer 3 switch and a layer 2 switch. -/
def twoSwitches : Spec where
  nodes := [⟨"sw-1", .switchL3, "L3 Switch", none, none, none⟩,
    ⟨"sw-2", .switchL2, "L2 Switch", none, none, none⟩]
  connections := []

/-- The layer 2 switch is mentioned inside the name of the layer 3 switch, and stays. -/
theorem not_removed_inside : twoSwitches.WellFormed ∧
    (∀ n ∈ twoSwitches.nodes, ¬ StandsAlone (lower n.id) (lower "remove the layer 3 switch")) ∧
    (∃ m ∈ mentions (lower "remove the layer 3 switch"), m.type = .switchL2) ∧
    ∃ c t, remove .bundled "remove the layer 3 switch" (some twoSwitches) none = .ok (.done c) ∧
      c.spec = some t ∧ t.nodes = [⟨"sw-2", .switchL2, "L2 Switch", none, none, none⟩] := by
  have hs : twoSwitches.WellFormed := by decide
  have hmentions : mentions (lower "remove the layer 3 switch") =
      [⟨.switchL3, 11, 25⟩, ⟨.switchL2, 19, 25⟩] :=
    mentions_eq (by decide +kernel) (by decide)
  have hnamed : twoSwitches.named "remove the layer 3 switch" =
      [⟨"sw-1", .switchL3, "L3 Switch", none, none, none⟩] := by
    refine Spec.named_eq_singleton ?_
    rw [hmentions]
    decide +kernel
  have hunwanted : twoSwitches.unwanted "remove the layer 3 switch" =
      [⟨"sw-1", .switchL3, "L3 Switch", none, none, none⟩] := by
    rw [Spec.unwanted, hnamed]
    decide +kernel
  have hne : twoSwitches.unwanted "remove the layer 3 switch" ≠ [] := by
    rw [hunwanted]
    exact List.cons_ne_nil _ _
  obtain ⟨hfollowed, hdone⟩ := remove_obeyed hne .bundled
  obtain ⟨c, hc⟩ := hdone Store.bundled_typed
  obtain ⟨t, ht, hremoved⟩ := hfollowed c hc
  refine ⟨hs, by decide +kernel, ⟨⟨.switchL2, 19, 25⟩, by simp [hmentions], rfl⟩, c, t, hc, ht, ?_⟩
  rw [hunwanted] at hremoved
  exact congrArg (fun x => x.1.nodes) hremoved.symm

end NetSketch

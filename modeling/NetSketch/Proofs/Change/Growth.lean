import NetSketch.Proofs.Change.Creation
import NetSketch.Proofs.Change.Followed
import NetSketch.Proofs.Change.Removal
import NetSketch.Proofs.Prompt.Reference

/-!
# Diagrams that grow

A diagram made from scratch may be changed in any order by additions that ask for no position and by
removals. Its connections always lead inwards, so there never is a cycle.

* `Grown`: diagrams that are reached in this way;
* `Spec.Tidy.added`, `Spec.Tidy.removeEach`: single steps;
* **`Grown.leads_inwards`**: what holds of every diagram reached.
-/

open Relation (TransGen)

namespace NetSketch

/-- Diagrams made from scratch and changed by additions without a position and by removals. -/
inductive Grown : Spec → Prop
  | sketched {text : String} {s : Spec} (h : Spec.ofPrompt text = .ok (some s)) : Grown s
  | created {store : Store} {intent : Intent} {c : Change} {s : Spec}
      (h : createFrom store intent = .ok (some (.done c))) (hs : c.spec = some s) : Grown s
  | added {store : Store} {prompt : String} {intent : Option Intent} {c : Change} {s t : Spec}
      (hs : Grown s) (hhint : hintBy intent prompt = none)
      (h : add store prompt (some s) intent = .ok (.done c)) (ht : c.spec = some t) : Grown t
  | removed {store : Store} {prompt : String} {intent : Option Intent} {c : Change} {s t : Spec}
      (hs : Grown s) (h : remove store prompt (some s) intent = .ok (.done c))
      (ht : c.spec = some t) : Grown t

namespace Spec

variable {s t : Spec} {ids removed : List String}

/-! ## Steps -/

theorem Tidy.added {wanted : List Wanted} {steps : List Modification} (hs : s.Tidy)
    (h : Added false .byTier s wanted t steps) : t.Tidy := by
  generalize hspot : Spot.byTier = spot at h
  induction h with
  | nil => exact hs
  | @cons spot s u _ w _ _ hu _ ih =>
    subst hspot
    have hwf := hs.wellFormed.withWanted w
    refine ih ⟨hu.wellFormed hwf, ?_, ?_⟩ rfl
    · rw [TiersByType, hu.nodes_eq]
      exact hs.tiersByType.withWanted w
    · exact hs.inwards.rewired hs.wellFormed hs.tiersByType (node_id_notMem s w) rfl hwf hu

/-- A bridge leads inwards, as both connections that it replaces do. -/
theorem Bridged.inward {n : Node} {e : String × String} (hs : s.WellFormed) (hin : s.Inwards)
    (hn : n ∈ s.nodes) (h : s.Bridged removed n e) :
    ∃ a ∈ s.nodes, ∃ b ∈ s.nodes, e = (a.id, b.id) ∧ Inward s.nodes a b := by
  obtain ⟨a, ha, n', hn', he, hin₁⟩ := hin.ends hs h.joins_node
  obtain ⟨n'', hn'', b, hb, he', hin₂⟩ := hin.ends hs h.node_joins
  obtain ⟨hea, hen⟩ := Prod.mk.inj he
  obtain ⟨hen', heb⟩ := Prod.mk.inj he'
  obtain rfl := node_ext_of_nodup hs.ids_nodup hn hn' hen
  obtain rfl := node_ext_of_nodup hs.ids_nodup hn hn'' hen'
  exact ⟨a, ha, b, hb, Prod.ext hea heb, hin₁.trans (.of_map _ hs.ids_nodup) hin₂⟩

theorem Tidy.removeEach (hs : s.Tidy) (hsub : ids ⊆ removed) :
    (Spec.removeEach removed s ids).1.Tidy := by
  have hwf : (Spec.removeEach removed s ids).1.WellFormed := hs.wellFormed.removeEach
  refine ⟨hwf, fun n hn => hs.tiersByType n (mem_removeEach_nodes.mp hn).1, ?_⟩
  refine inwards_of_ends hwf.ids_nodup fun e he => ?_
  obtain ⟨a, ha, b, hb, rfl, hab⟩ : ∃ a ∈ s.nodes, ∃ b ∈ s.nodes, e = (a.id, b.id) ∧
      Inward s.nodes a b := by
    rcases (mem_ends_removeEach hs.wellFormed hsub).mp he with ⟨he, -⟩ | ⟨m, hm, -, hb⟩
    · exact hs.inwards.ends hs.wellFormed he
    · exact hb.inward hs.wellFormed hs.inwards hm
  have hkept := hwf.ends_mem_ids he
  have haid := (mem_ids_removeEach.mp hkept.1).2
  have hbid := (mem_ids_removeEach.mp hkept.2).2
  refine ⟨a, mem_removeEach_nodes.mpr ⟨ha, haid⟩, b, mem_removeEach_nodes.mpr ⟨hb, hbid⟩, rfl, ?_⟩
  rw [removeEach_nodes]
  exact hab.filter (by simpa using haid) (by simpa using hbid)

end Spec

/-! ## Runs -/

namespace Grown

variable {s : Spec}

theorem tidy (h : Grown s) : s.Tidy := by
  induction h with
  | sketched h =>
    obtain ⟨o, ho, htidy⟩ := Spec.exists_ofPrompt _
    rw [h] at ho
    exact (htidy _ (Except.ok.inj ho).symm).1
  | @created store intent c s h hs =>
    obtain ⟨t, ht, hsketch⟩ := createFrom_followed h
    obtain rfl : t = s := Option.some.inj (ht.symm.trans hs)
    obtain ⟨t', ht', htidy, -⟩ := Spec.exists_sketch (Spec.withEntry intent.components)
    obtain rfl := Except.ok.inj (ht'.symm.trans hsketch)
    exact htidy
  | @added store prompt intent c s t _ hhint h ht ih =>
    obtain ⟨t', ht', wanted, -, hadd⟩ := add_followed c h
    obtain rfl : t' = t := Option.some.inj (ht'.symm.trans ht)
    rw [hhint] at hadd
    exact ih.added (.of_addEach ih.wellFormed trivial hadd)
  | @removed store prompt intent c s t _ h ht ih =>
    obtain ⟨t', ht', ids, hrem⟩ := remove_followed c h
    obtain rfl : t' = t := Option.some.inj (ht'.symm.trans ht)
    obtain rfl : (Spec.removeEach ids s ids).1 = t' := congrArg Prod.fst hrem
    exact ih.removeEach (List.Subset.refl ids)

/-- **In every diagram that is reached, the connections between path nodes lead inwards, none leads
from a side node to a path node, and there is no cycle.** -/
theorem leads_inwards (h : Grown s) :
    (∀ a ∈ s.nodes, ∀ b ∈ s.nodes, s.Joins a.id b.id →
      (a.isSide = false → b.isSide = false → a.pathKey.before b.pathKey = true) ∧
        (a.isSide = true → b.isSide = true)) ∧
    ∀ id, ¬ TransGen s.Joins id id := by
  refine ⟨fun a ha b hb hab => ?_, h.tidy.inwards.acyclic h.tidy.wellFormed⟩
  have hin := h.tidy.inwards a ha b hb hab
  refine ⟨fun _ hbs => (hin.isPath_of_target hbs).2, fun has => ?_⟩
  by_contra hbs
  have := (hin.isPath_of_target (Bool.eq_false_iff.mpr hbs)).1
  simp [has] at this

/-- What becomes of the text "web server, db, ldap". -/
def drawn : Spec where
  nodes := [⟨"user-1", .user, "User", none, none, none⟩,
    ⟨"web-server-1", .webServer, "Web Server", none, none, none⟩,
    ⟨"db-server-1", .dbServer, "DB Server", none, none, none⟩,
    ⟨"ldap-ad-1", .ldapAd, "LDAP/AD", none, none, none⟩]
  connections := [⟨"user-1", "web-server-1", defaultFlow, none, none⟩,
    ⟨"web-server-1", "db-server-1", defaultFlow, none, none⟩,
    ⟨"web-server-1", "ldap-ad-1", defaultFlow, none, none⟩]

/-- The same with a second web server. -/
def drawnTwice : Spec where
  nodes := drawn.nodes ++ [⟨"web-server-2", .webServer, "Web Server", none, none, none⟩]
  connections := drawn.connections ++ [⟨"user-1", "web-server-2", defaultFlow, none, none⟩,
    ⟨"web-server-2", "db-server-1", defaultFlow, none, none⟩,
    ⟨"web-server-2", "ldap-ad-1", defaultFlow, none, none⟩]

/-- An intent that is about web servers. -/
def aboutWebServers (action : Command) : Intent :=
  ⟨action, editConfidence, [{ type := .webServer }], none, none⟩

theorem grown_drawn : Grown drawn := by
  have hnamed : Prompt.allNamed "web server, db, ldap" =
      [.webServer, .dbServer, .ldapAd] := by decide +kernel
  -- the sort is by well-founded recursion, so it is rewritten before the rest is evaluated
  have hgroups : pathGroups (drawn.nodes.filter (!·.isSide)) =
      (drawn.nodes.filter (!·.isSide)).map ([·]) := by
    rw [pathGroups, List.mergeSort_of_pairwise (by decide +kernel)]
    decide +kernel
  have hchain : chain drawn.nodes = .ok drawn.connections := by
    rw [chain, hgroups]
    decide +kernel
  have hsketch : Spec.sketch (Spec.withEntry [{ type := .webServer }, { type := .dbServer },
      { type := .ldapAd }]) = .ok drawn := by
    change (chain drawn.nodes >>= _) = _
    rw [hchain]
    decide +kernel
  refine .sketched (show Spec.ofPrompt "web server, db, ldap" = _ from ?_)
  rw [Spec.ofPrompt, hnamed]
  dsimp only [List.map]
  rw [hsketch]
  rfl

theorem grown_drawnTwice : Grown drawnTwice := by
  have hhint : hintBy (some (aboutWebServers .add)) "" = none := by decide +kernel
  have hadd : drawn.addEach false .byTier [{ type := .webServer }] = .ok (drawnTwice,
      [.addNode "web-server-2" .webServer (some "Web Server"),
        .addConnection "user-1" "web-server-2", .addConnection "web-server-2" "db-server-1",
        .addConnection "web-server-2" "ldap-ad-1"]) := by decide +kernel
  obtain ⟨c, hc, ht⟩ : ∃ c, add ⟨{}, [], [], [], []⟩ "" (some drawn)
      (some (aboutWebServers .add)) = .ok (.done c) ∧ c.spec = some drawnTwice := by
    unfold add
    rw [hhint]
    change ∃ c, (Reading.ofBreach (drawn.addEach false .byTier [{ type := .webServer }]) >>= _) =
      _ ∧ _
    rw [hadd]
    exact ⟨_, rfl, rfl⟩
  exact .added grown_drawn hhint hc ht

theorem leads_inwards_drawn : ∃ s, Grown s ∧
    s.ends = [("user-1", "db-server-1"), ("user-1", "ldap-ad-1")] ∧
    (∀ a ∈ s.nodes, ∀ b ∈ s.nodes, s.Joins a.id b.id →
      (a.isSide = false → b.isSide = false → a.pathKey.before b.pathKey = true) ∧
        (a.isSide = true → b.isSide = true)) ∧
    ∀ id, ¬ TransGen s.Joins id id := by
  obtain ⟨c, t, hc, ht, hends⟩ : ∃ c t, remove ⟨{}, [], [], [], []⟩ "" (some drawnTwice)
      (some (aboutWebServers .remove)) = .ok (.done c) ∧ c.spec = some t ∧
      t.ends = [("user-1", "db-server-1"), ("user-1", "ldap-ad-1")] :=
    ⟨_, _, rfl, rfl, by decide +kernel⟩
  have hgrown : Grown t := .removed grown_drawnTwice hc ht
  exact ⟨t, hgrown, hends, hgrown.leads_inwards⟩

end Grown

end NetSketch

import NetSketch.Proofs.Change.Answer
import NetSketch.Proofs.Prompt.Naming

/-!
# New labels

A prompt with a quoted text or a phrase for renaming changes the label of the first node that it
names, and nothing else. What is told is the text of the prompt; a node without a label has that of
its type, so that an empty text is told and not stored.

* `Spec.updateNode_eq`: one node changed, all others where they were;
* `AsksForLabel`, `modify_obeyed`: the prompts that are about a label, and what they do;
* **`modify_relabels`**: the label that is stored and the one that is told;
* `not_told_blank`: an empty text.
-/

namespace NetSketch

open Prompt

variable {store : Store} {s : Spec} {prompt : String} {intent : Option Intent} {r : Renaming}
  {n : Node} {c : Change}

theorem Spec.updateNode_eq {before after : List Node} {change : Node → Node} (hs : s.WellFormed)
    (hn : s.nodes = before ++ n :: after) (hchange : ∀ m, (change m).id = m.id) :
    s.updateNode n.id change = .ok { s with nodes := before ++ change n :: after } := by
  have hnodup := hs.ids_nodup
  rw [ids, hn, List.map_append, List.map_cons, List.nodup_append, List.nodup_cons] at hnodup
  obtain ⟨-, ⟨hafter, -⟩, hbefore⟩ := hnodup
  have hkeep (l : List Node) (hl : ∀ m ∈ l, m.id ≠ n.id) :
      l.map (fun m => if m.id = n.id then change m else m) = l := by
    refine (List.map_congr_left fun m hm => ?_).trans (List.map_id l)
    exact if_neg (hl m hm)
  have hnodes : s.nodes.map (fun m => if m.id = n.id then change m else m) =
      before ++ change n :: after := by
    rw [hn, List.map_append, List.map_cons, if_pos rfl, hkeep, hkeep]
    · exact fun m hm hid => hafter (hid ▸ List.mem_map_of_mem hm)
    · exact fun m hm => hbefore _ (List.mem_map_of_mem hm) _ List.mem_cons_self
  rw [← hnodes]
  exact (hs.mapNodes fun m => @id_changed n.id _ hchange m).check_eq

/-- A prompt is about a label: it wants something to be called so, and nothing to be removed. -/
structure AsksForLabel (prompt : String) (intent : Option Intent) (r : Renaming) : Prop where
  keeps : (intent.isNone && removalWords.occurs true prompt) = false
  renames : renaming? prompt = some r

theorem modify_eq_of_label (h : AsksForLabel prompt intent r) :
    modify store prompt (some s) intent =
      match s.named r.target with
      | [] => .ok (.failed .modify .nothingToModifyFound none)
      | n :: _ => relabelled store s n r.label (confidenceBy intent) := by
  unfold modify
  simp only [h.keeps, h.renames]
  rfl

theorem Node.relabel_eq (label : String) :
    n.relabel label = { n with label := if label = "" then n.type.label else label } := by
  simp only [relabel, String.isEmpty_iff]

theorem modify_obeyed {rest : List Node} (hs : s.WellFormed) (h : AsksForLabel prompt intent r)
    (hn : s.named r.target = n :: rest) :
    Obeyed (fun t steps => (∃ before after, s.nodes = before ++ n :: after ∧
        t = { s with nodes := before ++
          { n with label := if r.label = "" then n.type.label else r.label } :: after }) ∧
        steps = [.relabel n.id r.label])
      (fun store => modify store prompt (some s) intent) := by
  have hmem : n ∈ s.nodes := (Spec.named_told hs.ids_nodup).1 (hn ▸ List.mem_cons_self)
  obtain ⟨before, after, hnodes⟩ := List.append_of_mem hmem
  have hupdate : s.updateNode n.id (·.relabel r.label) =
      .ok { s with nodes := before ++ n.relabel r.label :: after } :=
    Spec.updateNode_eq hs hnodes fun _ => rfl
  have heq (store : Store) : modify store prompt (some s) intent =
      advised store s { s with nodes := before ++ n.relabel r.label :: after } [n.type]
        { command := .modify, spec := some { s with nodes := before ++ n.relabel r.label :: after }
          confidence := confidenceBy intent, modifications := [.relabel n.id r.label] } := by
    rw [modify_eq_of_label h, hn]
    change (Reading.ofBreach (s.updateNode n.id (·.relabel r.label)) >>= _) = _
    rw [hupdate]
    rfl
  simp only [heq]
  exact .advised ⟨⟨before, after, hnodes, by rw [Node.relabel_eq]⟩, rfl⟩

/-- **One node gets another label, and nothing else changes.** The label that is told is the one
that is stored, unless it is empty: then the label of the type is stored. -/
theorem modify_relabels (hs : s.WellFormed) (h : AsksForLabel prompt intent r)
    (hc : modify store prompt (some s) intent = .ok (.done c)) :
    ∃ before n after label, s.nodes = before ++ n :: after ∧ (s.named r.target).head? = some n ∧
      c.spec = some { s with nodes := before ++ { n with label } :: after } ∧
      c.modifications = [.relabel n.id r.label] ∧ (label = r.label ↔ r.label ≠ "") ∧
      (r.label = "" → label = n.type.label) := by
  cases hn : s.named r.target with
  | nil =>
    rw [modify_eq_of_label h, hn] at hc
    cases hc
  | cons n rest =>
    obtain ⟨t, ht, ⟨before, after, hnodes, rfl⟩, hsteps⟩ := (modify_obeyed hs h hn store).1 c hc
    refine ⟨before, n, after, _, hnodes, rfl, ht, hsteps, ?_, fun hempty => if_pos hempty⟩
    by_cases hempty : r.label = ""
    · simp [hempty, n.type.label_ne_empty]
    · simp [hempty]

/-- A firewall called by another name than its type. -/
def edgeWall : Spec where
  nodes := [⟨"fw-1", .firewall, "Edge", none, none, none⟩,
    ⟨"web-1", .webServer, "Web Server", none, none, none⟩]
  connections := [⟨"fw-1", "web-1", none, none, none⟩]

theorem named_edgeWall : edgeWall.named "rename fw-1 to " =
    [⟨"fw-1", .firewall, "Edge", none, none, none⟩] :=
  Spec.named_eq_singleton (by decide +kernel)

theorem modify_relabels_edgeWall : edgeWall.WellFormed ∧
    ∃ c before after, modify .bundled "rename fw-1 to \"Gate\"" (some edgeWall) none =
        .ok (.done c) ∧
      edgeWall.nodes = before ++ ⟨"fw-1", .firewall, "Edge", none, none, none⟩ :: after ∧
      c.spec = some { edgeWall with nodes :=
        before ++ ⟨"fw-1", .firewall, "Gate", none, none, none⟩ :: after } ∧
      c.modifications = [.relabel "fw-1" "Gate"] := by
  have hs : edgeWall.WellFormed := by decide
  have h : AsksForLabel "rename fw-1 to \"Gate\"" none ⟨"rename fw-1 to ", "Gate"⟩ :=
    ⟨by decide +kernel, by decide +kernel⟩
  obtain ⟨c, hc⟩ := (modify_obeyed hs h named_edgeWall .bundled).2 Store.bundled_typed
  obtain ⟨before, n, after, label, hnodes, hn, hspec, hsteps, hlabel, -⟩ := modify_relabels hs h hc
  rw [named_edgeWall] at hn
  obtain rfl := Option.some.inj hn
  obtain rfl : label = "Gate" := hlabel.mpr (by decide)
  exact ⟨hs, c, before, after, hc, hnodes, hspec, hsteps⟩

/-- The firewall is said to have got an empty name, and has got that of its type. -/
theorem not_told_blank : edgeWall.WellFormed ∧
    AsksForLabel "rename fw-1 to \" \"" none ⟨"rename fw-1 to ", ""⟩ ∧
    ∃ c t, modify .bundled "rename fw-1 to \" \"" (some edgeWall) none = .ok (.done c) ∧
      c.spec = some t ∧ c.modifications = [.relabel "fw-1" ""] ∧
      ⟨"fw-1", .firewall, "Firewall", none, none, none⟩ ∈ t.nodes := by
  have hs : edgeWall.WellFormed := by decide
  have h : AsksForLabel "rename fw-1 to \" \"" none ⟨"rename fw-1 to ", ""⟩ :=
    ⟨by decide +kernel, by decide +kernel⟩
  obtain ⟨hfollowed, hdone⟩ := modify_obeyed hs h named_edgeWall .bundled
  obtain ⟨c, hc⟩ := hdone Store.bundled_typed
  obtain ⟨t, ht, ⟨before, after, -, rfl⟩, hsteps⟩ := hfollowed c hc
  exact ⟨hs, h, c, _, hc, ht, hsteps, List.mem_append_right _ List.mem_cons_self⟩

end NetSketch

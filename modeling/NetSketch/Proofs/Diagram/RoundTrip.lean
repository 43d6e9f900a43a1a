import NetSketch.Proofs.Diagram.Refusal

/-!
# Documents of diagrams

The document of a diagram that has been read is read as the same diagram: with the labels that were
found for its nodes, its flags in place of the words for them, and all that was absent still absent.

* `Node.read_toJson`, `Connection.read_toJson`, `Zone.read_toJson`: the parts come back;
* `Spec.read_toJson`: so does every well-formed diagram with labels;
* `Spec.read_toJson_of_read`: **so does every diagram that has been read**.
-/

namespace NetSketch

open Fields Reading

/-! ## Parts -/

theorem choice_named {α : Type} {all : List α} {name : α → String} {a : α}
    (h : named? all name (name a) = some a) : choice all name (.str (name a)) = .ok a := by
  rw [choice, h]

theorem readType_name (c : Component) : readType (.str c.name) = .ok c := by
  simp [readType, text, c.ofName?_name, bind, Except.bind]

theorem readId_of {id : String} (h : Text.isAllBlank id = false) : readId (.str id) = .ok id := by
  change (if Text.isAllBlank id then _ else _) = _
  rw [if_neg (by simp [h])]

/-- **The document of a node is read as the node.** -/
theorem Node.read_toJson {n : Node} (hid : Text.isAllBlank n.id = false) (hlabel : n.label ≠ "") :
    Node.read n.toJson = .ok n := by
  have hget (name : String) : n.toFields.get? name = _ := get?_given (by simp) name
  have hown : n.toFields.get? "label" = some (.str n.label) := hget _
  have hname : n.toFields.get? "type" = some (.str n.type.name) := hget _
  have hlabelled : withLabel n.toFields = .ok n.toFields := by
    simp [withLabel, hown, hname, Json.truthy, hlabel]
  have hid : required n.toFields ["id"] readId = .ok n.id :=
    required_written (hget _) (readId_of hid)
  have htype : required n.toFields ["type"] readType = .ok n.type :=
    required_written hname (readType_name n.type)
  have hlabel : optional n.toFields ["label"] "" text = .ok n.label :=
    optional_present_one hown rfl
  have htier : optional n.toFields ["tier"] none (orNull (choice Tier.all Tier.name)) =
      .ok n.tierOverride :=
    optional_written_one (fun t => .str t.name) (hget _)
      (fun t => choice_named t.named?_name) (by simp)
  have hzone : optional n.toFields ["zone"] none (orNull text) = .ok n.zone :=
    optional_written_one .str (hget _) (fun _ => rfl) (by simp)
  have hdescription : optional n.toFields ["description"] none (orNull text) = .ok n.description :=
    optional_written_one .str (hget _) (fun _ => rfl) (by simp)
  change Node.ofFields n.toFields = _
  rw [Node.ofFields, hlabelled]
  change Except.map _ (both _ (both _ (both _ (both _ (both _ _))))) = _
  rw [hid, htype, hlabel, htier, hzone, hdescription]
  rfl

theorem Connection.read_toJson {c : Connection} (h : c.source ≠ c.target) :
    Connection.read c.toJson = .ok c := by
  obtain ⟨fields, hfields, hget⟩ : ∃ fields, c.toJson = .obj fields ∧ ∀ name, get? fields name =
      (List.lookup name [("source", some (.str c.source)), ("target", some (.str c.target)),
        ("flowType", c.flow.map (.str ·.name)), ("label", c.label.map .str),
        ("bidirectional", c.bidirectional.map .bool)]).join :=
    ⟨_, rfl, get?_given (by simp)⟩
  have hsource : required fields ["source"] text = .ok c.source := required_written (hget _) rfl
  have htarget : required fields ["target"] text = .ok c.target := required_written (hget _) rfl
  have hflow : optional fields ["flowType", "flow_type"] none
      (orNull (choice FlowKind.all FlowKind.name)) = .ok c.flow := by
    refine optional_written "flowType" (fun k => .str k.name) ?_
      (fun k => choice_named k.named?_name) (by simp)
    rw [firstField?_cons, firstField?_singleton, hget, hget]
    cases c.flow <;> rfl
  have hlabel : optional fields ["label"] none (orNull text) = .ok c.label :=
    optional_written_one .str (hget _) (fun _ => rfl) (by simp)
  have hflag : optional fields ["bidirectional"] none (orNull flag) = .ok c.bidirectional :=
    optional_written_one .bool (hget _) (fun _ => rfl) (by simp)
  rw [hfields]
  change (both _ (both _ (both _ (both _ _))) >>= _) = _
  rw [hsource, htarget, hflow, hlabel, hflag]
  exact if_neg h

theorem Zone.read_toJson (z : Zone) : Zone.read z.toJson = .ok z := by
  have htier := choice_named z.tier.named?_name
  change Except.map _ (both _ (both _ (within _ (choice _ _ (.str z.tier.name))))) = _
  rw [htier]
  rfl

/-! ## Diagrams -/

/-- Every well-formed diagram in which no label is empty comes back from its document. -/
theorem Spec.read_toJson {s : Spec} (h : s.WellFormed) (hl : s.Labelled) :
    Spec.read s.toJson = .ok s := by
  obtain ⟨fields, hfields, hget⟩ : ∃ fields, s.toJson = .obj fields ∧ ∀ name, get? fields name =
      (List.lookup name [("nodes", some (.arr (s.nodes.map (·.toJson)))),
        ("connections", some (.arr (s.connections.map (·.toJson)))),
        ("zones", s.zones.map fun zones => .arr (zones.map (·.toJson)))]).join :=
    ⟨_, rfl, get?_given (by simp)⟩
  have hnodes : optional fields ["nodes"] [] (eachOf Node.read) = .ok s.nodes :=
    optional_present_one (hget _)
      (eachOf_written fun n hn => Node.read_toJson (h.id_not_blank n hn) (hl n hn))
  have hconnections : optional fields ["connections"] [] (eachOf Connection.read) =
      .ok s.connections :=
    optional_present_one (hget _)
      (eachOf_written fun c hc => Connection.read_toJson (h.no_loop c hc))
  have hzones : optional fields ["zones"] none (orNull (eachOf Zone.read)) = .ok s.zones :=
    optional_written_one (fun zones => .arr (zones.map (·.toJson))) (hget _)
      (fun zones => eachOf_written fun z _ => z.read_toJson) (by simp)
  rw [hfields]
  change (both _ (both _ _) >>= _) = _
  rw [hnodes, hconnections, hzones]
  change ofBreach (Spec.check s) = _
  rw [h.check_eq]
  rfl

/-- **What has been read comes back from its document**, in every field and to the same document
again. -/
theorem Spec.read_toJson_of_read {v : Json} {s : Spec} (h : Spec.read v = .ok s) :
    Spec.read s.toJson = .ok s ∧ (Spec.read s.toJson).map Spec.toJson = .ok s.toJson := by
  have hends := Spec.ends_read v
  rw [h] at hends
  obtain ⟨hwf, hlabelled⟩ := hends.of_ok
  have hread := Spec.read_toJson hwf hlabelled
  exact ⟨hread, by rw [hread]; rfl⟩

/-- A document that leaves a label out, calls a flow by its other name, has a word for a flag, and
says more than is read. -/
def looseDocument : Json :=
  .obj [("zones", .arr []), ("remark", .int 1),
    ("nodes", .arr [.obj [("id", .str "fw"), ("type", .str "firewall"), ("label", .null)],
      .obj [("type", .str "web-server"), ("id", .str "web"), ("label", .str "Shop"),
        ("tier", .str "internal"), ("description", .str "")]]),
    ("connections", .arr [.obj [("source", .str "fw"), ("target", .str "web"),
      ("flow_type", .str "request"), ("bidirectional", .str "No"), ("label", .str "")]])]

/-- The diagram of the loose document. -/
def looseSpec : Spec :=
  ⟨[⟨"fw", .firewall, "Firewall", none, none, none⟩,
      ⟨"web", .webServer, "Shop", some .internal, none, some ""⟩],
    [⟨"fw", "web", some .request, some "", some false⟩], some []⟩

theorem read_toJson_loose : Spec.read looseDocument = .ok looseSpec ∧
    Spec.read looseSpec.toJson = .ok looseSpec ∧
      (Spec.read looseSpec.toJson).map Spec.toJson = .ok looseSpec.toJson :=
  have h : Spec.read looseDocument = .ok looseSpec := by decide
  ⟨h, Spec.read_toJson_of_read h⟩

end NetSketch

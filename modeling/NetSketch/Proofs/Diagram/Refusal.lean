import NetSketch.Diagram.Document
import NetSketch.Proofs.Diagram.Edits
import NetSketch.Proofs.Diagram.Reading

/-!
# What becomes of a document

A document is read into a well-formed diagram or refused with complaints, unless one of its nodes
needs the label of a type that is no text: then the reading ends with a fault.

* `Json.labelFault?`: the fault in finding a label for a node; `Json.nodeItems`: the nodes of a
  document;
* `Node.ends_read`, `Connection.ends_read`, `Zone.ends_read`, `Spec.ends_read`: how the readings of
  the parts end, and of the whole; `Spec.Labelled`: no node goes without a label;
* `Spec.read_cases`: **what becomes of a document**.
-/

namespace NetSketch

/-! ## Labels -/

/-- The fault in the use of a type that is no text as a type name. -/
def Json.typeFault? : Json → Option Fault
  | .str _ => none
  | .arr _ => some (.notAKey .list)
  | .obj _ => some (.notAKey .dict)
  | v => some (.noMember v.kind "split")

/-- The fault in finding a label for a node: the node has no label of its own, and its type is given
but is no text. -/
def Json.labelFault? : Json → Option Fault
  | .obj fields =>
    if (Fields.get? fields "label").any (·.truthy) then none
    else
      match Fields.get? fields "type" with
      | some type => if type.truthy then type.typeFault? else none
      | none => none
  | _ => none

/-- The nodes of a document. -/
def Json.nodeItems : Json → List Json
  | .obj fields =>
    match Fields.get? fields "nodes" with
    | some (.arr items) => items
    | _ => []
  | _ => []

theorem rawLabel_eq (type : Json) :
    (∃ name, type = .str name ∧ rawLabel type = .ok (labelOf name)) ∧ type.typeFault? = none ∨
      ∃ f, type.typeFault? = some f ∧ rawLabel type = .error f := by
  cases type with
  | str name => exact .inl ⟨⟨name, rfl, rfl⟩, rfl⟩
  | _ => exact .inr ⟨_, rfl, rfl⟩

theorem truthy_of_ofName? {name : String} {c : Component} (h : Component.ofName? name = some c) :
    (Json.str name).truthy = true := by
  have hne : name ≠ "" := by
    rintro rfl
    cases h
  simpa [Json.truthy] using hne

/-- Fields of which a node of a known type has a label that is not empty. -/
def Fields.Labels (fields : Fields) : Prop :=
  ∀ name c, fields.get? "type" = some (.str name) → Component.ofName? name = some c →
    ∃ w, fields.get? "label" = some w ∧ w ≠ .str ""

section WithLabel

variable {fields : Fields}

theorem withLabel_of_label {w : Json} (hw : fields.get? "label" = some w) (h : w.truthy = true) :
    (Json.obj fields).labelFault? = none ∧ withLabel fields = .ok fields := by
  constructor
  · simp [Json.labelFault?, hw, h]
  · rw [withLabel]
    cases fields.get? "type" <;> simp [hw, h]

theorem withLabel_of_type {type : Json} (hlabel : (fields.get? "label").any (·.truthy) = false)
    (htype : fields.get? "type" = some type) (h : type.truthy = true) :
    (Json.obj fields).labelFault? = type.typeFault? ∧
      withLabel fields = (rawLabel type).map (fields.put "label" ∘ .str) := by
  have hown : ((fields.get? "label").map (·.truthy)).getD false = false := by
    cases hw : fields.get? "label" <;> simp_all
  simp [Json.labelFault?, withLabel, hlabel, hown, htype, h]

theorem withLabel_of_not_type (hlabel : (fields.get? "label").any (·.truthy) = false)
    (htype : (fields.get? "type").any (·.truthy) = false) :
    (Json.obj fields).labelFault? = none ∧ withLabel fields = .ok fields := by
  cases hw : fields.get? "type" <;> simp_all [Json.labelFault?, withLabel]

theorem labels_put {name : String} (htype : fields.get? "type" = some (.str name)) :
    Fields.Labels (fields.put "label" (.str (labelOf name))) := by
  intro name' c hname hc
  rw [Fields.get?_put, if_neg (by decide), htype] at hname
  obtain rfl := Json.str.inj (Option.some.inj hname)
  refine ⟨_, by rw [Fields.get?_put, if_pos rfl], fun h => ?_⟩
  rw [Json.str.injEq, labelOf, hc] at h
  exact c.label_ne_empty h

/-- A label is found for every known type, or a fault ends the search. -/
theorem withLabel_cases (fields : Fields) :
    (∃ f, (Json.obj fields).labelFault? = some f ∧ withLabel fields = .error f) ∨
      (Json.obj fields).labelFault? = none ∧
        ∃ labelled, withLabel fields = .ok labelled ∧ labelled.Labels := by
  cases hlabel : (fields.get? "label").any (·.truthy) with
  | true =>
    obtain ⟨w, hw, htruthy⟩ := (Option.any_eq_true _ _).mp hlabel
    obtain ⟨hfault, hwith⟩ := withLabel_of_label hw htruthy
    refine .inr ⟨hfault, fields, hwith, fun name c _ _ => ⟨w, hw, ?_⟩⟩
    rintro rfl
    simp [Json.truthy] at htruthy
  | false =>
    cases htype : (fields.get? "type").any (·.truthy) with
    | true =>
      obtain ⟨type, ht, htruthy⟩ := (Option.any_eq_true _ _).mp htype
      obtain ⟨hfault, hwith⟩ := withLabel_of_type hlabel ht htruthy
      rw [hfault, hwith]
      rcases rawLabel_eq type with ⟨⟨name, rfl, hraw⟩, hnone⟩ | ⟨f, hsome, hraw⟩
      · exact .inr ⟨hnone, _, by rw [hraw]; rfl, labels_put ht⟩
      · exact .inl ⟨f, hsome, by rw [hraw]; rfl⟩
    | false =>
      obtain ⟨hfault, hwith⟩ := withLabel_of_not_type hlabel htype
      refine .inr ⟨hfault, fields, hwith, fun name c hname hc => ?_⟩
      simp [hname, truthy_of_ofName? hc] at htype

end WithLabel

/-! ## Parts -/

open Reading (Ends)

theorem ends_readId (v : Json) : Ends (fun id => Text.isAllBlank id = false) none (readId v) := by
  refine (Ends.text v).bind fun id _ => ?_
  split_ifs with h
  · exact .complain _
  · exact .ok (Bool.not_eq_true _ ▸ h)

theorem ends_readType (v : Json) :
    Ends (fun c => ∃ name, v = .str name ∧ Component.ofName? name = some c) none (readType v) := by
  refine (Ends.text v).bind fun name hname => ?_
  cases h : Component.ofName? name with
  | none => exact .complain _
  | some c => exact .ok ⟨name, hname, h⟩

theorem ends_typeField (fields : Fields) :
    Ends (fun c => ∃ name, fields.get? "type" = some (.str name) ∧ Component.ofName? name = some c)
      none (.required fields ["type"] readType) := by
  refine .required_one fun v hv => (ends_readType v).mono ?_
  rintro c ⟨name, rfl, hc⟩
  exact ⟨name, hv, hc⟩

theorem ends_labelField (fields : Fields) :
    Ends (fun label => ∀ w, fields.get? "label" = some w → w = .str label) none
      (.optional fields ["label"] "" .text) := by
  refine .optional_one (fun hnone => ⟨rfl, fun w hw => ?_⟩) fun v hv => ?_
  · rw [hnone] at hw
    cases hw
  · refine (Ends.text v).mono fun label hlabel w hw => ?_
    exact (Option.some.inj (hv.symm.trans hw)).symm.trans hlabel

/-- **A node that has been read has an id that is not blank and a label that is not empty.** -/
theorem Node.ends_read (v : Json) :
    Ends (fun n => Text.isAllBlank n.id = false ∧ n.label ≠ "") v.labelFault? (Node.read v) := by
  cases v with
  | obj fields =>
    change Ends _ _ (Node.ofFields fields)
    rw [Node.ofFields]
    rcases withLabel_cases fields with ⟨f, hfault, hf⟩ | ⟨hfault, labelled, hlabelled, hlabels⟩
    · rw [hf, hfault]
      exact .fault f
    · rw [hlabelled, hfault]
      have hid : Ends (fun id => Text.isAllBlank id = false) none
          (.required labelled ["id"] readId) := .required_one fun v _ => ends_readId v
      have hall := hid.both <| (ends_typeField labelled).both <| (ends_labelField labelled).both <|
        (Ends.optional_any labelled ["tier"] (Ends.choice Tier.all Tier.name)).both <|
        (Ends.optional_any labelled ["zone"] Ends.text).both <|
        Ends.optional_any labelled ["description"] Ends.text
      refine hall.map fun ⟨id, type, label, _⟩ ⟨hid, ⟨name, hname, hc⟩, hlabel, _⟩ => ?_
      -- a node of a known type has a label, put or its own
      obtain ⟨w, hw, hne⟩ := hlabels name type hname hc
      refine ⟨hid, fun h => hne ?_⟩
      rw [hlabel w hw]
      exact congrArg Json.str h
  | _ => exact .complain _

theorem Connection.ends_read (v : Json) :
    Ends (fun c => c.source ≠ c.target) none (Connection.read v) := by
  refine (Ends.fieldsOf _ v).bind fun fields _ => ?_
  have hall := (Ends.required_any fields ["source"] Ends.text).both <|
    (Ends.required_any fields ["target"] Ends.text).both <|
    (Ends.optional_any fields ["flowType", "flow_type"]
      (Ends.choice FlowKind.all FlowKind.name)).both <|
    (Ends.optional_any fields ["label"] Ends.text).both <|
    Ends.optional_any fields ["bidirectional"] Ends.flag
  refine hall.bind fun ⟨source, target, flow, label, bidirectional⟩ _ => ?_
  change Ends _ none (ite _ _ _)
  split_ifs with h
  · exact .complain _
  · exact .ok h

theorem Zone.ends_read (v : Json) : Ends (fun _ => True) none (Zone.read v) := by
  refine (Ends.fieldsOf _ v).bind fun fields _ => ?_
  have hall := (Ends.required_any fields ["id"] Ends.text).both <|
    (Ends.required_any fields ["label"] Ends.text).both <|
    Ends.required_any fields ["type"] (Ends.choice Tier.all Tier.name)
  exact hall.map fun _ _ => trivial

/-! ## Diagrams -/

/-- No node goes without a label. -/
def Spec.Labelled (s : Spec) : Prop := ∀ n ∈ s.nodes, n.label ≠ ""

theorem ends_eachOf {α : Type} {read : Json → Reading α} {p : α → Prop} (v : Json)
    (h : ∀ w, Ends p none (read w)) : Ends (fun l => ∀ a ∈ l, p a) none (.eachOf read v) := by
  cases v with
  | arr items =>
    have hitems : items.findSome? (fun _ => (none : Option Fault)) = none :=
      List.findSome?_eq_none_iff.mpr fun _ _ => rfl
    rw [← hitems]
    exact .eachFrom (fun w _ => h w) 0
  | _ => exact .complain _

theorem ends_nodes (fields : Fields) :
    Ends (fun l => ∀ n ∈ l, Text.isAllBlank n.id = false ∧ n.label ≠ "")
      ((Json.obj fields).nodeItems.findSome? Json.labelFault?)
      (.optional fields ["nodes"] [] (.eachOf Node.read)) := by
  rw [Json.nodeItems]
  refine .optional_one (fun hnone => ?_) fun v hv => ?_
  · rw [hnone]
    exact ⟨rfl, List.forall_mem_nil _⟩
  · rw [hv]
    cases v with
    | arr items => exact .eachFrom (fun n _ => Node.ends_read n) 0
    | _ => exact .complain _

/-- **How the reading of a diagram ends**: with a well-formed one in which every node has a
label. -/
theorem Spec.ends_read (v : Json) :
    Ends (fun s => s.WellFormed ∧ s.Labelled) (v.nodeItems.findSome? Json.labelFault?)
      (Spec.read v) := by
  cases v with
  | obj fields =>
    change Ends _ _ (Reading.both _ (Reading.both _ _) >>= _)
    have hconnections : Ends (fun l => ∀ c ∈ l, c.source ≠ c.target) none
        (.optional fields ["connections"] [] (.eachOf Connection.read)) :=
      .optional (fun _ => ⟨rfl, List.forall_mem_nil _⟩) fun _ v _ =>
        ends_eachOf v Connection.ends_read
    have hzones := Ends.optional_any fields ["zones"] fun v => ends_eachOf v Zone.ends_read
    have hall := (ends_nodes fields).both (hconnections.both hzones)
    rw [show (none : Option Fault).or none = none from rfl, Option.or_none] at hall
    refine hall.bind fun ⟨nodes, connections, zones⟩ ⟨hnodes, hloops, _⟩ => ?_
    refine .ofBreach fun s hs => ?_
    obtain ⟨rfl, hids, hends⟩ := check_eq_ok.mp hs
    exact ⟨⟨hids, fun n hn => (hnodes n hn).1, hloops, fun c hc => (hends c hc).1,
      fun c hc => (hends c hc).2⟩, fun n hn => (hnodes n hn).2⟩
  | _ => exact .complain _

/-- **What becomes of a document.** It is read into a well-formed diagram or refused with at least
one complaint, unless no label can be found for one of its nodes; the first such node decides on the
fault that ends the reading. -/
theorem Spec.read_cases (v : Json) :
    ((∃ s, Spec.read v = .ok s ∧ s.WellFormed ∧ s.Labelled) ∨
        ∃ i l, Spec.read v = .error (.issues (i :: l))) ∧
      v.nodeItems.findSome? Json.labelFault? = none ∨
    ∃ f, Spec.read v = .error (.fault f) ∧ v.nodeItems.findSome? Json.labelFault? = some f := by
  have h := Spec.ends_read v
  generalize v.nodeItems.findSome? Json.labelFault? = fault, Spec.read v = r at h
  cases h with
  | ok h => exact .inl ⟨.inl ⟨_, rfl, h⟩, rfl⟩
  | issues i l => exact .inl ⟨.inr ⟨i, l, rfl⟩, rfl⟩
  | fault f => exact .inr ⟨f, rfl, rfl⟩

/-- A diagram of one node whose type is a number. -/
def numberedType : Json :=
  .obj [("nodes", .arr [.obj [("id", .str "a"), ("type", .int 5)]]), ("connections", .arr [])]

/-- A type that is no text need not be complained about: the reading ends with a fault. -/
theorem not_settled_numberedType :
    Spec.read numberedType = .error (.fault (.noMember .int "split")) ∧
      ¬((∃ s, Spec.read numberedType = .ok s ∧ s.WellFormed) ∨
        ∃ l, Spec.read numberedType = .error (.issues l)) := by
  have h : Spec.read numberedType = .error (.fault (.noMember .int "split")) := rfl
  refine ⟨h, ?_⟩
  rw [h]
  rintro (⟨s, hs, _⟩ | ⟨l, hl⟩)
  · cases hs
  · cases hl

end NetSketch

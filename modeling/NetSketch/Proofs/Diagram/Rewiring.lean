import NetSketch.Diagram.Wiring
import NetSketch.Proofs.Diagram.WellFormed

/-!
# Rewiring

Wiring functions never touch a node. They succeed where the node to be wired has no connections
yet, and what they connect is known: by tier it is one of five kinds, at a position it touches the
node.

* `Spec.Rewired`, `Spec.Rewires`: connections changed, every new one satisfying a predicate;
  `Spec.Rewires.bind`, `Spec.Rewires.foldlM`: rewirings one after another;
* `Spec.TierEdge`: the connections that wiring by tier brings;
* **`Spec.connectByTier_rewires`** and `Spec.insertAfter_rewires`, `Spec.insertBefore_rewires`,
  `Spec.insertBetween_rewires`, `Spec.insertAtStart_rewires`, `Spec.insertAtEnd_rewires`.
-/

namespace NetSketch

/-! ## Nodes picked from a list -/

theorem mem_of_foldl {pick : Option Node → Node → Option Node}
    (hpick : ∀ best m, pick best m = some m ∨ pick best m = best) {l : List Node} {n : Node}
    (h : l.foldl pick none = some n) : n ∈ l := by
  refine List.foldlRecOn (motive := fun best => ∀ n, best = some n → n ∈ l) l pick ?_ ?_ n h
  · rintro _ ⟨⟩
  · intro best ih m hm n h
    rcases hpick best m with hb | hb
    · rw [hb] at h
      exact Option.some.inj h ▸ hm
    · exact ih n (hb ▸ h)

theorem foldl_eq_none {pick : Option Node → Node → Option Node}
    (hpick : ∀ best m, pick best m ≠ none) {l : List Node} : l.foldl pick none = none ↔ l = [] := by
  rcases List.eq_nil_or_concat l with rfl | ⟨l, m, rfl⟩
  · exact iff_of_true rfl rfl
  · rw [List.concat_eq_append, List.foldl_concat]
    exact iff_of_false (hpick _ _) (by simp)

theorem mem_of_innermost? {l : List Node} {n : Node} (h : innermost? l = some n) : n ∈ l := by
  refine mem_of_foldl (fun best m => ?_) h
  cases best with
  | none => exact Or.inl rfl
  | some b => by_cases hb : m.pathKey.before b.pathKey = true <;> simp [hb]

theorem mem_of_outermost? {l : List Node} {n : Node} (h : outermost? l = some n) : n ∈ l := by
  refine mem_of_foldl (fun best m => ?_) h
  cases best with
  | none => exact Or.inl rfl
  | some b => by_cases hb : m.pathKey.before b.pathKey = true <;> simp [hb]

theorem innermost?_eq_none {l : List Node} : innermost? l = none ↔ l = [] := by
  refine foldl_eq_none fun best m => ?_
  cases best with
  | none => exact Option.some_ne_none m
  | some b => by_cases hb : m.pathKey.before b.pathKey = true <;> simp [hb]

theorem outermost?_eq_none {l : List Node} : outermost? l = none ↔ l = [] := by
  refine foldl_eq_none fun best m => ?_
  cases best with
  | none => exact Option.some_ne_none m
  | some b => by_cases hb : m.pathKey.before b.pathKey = true <;> simp [hb]

theorem sideAnchor?_eq_none {l : List Node} {side : Node} : sideAnchor? l side = none ↔ l = [] := by
  cases l with
  | nil => exact iff_of_true rfl rfl
  | cons first rest => exact iff_of_false (Option.some_ne_none _) (List.cons_ne_nil first rest)

theorem mem_of_sideAnchor? {l : List Node} {side n : Node} (h : sideAnchor? l side = some n) :
    n ∈ l := by
  cases l with
  | nil => cases h
  | cons first rest =>
    obtain rfl := Option.some.inj h
    cases hi : innermost? ((first :: rest).filter (·.tier.index ≤ side.tier.index)) with
    | none => exact List.mem_cons_self
    | some a => exact List.mem_of_mem_filter (mem_of_innermost? hi)

namespace Spec

variable {P : String × String → Prop} {s t u : Spec} {id : String}

/-! ## Rewirings -/

/-- One diagram comes from another by connections cut and made. Those that are not cut stay as they
are, and each new one satisfies `P`. -/
structure Rewired (P : String × String → Prop) (s t : Spec) : Prop where
  nodes_eq : t.nodes = s.nodes
  zones_eq : t.zones = s.zones
  connections_eq : ∃ kept new, t.connections = kept ++ new ∧ kept.Sublist s.connections ∧
    ∀ c ∈ new, P c.ends
  wellFormed : s.WellFormed → t.WellFormed
  count_ends : ∀ e, s.ends.count e ≤ 1 → t.ends.count e ≤ 1

namespace Rewired

theorem refl : Rewired P s s :=
  ⟨rfl, rfl, ⟨s.connections, [], by simp⟩, fun h => h, fun _ h => h⟩

theorem trans (h : Rewired P s t) (h' : Rewired P t u) : Rewired P s u where
  nodes_eq := h'.nodes_eq.trans h.nodes_eq
  zones_eq := h'.zones_eq.trans h.zones_eq
  connections_eq := by
    obtain ⟨kept, new, heq, hkept, hnew⟩ := h.connections_eq
    obtain ⟨kept', new', heq', hkept', hnew'⟩ := h'.connections_eq
    -- Some of what was kept is kept again, and some of what was new.
    rw [heq] at hkept'
    obtain ⟨l₁, l₂, rfl, h₁, h₂⟩ := List.sublist_append_iff.mp hkept'
    refine ⟨l₁, l₂ ++ new', by rw [heq', List.append_assoc], h₁.trans hkept, fun c hc => ?_⟩
    rcases List.mem_append.mp hc with hc | hc
    · exact hnew c (h₂.subset hc)
    · exact hnew' c hc
  wellFormed hs := h'.wellFormed (h.wellFormed hs)
  count_ends e he := h'.count_ends e (h.count_ends e he)

theorem ends_sub (h : Rewired P s t) {e : String × String} (he : e ∈ t.ends) : e ∈ s.ends ∨ P e := by
  obtain ⟨kept, new, heq, hkept, hnew⟩ := h.connections_eq
  obtain ⟨c, hc, rfl⟩ := mem_ends.mp he
  rw [heq] at hc
  exact (List.mem_append.mp hc).imp (fun hc => ends_mem (hkept.subset hc)) (hnew c)

theorem nodup_ends (h : Rewired P s t) (hs : s.ends.Nodup) : t.ends.Nodup := by
  rw [List.nodup_iff_count_le_one] at hs ⊢
  exact fun e => h.count_ends e (hs e)

theorem addConnection {c : Connection} (hc : c.source ≠ c.target) (hP : P c.ends) :
    Rewired P s (s.addConnection c) where
  nodes_eq := addConnection_nodes
  zones_eq := addConnection_zones
  connections_eq := by
    obtain ⟨new, heq, hnew⟩ := addConnection_connections (s := s) (c := c)
    exact ⟨s.connections, new, heq, List.Sublist.refl _, fun d hd => (hnew d hd).1 ▸ hP⟩
  wellFormed hs := hs.addConnection hc
  count_ends _ he := count_ends_addConnection he

theorem removeConnection {a b : String} : Rewired P s (s.removeConnection a b) where
  nodes_eq := rfl
  zones_eq := rfl
  connections_eq := ⟨_, [], (List.append_nil _).symm, List.filter_sublist, by simp⟩
  wellFormed hs := hs.removeConnection
  count_ends _ he := count_ends_removeConnection he

end Rewired

/-- An edit that succeeds and does nothing but rewire. -/
def Rewires (P : String × String → Prop) (s : Spec) (r : Except Breach Spec) : Prop :=
  ∃ t, r = .ok t ∧ Rewired P s t

namespace Rewires

theorem ok (h : Rewired P s t) : Rewires P s (.ok t) := ⟨t, rfl, h⟩

theorem refl : Rewires P s (.ok s) := ok .refl

theorem bind {r : Except Breach Spec} {f : Spec → Except Breach Spec} (h : Rewires P s r)
    (hf : ∀ t, Rewired P s t → Rewires P t (f t)) : Rewires P s (r >>= f) := by
  obtain ⟨t, rfl, ht⟩ := h
  obtain ⟨u, hu, hu'⟩ := hf t ht
  exact ⟨u, hu, ht.trans hu'⟩

theorem after (ht : Rewired P s t) {r : Except Breach Spec} (h : Rewires P t r) :
    Rewires P s r := by
  obtain ⟨u, rfl, hu⟩ := h
  exact ok (ht.trans hu)

theorem foldlM {α : Type} {f : Spec → α → Except Breach Spec} {l : List α}
    (hf : ∀ t, ∀ x ∈ l, Rewires P t (f t x)) : Rewires P s (l.foldlM f s) := by
  induction l generalizing s with
  | nil => exact refl
  | cons x l ih =>
    rw [List.foldlM_cons]
    exact (hf s x List.mem_cons_self).bind fun t _ =>
      ih fun t y hy => hf t y (List.mem_cons_of_mem _ hy)

end Rewires

theorem connect_rewires {a b : String} (h : a ≠ b) (flow : Option FlowKind) (hP : P (a, b)) :
    Rewires P s (s.connect a b flow) := by
  rw [connect_eq h]
  exact .ok (.addConnection h hP)

theorem replace_rewires {a b x y : String} (h : x ≠ y) (flow : Option FlowKind) (hP : P (x, y)) :
    Rewires P s ((s.removeConnection a b).connect x y flow) :=
  .after .removeConnection (connect_rewires h flow hP)

/-! ## Wiring by tier -/

theorem copyNeighbours_rewires {peer : String} (hid : s.Isolated id)
    (hin : ∀ e ∈ s.ends, e.2 = peer → P (e.1, id)) (hout : ∀ e ∈ s.ends, e.1 = peer → P (id, e.2)) :
    Rewires P s (s.copyNeighbours peer id) := by
  refine .foldlM fun t x hx => ?_
  rcases List.mem_append.mp hx with hx | hx
  · obtain ⟨c, hc, rfl⟩ := List.mem_map.mp hx
    obtain ⟨hmem, rfl⟩ := mem_incoming.mp hc
    exact connect_rewires (hid _ (ends_mem hmem)).1 _ (hin _ (ends_mem hmem) rfl)
  · obtain ⟨c, hc, rfl⟩ := List.mem_map.mp hx
    obtain ⟨hmem, rfl⟩ := mem_outgoing.mp hc
    exact connect_rewires (hid _ (ends_mem hmem)).2.symm _ (hout _ (ends_mem hmem) rfl)

theorem copyFirst?_of {R : Spec → Prop} {peers : List Node}
    (h : ∀ p ∈ peers, ∃ t, s.copyNeighbours p.id id = .ok t ∧ R t) :
    ∃ o, s.copyFirst? id peers = .ok o ∧ ∀ t, o = some t → R t := by
  induction peers with
  | nil => exact ⟨none, rfl, nofun⟩
  | cons p peers ih =>
    obtain ⟨t, ht, hs⟩ := h p List.mem_cons_self
    rw [copyFirst?, ht]
    change ∃ o, (if t = s then s.copyFirst? id peers else .ok (some t)) = .ok o ∧ _
    split_ifs
    · exact ih fun q hq => h q (List.mem_cons_of_mem _ hq)
    · exact ⟨some t, rfl, fun u hu => Option.some.inj hu ▸ hs⟩

theorem insertBetween_rewires {first second : String} (h₁ : first ≠ id) (h₂ : second ≠ id)
    (hP₁ : P (first, id)) (hP₂ : P (id, second)) :
    Rewires P s (s.insertBetween id first second) :=
  .after .removeConnection <| (replace_rewires h₁ _ hP₁).bind fun _ _ =>
    connect_rewires h₂.symm _ hP₂

/-- The connections that wiring by tier brings for a node. -/
inductive TierEdge (s : Spec) (n : Node) : String × String → Prop
  /-- A side node hangs off another node. -/
  | hung {a : Node} (ha : a ∈ s.nodes) (hne : a.id ≠ n.id) (hn : n.isSide = true) :
    TierEdge s n (a.id, n.id)
  /-- A path node is reached from where a peer is reached from. -/
  | copiedIn {peer : Node} {e : String × String} (hp : peer ∈ s.nodes) (hs : peer.isSide = false)
      (ht : peer.type = n.type) (he : e ∈ s.ends) (hpeer : e.2 = peer.id) :
    TierEdge s n (e.1, n.id)
  /-- A path node leads to where a peer leads to. -/
  | copiedOut {peer : Node} {e : String × String} (hp : peer ∈ s.nodes) (hs : peer.isSide = false)
      (ht : peer.type = n.type) (he : e ∈ s.ends) (hpeer : e.1 = peer.id) :
    TierEdge s n (n.id, e.2)
  /-- A path node is reached from one further out. -/
  | fromOuter {a : Node} (ha : a ∈ s.nodes) (hs : a.isSide = false) (hn : n.isSide = false)
      (hb : a.pathKey.before n.pathKey = true) : TierEdge s n (a.id, n.id)
  /-- A path node leads to one further in. -/
  | toInner {b : Node} (hb : b ∈ s.nodes) (hs : b.isSide = false) (hn : n.isSide = false)
      (ha : n.pathKey.before b.pathKey = true) : TierEdge s n (n.id, b.id)

/-- Between its neighbours on the path, a path node is reached from further out and leads further
in. -/
theorem pathNeighbours_rewires {n : Node} {path : List Node} (hside : n.isSide = false)
    (hpath : ∀ m ∈ path, m ∈ s.nodes ∧ m.id ≠ n.id ∧ m.isSide = false) :
    Rewires (TierEdge s n) s
      (match innermost? (path.filter (·.pathKey.before n.pathKey)),
          outermost? (path.filter (n.pathKey.before ·.pathKey)) with
        | some a, some b =>
          if s.hasConnection a.id b.id then s.insertBetween n.id a.id b.id
          else do
            let t ← s.connect a.id n.id defaultFlow
            if (t.incoming b.id).isEmpty then t.connect n.id b.id defaultFlow else return t
        | some a, none => s.connect a.id n.id defaultFlow
        | none, some b => s.connect n.id b.id defaultFlow
        | none, none => .ok s) := by
  have houter : ∀ a, innermost? (path.filter (·.pathKey.before n.pathKey)) = some a →
      a.id ≠ n.id ∧ TierEdge s n (a.id, n.id) := by
    intro a ha
    obtain ⟨hmem, hbefore⟩ := List.mem_filter.mp (mem_of_innermost? ha)
    obtain ⟨hs, hne, has⟩ := hpath a hmem
    exact ⟨hne, .fromOuter hs has hside hbefore⟩
  have hinner : ∀ b, outermost? (path.filter (n.pathKey.before ·.pathKey)) = some b →
      b.id ≠ n.id ∧ TierEdge s n (n.id, b.id) := by
    intro b hb
    obtain ⟨hmem, hbefore⟩ := List.mem_filter.mp (mem_of_outermost? hb)
    obtain ⟨hs, hne, hbs⟩ := hpath b hmem
    exact ⟨hne, .toInner hs hbs hside hbefore⟩
  split
  · rename_i a b ha hb
    obtain ⟨hane, hae⟩ := houter a ha
    obtain ⟨hbne, hbe⟩ := hinner b hb
    split_ifs
    · exact insertBetween_rewires hane hbne hae hbe
    · refine (connect_rewires hane _ hae).bind fun t _ => ?_
      split_ifs
      · exact connect_rewires hbne.symm _ hbe
      · exact .refl
  · rename_i a ha _
    exact connect_rewires (houter a ha).1 _ (houter a ha).2
  · rename_i b _ hb
    exact connect_rewires (hinner b hb).1.symm _ (hinner b hb).2
  · exact .refl

/-- **Wiring by tier succeeds for a node without connections**, and it is known what it connects. -/
theorem connectByTier_rewires {n : Node} (hn : s.node? n.id = some n) (hid : s.Isolated n.id) :
    Rewires (TierEdge s n) s (s.connectByTier n.id) := by
  have hother : ∀ m ∈ s.nodes.filter (·.id != n.id), m ∈ s.nodes ∧ m.id ≠ n.id := by simp
  have hpath : ∀ m ∈ (s.nodes.filter (·.id != n.id)).filter (!·.isSide),
      m ∈ s.nodes ∧ m.id ≠ n.id ∧ m.isSide = false := by
    intro m hm
    obtain ⟨hm, hside⟩ := List.mem_filter.mp hm
    exact ⟨(hother m hm).1, (hother m hm).2, by simpa using hside⟩
  rw [connectByTier, hn]
  dsimp only
  split_ifs with hempty hside hnone
  · exact .refl
  · split
    · exact .refl
    · rename_i a ha
      obtain ⟨hmem, hne⟩ := hother a (mem_of_sideAnchor? ha)
      exact connect_rewires hne _ (.hung hmem hne hside)
  · split
    · exact .refl
    · rename_i a ha
      obtain ⟨hmem, hne, _⟩ := hpath a (mem_of_sideAnchor? ha)
      exact connect_rewires hne _ (.hung hmem hne hside)
  · have hcopy : ∀ p ∈ ((s.nodes.filter (·.id != n.id)).filter (!·.isSide)).filter
        (·.type == n.type), Rewires (TierEdge s n) s (s.copyNeighbours p.id n.id) := by
      intro p hp
      obtain ⟨hp, htype⟩ := List.mem_filter.mp hp
      obtain ⟨hmem, _, hps⟩ := hpath p hp
      exact copyNeighbours_rewires hid
        (fun e he hpe => .copiedIn hmem hps (by simpa using htype) he hpe)
        (fun e he hpe => .copiedOut hmem hps (by simpa using htype) he hpe)
    obtain ⟨o, ho, hcopied⟩ := copyFirst?_of hcopy
    rw [ho]
    cases o with
    | some t => exact ⟨t, rfl, hcopied t rfl⟩
    | none => exact pathNeighbours_rewires (by simpa using hside) hpath

/-! ## Wiring at a position -/

/-- A connection touches an id. -/
def Touches (id : String) (e : String × String) : Prop := e.1 = id ∨ e.2 = id

theorem insertAfter_rewires {ref : String} (hid : s.Isolated id) (href : ref ≠ id) :
    Rewires (Touches id) s (s.insertAfter id ref) := by
  refine Rewires.bind (.foldlM fun t c hc => ?_) fun t _ =>
    connect_rewires href _ (Or.inr rfl)
  have hc : c ∈ s.outgoing ref := by
    split_ifs at hc
    · exact (List.mem_filter.mp hc).1
    · cases hc
  exact replace_rewires (hid _ (ends_mem (mem_outgoing.mp hc).1)).2.symm _ (Or.inl rfl)

theorem insertBefore_rewires {ref : String} (hid : s.Isolated id) (href : ref ≠ id) :
    Rewires (Touches id) s (s.insertBefore id ref) := by
  refine Rewires.bind (.foldlM fun t c hc => ?_) fun t _ =>
    connect_rewires href.symm _ (Or.inl rfl)
  have hc : c ∈ s.incoming ref := (List.mem_filter.mp hc).1
  exact replace_rewires (hid _ (ends_mem (mem_incoming.mp hc).1)).1 _ (Or.inr rfl)

theorem insertAtStart_rewires : Rewires (Touches id) s (s.insertAtStart id) := by
  have hother : ∀ m ∈ s.nodes.filter (·.id != id), m.id ≠ id := by simp
  refine .foldlM fun t m hm => connect_rewires (hother m ?_).symm _ (Or.inl rfl)
  split_ifs at hm
  · exact List.mem_of_mem_take hm
  · exact List.mem_of_mem_filter hm

theorem insertAtEnd_rewires : Rewires (Touches id) s (s.insertAtEnd id) := by
  have hother : ∀ m ∈ s.nodes.filter (·.id != id), m.id ≠ id := by simp
  rw [insertAtEnd]
  split
  · exact .refl
  · rename_i m hm
    refine connect_rewires (hother m ?_) _ (Or.inr rfl)
    have := mem_of_innermost? hm
    split_ifs at this
    · exact this
    · exact List.mem_of_mem_filter this

end Spec

end NetSketch

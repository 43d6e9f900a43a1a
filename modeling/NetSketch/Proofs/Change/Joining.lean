import NetSketch.Proofs.Change.Answer
import NetSketch.Proofs.Change.Between

/-!
# Two nodes joined and parted

The nodes that a prompt or an intent wants to be connected are two different ones. A connection
between them is added once, and cut whichever way it runs.

* `endpoints_congr`: the nodes to be connected are read off the nodes alone;
* `Spec.joined`, `connect_eq`; `Spec.cutBetween`, `Spec.length_cutBetween`, `disconnect_eq`;
* **`connect_and_disconnect`**: what the two requests do, the one behind the other.
-/

namespace NetSketch

variable {store : Store} {prompt prompt' : String} {s t : Spec} {intent intent' : Option Intent}
  {a b : Node} {rest rest' : List Node}

theorem endpoints_congr (h : t.nodes = s.nodes) (prompt : String) (intent : Option Intent) :
    endpoints prompt t intent = endpoints prompt s intent := by
  obtain ⟨nodes, _, _⟩ := s
  obtain ⟨_, _, _⟩ := t
  obtain rfl : _ = nodes := h
  rfl

namespace Spec

variable {x y : String}

/-! ## Parting -/

theorem cutBetween_connections : (s.cutBetween x y).connections =
    s.connections.filter fun c => c.ends ≠ (x, y) ∧ c.ends ≠ (y, x) := by
  rw [cutBetween, removeConnection, removeConnection, List.filter_filter]
  refine List.filter_congr fun c _ => ?_
  rw [Bool.eq_iff_iff]
  simp [Connection.ends, and_comm]

theorem cutBetween_comm : s.cutBetween x y = s.cutBetween y x := by
  simp only [cutBetween, removeConnection, List.filter_filter, Bool.and_comm]

theorem not_joins_either : ¬ (s.Joins x y ∨ s.Joins y x) ↔
    ∀ c ∈ s.connections, c.ends ≠ (x, y) ∧ c.ends ≠ (y, x) := by
  simp only [Joins, mem_ends, not_or, not_exists, not_and, ne_eq, ← forall_and]

theorem cutBetween_eq_self (h : ¬ (s.Joins x y ∨ s.Joins y x)) : s.cutBetween x y = s := by
  have hconnections : (s.cutBetween x y).connections = s.connections := by
    rw [cutBetween_connections, List.filter_eq_self]
    simpa using not_joins_either.mp h
  change { s with connections := (s.cutBetween x y).connections } = s
  rw [hconnections]

/-- The number of connections tells whether one was cut. -/
theorem length_cutBetween : (s.cutBetween x y).connections.length = s.connections.length ↔
    ¬ (s.Joins x y ∨ s.Joins y x) := by
  rw [cutBetween_connections, List.length_filter_eq_length_iff, not_joins_either]
  simp only [decide_eq_true_eq]

/-! ## Joining -/

/-- A diagram in which a connection runs from one id to another, a new one if there was none. -/
def joined (s : Spec) (x y : String) : Spec :=
  if s.Joins x y then s else s.withConnection ⟨x, y, defaultFlow, none, none⟩

theorem joined_nodes : (s.joined x y).nodes = s.nodes := by
  unfold joined
  split_ifs <;> rfl

theorem joins_joined : (s.joined x y).Joins x y := by
  unfold joined
  split_ifs with h
  · exact h
  · exact mem_ends_withConnection.mpr (.inr rfl)

theorem connect_eq_joined (hx : x ∈ s.ids) (hy : y ∈ s.ids) (hne : x ≠ y) :
    s.connect x y defaultFlow = .ok (s.joined x y) := by
  unfold joined
  split_ifs with h
  · rw [connect_eq hne, addConnection, if_neg (by simp [hx, hy]), if_pos (hasConnection_iff.mpr h)]
  · exact connect_eq_of_not_joins hx hy hne h _

theorem connectionChanges_joined : s.connectionChanges (s.joined x y) =
    if s.Joins x y then [] else [.addConnection x y] := by
  have hsame : s.ends.filter (fun e => !s.ends.contains e) = [] := by simp
  unfold joined
  split_ifs with h
  · rw [connectionChanges, hsame]
    rfl
  · have hends : (s.withConnection ⟨x, y, defaultFlow, none, none⟩).ends = s.ends ++ [(x, y)] := by
      simp [withConnection, ends, Connection.ends]
    have hnew : [(x, y)].filter (fun e => !s.ends.contains e) = [(x, y)] := by
      simpa [Joins] using h
    have hkept : s.ends.filter (fun e => !(s.ends ++ [(x, y)]).contains e) = [] :=
      List.filter_eq_nil_iff.mpr fun e he => by simp [he]
    rw [connectionChanges, hends, List.filter_append, hsame, hnew, hkept]
    rfl

theorem cutBetween_joined (h : ¬ (s.Joins x y ∨ s.Joins y x)) :
    (s.joined x y).cutBetween x y = s := by
  have hcut := cutBetween_eq_self h
  rw [joined, if_neg fun hxy => h (.inl hxy)]
  rw [cutBetween, removeConnection, removeConnection] at hcut ⊢
  simpa [withConnection] using hcut

end Spec

/-! ## Requests -/

theorem connect_obeyed (hs : s.WellFormed) (h : endpoints prompt s intent = a :: b :: rest) :
    Obeyed (fun t steps => t = s.joined a.id b.id ∧
        steps = if s.Joins a.id b.id then [] else [.addConnection a.id b.id])
      (fun store => connect store prompt (some s) intent) := by
  have hmem := (endpoints_told hs.ids_nodup prompt intent).1
  rw [h] at hmem
  have hne := endpoints_ne hs.ids_nodup h
  have ht := Spec.connect_eq_joined (Spec.id_mem_ids (hmem (by simp)))
    (Spec.id_mem_ids (hmem (by simp))) hne
  simp only [connect, h, ht]
  exact .advised ⟨rfl, Spec.connectionChanges_joined⟩

theorem disconnect_eq (h : endpoints prompt s intent = a :: b :: rest) :
    disconnect store prompt (some s) intent =
      if s.Joins a.id b.id ∨ s.Joins b.id a.id then
        advised store s (s.cutBetween a.id b.id) [a.type, b.type]
          { command := .disconnect, spec := s.cutBetween a.id b.id
            confidence := confidenceBy intent
            modifications := s.connectionChanges (s.cutBetween a.id b.id) }
      else .ok (.failed .disconnect .connectionNotFound none) := by
  have hlength := s.length_cutBetween (x := a.id) (y := b.id)
  simp only [disconnect, h]
  change (if (s.cutBetween a.id b.id).connections.length = s.connections.length then _ else _) = _
  by_cases hjoins : s.Joins a.id b.id ∨ s.Joins b.id a.id
  · rw [if_pos hjoins, if_neg (mt hlength.mp (not_not.mpr hjoins))]
    rfl
  · rw [if_neg hjoins, if_pos (hlength.mpr hjoins)]
    rfl

theorem disconnect_obeyed (h : endpoints prompt s intent = a :: b :: rest ∨
      endpoints prompt s intent = b :: a :: rest) (hjoins : s.Joins a.id b.id ∨ s.Joins b.id a.id) :
    Obeyed (fun t _ => t = s.cutBetween a.id b.id)
      (fun store => disconnect store prompt (some s) intent) := by
  rcases h with h | h
  · simp only [disconnect_eq h, if_pos hjoins]
    exact .advised rfl
  · simp only [disconnect_eq h, if_pos hjoins.symm]
    exact .advised Spec.cutBetween_comm

theorem disconnect_failed (h : endpoints prompt s intent = a :: b :: rest ∨
      endpoints prompt s intent = b :: a :: rest)
    (hjoins : ¬ (s.Joins a.id b.id ∨ s.Joins b.id a.id)) :
    disconnect store prompt (some s) intent =
      .ok (.failed .disconnect .connectionNotFound none) := by
  rcases h with h | h
  · rw [disconnect_eq h, if_neg hjoins]
  · rw [disconnect_eq h, if_neg (mt Or.symm hjoins)]

/-- **Two nodes joined and parted.** A connection is added behind all others, unless there is one
already. The nodes are parted, named in either order, exactly when a connection runs between them,
and then of all connections between them. So nothing is left of a new connection. -/
theorem connect_and_disconnect (hs : s.WellFormed) (h : endpoints prompt s intent = a :: b :: rest)
    (h' : endpoints prompt' s intent' = a :: b :: rest' ∨
      endpoints prompt' s intent' = b :: a :: rest') :
    ∃ t, t = (if s.Joins a.id b.id then s else
        { s with connections := s.connections ++ [⟨a.id, b.id, defaultFlow, none, none⟩] }) ∧
      Obeyed (fun u steps => u = t ∧
          steps = if s.Joins a.id b.id then [] else [.addConnection a.id b.id])
        (fun store => connect store prompt (some s) intent) ∧
      (∀ store, store.Typed → ((∃ c, disconnect store prompt' (some s) intent' = .ok (.done c)) ↔
        s.Joins a.id b.id ∨ s.Joins b.id a.id)) ∧
      (∀ store, Followed (fun u _ => u = { s with connections := s.connections.filter fun c =>
          c.ends ≠ (a.id, b.id) ∧ c.ends ≠ (b.id, a.id) })
        (disconnect store prompt' (some s) intent')) ∧
      (¬ (s.Joins a.id b.id ∨ s.Joins b.id a.id) →
        Obeyed (fun u _ => u = s) (fun store => disconnect store prompt' (some t) intent')) := by
  refine ⟨_, rfl, connect_obeyed hs h, fun store hstore => ⟨?_, fun hjoins => ?_⟩,
    fun store c hc => ?_, fun hnone => ?_⟩
  · rintro ⟨c, hc⟩
    by_contra hnone
    cases (disconnect_failed h' hnone).symm.trans hc
  · exact (disconnect_obeyed h' hjoins store).2 hstore
  · by_cases hjoins : s.Joins a.id b.id ∨ s.Joins b.id a.id
    · rw [← Spec.cutBetween_connections]
      exact (disconnect_obeyed h' hjoins store).1 c hc
    · cases (disconnect_failed h' hjoins).symm.trans hc
  · change Obeyed _ (fun store => disconnect store prompt' (some (s.joined a.id b.id)) intent')
    rw [← endpoints_congr (t := s.joined a.id b.id) Spec.joined_nodes] at h'
    have hcut := Spec.cutBetween_joined hnone
    have := disconnect_obeyed h' (.inl Spec.joins_joined)
    rwa [hcut] at this

/-- A wish to connect the detector beside the tunnel to the web server. -/
def detectorToWeb : Intent :=
  ⟨.connect, editConfidence, [], some ⟨.between, some "ids-1", some "web-1", (0, 0)⟩, none⟩

/-- A wish to part a web server and a detector. -/
def webFromDetector : Intent :=
  ⟨.disconnect, editConfidence, [{ type := .webServer }, { type := .idsIps }], none, none⟩

theorem connect_and_disconnect_tunnel : Spec.tunnel.WellFormed ∧
    ∃ c, connect .bundled "" (some .tunnel) (some detectorToWeb) = .ok (.done c) ∧
      c.spec = some { Spec.tunnel with connections :=
        [⟨"fw-1", "web-1", some .encrypted, none, none⟩,
          ⟨"ids-1", "web-1", defaultFlow, none, none⟩] } ∧
      c.modifications = [.addConnection "ids-1" "web-1"] ∧
      ∃ d, disconnect .bundled "" c.spec (some webFromDetector) = .ok (.done d) ∧
        d.spec = some .tunnel := by
  have hs : Spec.tunnel.WellFormed := by decide
  have h : endpoints "" .tunnel (some detectorToWeb) =
      [⟨"ids-1", .idsIps, "", none, none, none⟩, ⟨"web-1", .webServer, "", none, none, none⟩] := by
    decide +kernel
  have h' : endpoints "" .tunnel (some webFromDetector) =
      [⟨"web-1", .webServer, "", none, none, none⟩, ⟨"ids-1", .idsIps, "", none, none, none⟩] := by
    decide +kernel
  have hnone : ¬ (Spec.tunnel.Joins "ids-1" "web-1" ∨ Spec.tunnel.Joins "web-1" "ids-1") := by
    decide
  obtain ⟨t, ht, hconnect, -, -, hdisconnect⟩ := connect_and_disconnect hs h (.inr h')
  obtain ⟨c, hc⟩ := (hconnect .bundled).2 Store.bundled_typed
  obtain ⟨u, hu, rfl, hsteps⟩ := (hconnect .bundled).1 c hc
  obtain ⟨d, hd⟩ := (hdisconnect hnone .bundled).2 Store.bundled_typed
  obtain ⟨v, hv, rfl⟩ := (hdisconnect hnone .bundled).1 d hd
  refine ⟨hs, c, hc, hu.trans (congrArg some ?_), hsteps, d, hu ▸ hd, hv⟩
  rw [ht]
  rfl

end NetSketch

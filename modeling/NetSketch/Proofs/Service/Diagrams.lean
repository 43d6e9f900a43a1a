import NetSketch.Knowledge.Bundled.Corpus
import NetSketch.Proofs.Json.Course
import NetSketch.Proofs.Service.Shelf
import NetSketch.Service.Server

/-!
# Diagrams behind requests

A request is accepted if it is to store a diagram, has a valid body, and is answered with a document.
Only what is accepted changes the shelf, so the shelf behind any requests tells of what was accepted,
and that decides what further requests are told.

* `Json.isFinite_of_at?`: values inside finite ones; `Request.sendable_invalid`;
* `Request.gets?`, `Request.puts?`: requests for diagrams; `Server.respond_get`,
  `Server.respond_put`: their answers;
* `Server.write?`, `Server.writes`: what requests store; **`Server.shelf_respond`** for one request,
  **`Server.shelf_behind`** for a run;
* `Told`: what is told of diagrams behind some writes; **`told_behind`**: it is so behind any requests;
* `AsGiven`, **`not_asGiven_selected`**: values are not always kept as they were given.
-/

namespace NetSketch.Json

/-! ## Values inside finite ones -/

theorem itemsFinite_iff {items : List Json} :
    itemsFinite items = true ↔ ∀ v ∈ items, v.isFinite = true := by
  induction items with
  | nil => simp [itemsFinite]
  | cons v rest ih => simp [itemsFinite, ih]

theorem fieldsFinite_iff {fields : Fields} :
    fieldsFinite fields = true ↔ ∀ p ∈ fields, p.2.isFinite = true := by
  induction fields with
  | nil => simp [fieldsFinite]
  | cons p rest ih => simp [fieldsFinite, ih]

theorem isFinite_of_at? {v u : Json} {path : List Step} (hv : v.isFinite = true)
    (h : v.at? path = some u) : u.isFinite = true := by
  induction path generalizing v with
  | nil =>
    rw [at?] at h
    exact Option.some.inj h ▸ hv
  | cons step rest ih =>
    cases step with
    | field name =>
      cases v with
      | obj fields =>
        obtain ⟨x, hx, hu⟩ := Option.bind_eq_some_iff.mp h
        obtain ⟨before, after, rfl, -⟩ := List.lookup_eq_some_iff.mp hx
        exact ih (fieldsFinite_iff.mp hv (name, x) (by simp)) hu
      | null | bool | int | float | str | arr => simp [at?] at h
    | item index =>
      cases v with
      | arr items =>
        obtain ⟨x, hx, hu⟩ := Option.bind_eq_some_iff.mp h
        exact ih (itemsFinite_iff.mp hv x (List.mem_of_getElem? hx)) hu
      | null | bool | int | float | str | obj => simp [at?] at h

end NetSketch.Json

namespace NetSketch.Service

open Number

/-! ## Requests for diagrams -/

/-- The id of the diagram that a request asks for. -/
def Request.gets? (r : Request) : Option String :=
  match Route.ofAddress? r.path, Method.ofName? r.method with
  | some (.diagram id), some .get => some id
  | _, _ => none

/-- The id under which a request is to store a diagram. -/
def Request.puts? (r : Request) : Option String :=
  match Route.ofAddress? r.path, Method.ofName? r.method with
  | some (.diagram id), some .put => some id
  | _, _ => none

/-- What is sent of a document. -/
def sent (v : Json) : Response :=
  if v.isFinite then ⟨200, v⟩ else ⟨500, .str "Internal Server Error"⟩

variable {w : World} {s : Server} {r : Request} {id : String} {u : Update}

theorem Request.gets?_eq_some (h : r.gets? = some id) :
    Route.ofAddress? r.path = some (.diagram id) ∧ Method.ofName? r.method = some .get := by
  unfold gets? at h
  split at h
  · next hroute hmethod => exact ⟨Option.some.inj h ▸ hroute, hmethod⟩
  · cases h

theorem Request.puts?_eq_some : r.puts? = some id ↔
    Route.ofAddress? r.path = some (.diagram id) ∧ Method.ofName? r.method = some .put := by
  unfold puts?
  constructor
  · intro h
    split at h
    · next hroute hmethod => exact ⟨Option.some.inj h ▸ hroute, hmethod⟩
    · cases h
  · rintro ⟨hroute, hmethod⟩
    rw [hroute, hmethod]

theorem Method.capitals_ne_head {name : String} {m : Method} (h : Method.ofName? name = some m) :
    capitals name ≠ "HEAD" := by
  intro hhead
  rw [ofName?, hhead] at h
  simp at h

theorem Request.response_eq {m : Method} (h : Method.ofName? r.method = some m) (a : Answer) :
    r.response a = ⟨(if r.sendable a then a else .broken).status,
      (if r.sendable a then a else .broken).body⟩ := by
  rw [response, if_neg (Method.capitals_ne_head h)]

theorem Request.response_done {m : Method} (h : Method.ofName? r.method = some m) (v : Json) :
    r.response (.done v) = sent v := by
  rw [response_eq h, sendable, sent]
  split_ifs <;> rfl

theorem Request.sendable_invalid (h : (r.body.getD .null).isFinite = true) (issues : List Issue) :
    r.sendable (.invalid issues) = true := by
  rw [sendable, List.all_eq_true]
  intro i _
  rw [Issue.quoted]
  cases hat : (r.body.getD .null).at? (if i.complaint = .missing then i.path.dropLast else i.path)
  with
  | none => rfl
  | some v => exact Json.isFinite_of_at? h hat

namespace Server

/-! ## One request -/

/-- Whether a request is within the limit. -/
def admits (s : Server) (r : Request) : Bool := (s.limiter.allow r.caller r.time).1

/-- The server that has counted a request. -/
def counted (s : Server) (r : Request) : Server :=
  { s with limiter := (s.limiter.allow r.caller r.time).2 }

theorem respond_get (h : r.gets? = some id) : s.respond w r = (s.readDiagram id, s) := by
  obtain ⟨hroute, hmethod⟩ := Request.gets?_eq_some h
  rw [respond, hroute, hmethod]
  rfl

theorem respond_put (h : r.puts? = some id) : s.respond w r =
    if s.admits r then (s.counted r).onBody (Update.read r.body)
      ((s.counted r).writeDiagram r.caller id)
    else (.tooMany, s.counted r) := by
  obtain ⟨hroute, hmethod⟩ := Request.puts?_eq_some.mp h
  rw [respond, hroute, hmethod]
  rfl

theorem onBody_keeps {α β : Type} {part : Server → β} {body : Reading α}
    {act : α → Answer × Server} (h : ∀ a, part (act a).2 = part s) :
    part (s.onBody body act).2 = part s := by
  unfold onBody
  split
  · exact h _
  · rfl
  · rfl

theorem shelf_turn {α : Type} {caller endpoint : String} {b : PromptBody α} {spec : Option Spec}
    {t : Turn} {s' : Server} (h : s.turn w caller endpoint b spec = .ok (t, s')) :
    s'.shelf = s.shelf := by
  unfold turn at h
  obtain ⟨t', -, h⟩ := bind_eq_ok.mp h
  obtain ⟨-, rfl⟩ := Prod.mk.inj (Except.ok.inj h)
  rfl

theorem shelf_parse (caller : String) (b : PromptBody (Option Spec)) :
    (s.parse w caller b).2.shelf = s.shelf := by
  unfold parse
  split
  · next h => exact shelf_turn h
  · rfl

theorem shelf_modify (caller : String) (b : PromptBody Spec) :
    (s.modify w caller b).2.shelf = s.shelf := by
  unfold modify
  split
  · next h => split <;> exact shelf_turn h
  · rfl

theorem limiter_respond_put (h : r.puts? = some id) :
    (s.respond w r).2.limiter = (s.counted r).limiter := by
  rw [respond_put h]
  split_ifs
  · refine onBody_keeps fun u => ?_
    unfold writeDiagram
    split_ifs <;> rfl
  · rfl

theorem shelf_act {caller : String} {body : Option Json} {route : Route}
    (h : ∀ id, route ≠ .diagram id) : (s.act w caller body route).2.shelf = s.shelf := by
  cases route with
  | parse => exact onBody_keeps (shelf_parse caller)
  | modify => exact onBody_keeps (shelf_modify caller)
  | risk => exact onBody_keeps fun _ => rfl
  | enrich => exact onBody_keeps fun _ => rfl
  | diagram id => exact absurd rfl (h id)
  | health | stats | templates => rfl

/-- **Only a request to store a diagram changes the shelf.** -/
theorem shelf_respond_of_not_put (h : r.puts? = none) : (s.respond w r).2.shelf = s.shelf := by
  unfold respond
  split
  · rfl
  · rfl
  · next route method hroute hmethod =>
    split_ifs with hmethods hget
    · rfl
    · rfl
    · have hdiagram : ∀ id, route ≠ .diagram id := by
        rintro id rfl
        cases method with
        | get => exact hget rfl
        | post => exact hmethods rfl
        | put => simp [Request.puts?_eq_some.mpr ⟨hroute, hmethod⟩] at h
      dsimp only
      split_ifs
      · exact shelf_act hdiagram
      · rfl

theorem writeDiagram_eq (s : Server) (caller id : String) (u : Update) :
    s.writeDiagram caller id u =
      if s.shelf.mayStore caller id then
        (.done (s.shelf.save caller id u).1.toJson,
          { s with shelf := s.shelf.write ⟨caller, id, u⟩ })
      else (.notOwner, s) := rfl

theorem respond_put_of_read (h : r.puts? = some id) (hadmits : s.admits r = true)
    (hread : Update.read r.body = .ok u) : s.respond w r =
      if s.shelf.mayStore r.caller id then
        (.done (s.shelf.save r.caller id u).1.toJson,
          { s.counted r with shelf := s.shelf.write ⟨r.caller, id, u⟩ })
      else (.notOwner, s.counted r) := by
  rw [respond_put h, if_pos hadmits, hread]
  exact writeDiagram_eq (s.counted r) r.caller id u

theorem respond_put_of_issues {issues : List Issue} (h : r.puts? = some id)
    (hadmits : s.admits r = true) (hread : Update.read r.body = .error (.issues issues)) :
    s.respond w r = (.invalid issues, s.counted r) := by
  rw [respond_put h, if_pos hadmits, hread]
  rfl

/-! ## Accepted requests -/

/-- What a request stores: it is to store a diagram, has a valid body and is answered with a
document. -/
def write? (w : World) (s : Server) (r : Request) : Option Write :=
  match r.puts?, Update.read r.body, (s.respond w r).1 with
  | some id, .ok u, .done _ => some ⟨r.caller, id, u⟩
  | _, _, _ => none

theorem write?_of_not_put (h : r.puts? = none) : s.write? w r = none := by
  rw [write?, h]

theorem write?_of_put (h : r.puts? = some id) : s.write? w r =
    match Update.read r.body with
    | .ok u => if s.admits r && s.shelf.mayStore r.caller id then some ⟨r.caller, id, u⟩ else none
    | .error _ => none := by
  rw [write?, h]
  cases hread : Update.read r.body with
  | error => rfl
  | ok u =>
    dsimp only
    cases hadmits : s.admits r with
    | false => rw [respond_put h, hadmits]; rfl
    | true =>
      rw [respond_put_of_read h hadmits hread]
      cases s.shelf.mayStore r.caller id <;> rfl

/-- **What one request leaves on the shelf.** -/
theorem shelf_respond (w : World) (s : Server) (r : Request) :
    (s.respond w r).2.shelf = (s.write? w r).toList.foldl Shelf.write s.shelf := by
  cases hput : r.puts? with
  | none =>
    rw [write?_of_not_put hput]
    exact shelf_respond_of_not_put hput
  | some id =>
    rw [write?_of_put hput]
    cases hadmits : s.admits r with
    | false =>
      rw [respond_put hput, hadmits]
      cases Update.read r.body <;> rfl
    | true =>
      cases hread : Update.read r.body with
      | error e =>
        rw [respond_put hput, if_pos hadmits, hread]
        cases e <;> rfl
      | ok u =>
        rw [respond_put_of_read hput hadmits hread]
        cases s.shelf.mayStore r.caller id <;> rfl

/-! ## Runs -/

/-- The server behind some requests. -/
def behind (w : World) (s : Server) (rs : List Request) : Server := (respondAll w s rs).2

/-- What some requests store, one after the other. -/
def writes (w : World) : Server → List Request → List Write
  | _, [] => []
  | s, r :: rest => (s.write? w r).toList ++ writes w (s.respond w r).2 rest

theorem behind_cons (rs : List Request) :
    s.behind w (r :: rs) = (s.respond w r).2.behind w rs := rfl

/-- **The shelf behind some requests** is what they have stored on it. -/
theorem shelf_behind (w : World) (s : Server) (rs : List Request) :
    (s.behind w rs).shelf = (s.writes w rs).foldl Shelf.write s.shelf := by
  induction rs generalizing s with
  | nil => rfl
  | cons r rs ih => rw [behind_cons, ih, writes, List.foldl_append, shelf_respond]

/-- **The shelf tells of what was stored.** -/
theorem tells_behind (w : World) (limit : Quantity) (rs : List Request) :
    Tells ((withLimit limit).writes w rs) ((withLimit limit).behind w rs).shelf := by
  rw [shelf_behind]
  exact tells_nil.foldl _

end Server

/-! ## What is told of diagrams -/

/-- A caller may store under an id: nobody has before, or it was the caller who did first. -/
def MayWrite (ws : List Write) (caller id : String) : Prop :=
  ∀ x, (under id ws).head? = some x → x.caller = caller

/-- **What a server tells of diagrams** behind some writes, and what a further request does. -/
structure Told (w : World) (ws : List Write) (s : Server) : Prop where
  shelf : Tells ws s.shelf
  /-- Whatever is asked, a diagram stays and belongs to whom it belonged. -/
  owner : ∀ (rs : List Request) (id : String) (d : StoredDiagram), s.shelf.get? id = some d →
    ∃ d', (s.behind w rs).shelf.get? id = some d' ∧ d'.owner = d.owner
  /-- What is not accepted leaves the shelf as it is. -/
  refused : ∀ r : Request, s.write? w r = none → (s.respond w r).2.shelf = s.shelf
  /-- To ask for a diagram leaves all as it is. -/
  get : ∀ (r : Request) (id : String), r.gets? = some id → (s.respond w r).2 = s
  get_absent : ∀ (r : Request) (id : String), r.gets? = some id → under id ws = [] →
    r.response (s.respond w r).1 = ⟨404, Answer.detail ("Diagram '" ++ id ++ "' not found")⟩
  get_recorded : ∀ (r : Request) (id : String), r.gets? = some id → under id ws ≠ [] →
    ∃ d, d.id = id ∧ Recorded (under id ws) d ∧ r.response (s.respond w r).1 = sent d.toJson
  /-- A caller who may not store a diagram is told so. -/
  put_other : ∀ (r : Request) (id : String) (u : Update), r.puts? = some id →
    s.admits r = true → Update.read r.body = .ok u → ¬ MayWrite ws r.caller id →
      r.response (s.respond w r).1 = ⟨403, Answer.detail "Not the owner of this diagram"⟩ ∧
        (s.respond w r).2.shelf = s.shelf
  /-- The issues of a body are told, if what they quote can be sent: so it is where all numbers in
  the body are finite. -/
  put_invalid : ∀ (r : Request) (id : String) (issues : List Issue), r.puts? = some id →
    s.admits r = true → Update.read r.body = .error (.issues issues) →
      (s.respond w r).1 = .invalid issues ∧
        (r.response (s.respond w r).1).status =
          (if r.sendable (.invalid issues) then 422 else 500) ∧
        ((r.body.getD .null).isFinite = true → r.sendable (.invalid issues) = true) ∧
        (s.respond w r).2.shelf = s.shelf
  /-- A caller who may store a diagram is sent what is kept of it. -/
  put : ∀ (r : Request) (id : String) (u : Update), r.puts? = some id →
    s.admits r = true → Update.read r.body = .ok u → MayWrite ws r.caller id →
      s.write? w r = some ⟨r.caller, id, u⟩ ∧
        (s.respond w r).2.shelf = s.shelf.write ⟨r.caller, id, u⟩ ∧
        ∃ d, d.id = id ∧ Recorded (under id ws ++ [⟨r.caller, id, u⟩]) d ∧
          r.response (s.respond w r).1 = sent d.toJson

variable {ws : List Write}

theorem Tells.mayStore_iff (h : Tells ws s.shelf) {caller : String} :
    s.shelf.mayStore caller id = true ↔ MayWrite ws caller id := by
  rw [Shelf.mayStore, MayWrite]
  cases hd : s.shelf.get? id with
  | none => simp [(h.absent id).mp hd]
  | some d =>
    have howner := (h.recorded id d hd).2.owner
    obtain ⟨x, hx, hxd⟩ := Option.map_eq_some_iff.mp howner
    simp [hx, ← hxd]

/-- The first writer stays the first one. -/
theorem Tells.owner_behind (h : Tells ws s.shelf) (w : World) (rs : List Request)
    {d : StoredDiagram} (hd : s.shelf.get? id = some d) :
    ∃ d', (s.behind w rs).shelf.get? id = some d' ∧ d'.owner = d.owner := by
  have hmore := h.foldl (s.writes w rs)
  rw [← Server.shelf_behind] at hmore
  have howner := (h.recorded id d hd).2.owner
  obtain ⟨x, hx, hxd⟩ := Option.map_eq_some_iff.mp howner
  have hhead : (under id (ws ++ s.writes w rs)).head? = some x := by
    rw [under, List.filter_append, List.head?_append, ← under, hx]
    rfl
  cases hd' : (s.behind w rs).shelf.get? id with
  | none => simp [(hmore.absent id).mp hd'] at hhead
  | some d' =>
    have howner' := (hmore.recorded id d' hd').2.owner
    rw [hhead, Option.map_some, hxd] at howner'
    exact ⟨d', rfl, (Option.some.inj howner').symm⟩

/-- **A shelf that tells of the writes makes the server tell of them.** -/
theorem Tells.told (h : Tells ws s.shelf) (w : World) : Told w ws s where
  shelf := h
  owner rs id d hd := h.owner_behind w rs hd
  refused r hnone := by
    rw [Server.shelf_respond, hnone]
    rfl
  get r id hget := by rw [Server.respond_get hget]
  get_absent r id hget hempty := by
    have hmethod := (Request.gets?_eq_some hget).2
    rw [Server.respond_get hget, Server.readDiagram, (h.absent id).mpr hempty,
      Request.response_eq hmethod]
    rfl
  get_recorded r id hget hwritten := by
    cases hd : s.shelf.get? id with
    | none => exact absurd ((h.absent id).mp hd) hwritten
    | some d =>
      obtain ⟨hid, hrecorded⟩ := h.recorded id d hd
      refine ⟨d, hid, hrecorded, ?_⟩
      rw [Server.respond_get hget, Server.readDiagram, hd]
      exact Request.response_done (Request.gets?_eq_some hget).2 _
  put_other r id u hput hadmits hread hmay := by
    have hmethod := (Request.puts?_eq_some.mp hput).2
    rw [Server.respond_put_of_read hput hadmits hread, if_neg (mt h.mayStore_iff.mp hmay),
      Request.response_eq hmethod]
    exact ⟨rfl, rfl⟩
  put_invalid r id issues hput hadmits hread := by
    have hmethod := (Request.puts?_eq_some.mp hput).2
    rw [Server.respond_put_of_issues hput hadmits hread, Request.response_eq hmethod]
    refine ⟨rfl, ?_, fun hfinite => r.sendable_invalid hfinite issues, rfl⟩
    split_ifs <;> rfl
  put r id u hput hadmits hread hmay := by
    have hmethod := (Request.puts?_eq_some.mp hput).2
    have hstore := h.mayStore_iff.mpr hmay
    have hget := Shelf.get?_write_self s.shelf ⟨r.caller, id, u⟩
    dsimp only at hget
    obtain ⟨hid, hrecorded⟩ := (h.write ⟨r.caller, id, u⟩).recorded id _ hget
    rw [Server.write?_of_put hput, hread, Server.respond_put_of_read hput hadmits hread,
      if_pos hstore, hadmits, hstore]
    refine ⟨rfl, rfl, (s.shelf.save r.caller id u).1, hid, ?_, ?_⟩
    · rwa [← under_concat_self ws ⟨r.caller, id, u⟩]
    · exact Request.response_done hmethod _

/-- **Diagrams behind any requests.** -/
theorem told_behind (w : World) (limit : Quantity) (rs : List Request) :
    Told w ((Server.withLimit limit).writes w rs) ((Server.withLimit limit).behind w rs) :=
  (Server.tells_behind w limit rs).told w

/-! ## Values that are not as given -/

/-- What is kept about the nodes is as it was given last. -/
def AsGiven (ws : List Write) (s : Server) : Prop := ∀ id d v, s.shelf.get? id = some d →
  latest? ((under id ws).map (·.update.nodes)) = some v → d.nodes = v

/-- What an editor keeps about a firewall. -/
def firewallLayout (selected : Json) : Json :=
  .arr [.obj [("id", .str "fw-1"), ("position", .obj [("x", .int 0), ("y", .int 0)]),
    ("selected", selected)]]

/-- A request to store a firewall. -/
def storeFirewall (selected : Json) : Request where
  method := "PUT"
  path := "/api/diagrams/d1"
  headers := [("X-User-Id", "alice")]
  body := some (.obj [
    ("spec", .obj [("nodes", .arr [.obj [("id", .str "fw-1"), ("type", .str "firewall"),
      ("label", .str "Firewall")]]), ("connections", .arr [])]),
    ("nodesJson", firewallLayout selected)])

/-- What the request stores. -/
def storedFirewall (selected : Json) : Write where
  caller := "alice"
  id := "d1"
  update := { spec := ⟨[⟨"fw-1", .firewall, "Firewall", none, none, none⟩], [], none⟩
              nodes := firewallLayout selected }

theorem puts?_storeFirewall (selected : Json) : (storeFirewall selected).puts? = some "d1" := by
  change (storeFirewall .null).puts? = some "d1"
  decide +kernel

theorem write?_storeFirewall {selected : Json}
    (hadmits : s.admits (storeFirewall selected) = true)
    (hstore : s.shelf.mayStore "alice" "d1" = true) :
    s.write? w (storeFirewall selected) = some (storedFirewall selected) := by
  have hcaller : (storeFirewall selected).caller = "alice" := by
    change (storeFirewall .null).caller = "alice"
    decide +kernel
  have hread : Update.read (storeFirewall selected).body = .ok (storedFirewall selected).update :=
    rfl
  rw [Server.write?_of_put (puts?_storeFirewall selected), hread, hcaller, hadmits, hstore]
  rfl

/-- A world in which nobody answers. -/
def silentWorld : World := ⟨.bundled, {}, fun _ => .timedOut⟩

theorem writes_storeFirewall (w : World) (v v' : Json) :
    (Server.withLimit (.whole 1000)).writes w [storeFirewall v, storeFirewall v'] =
      [storedFirewall v, storedFirewall v'] := by
  have hfirst : (Server.withLimit (.whole 1000)).write? w (storeFirewall v) =
      some (storedFirewall v) := by
    refine write?_storeFirewall ?_ rfl
    change (Server.withLimit (.whole 1000)).admits (storeFirewall .null) = true
    decide +kernel
  have hsecond : ((Server.withLimit (.whole 1000)).respond w (storeFirewall v)).2.write? w
      (storeFirewall v') = some (storedFirewall v') := by
    refine write?_storeFirewall ?_ ?_
    · rw [Server.admits, Server.limiter_respond_put (puts?_storeFirewall v)]
      change (((Server.withLimit (.whole 1000)).counted (storeFirewall .null)).admits
        (storeFirewall .null)) = true
      decide +kernel
    · rw [Server.shelf_respond, hfirst]
      rfl
  rw [Server.writes, Server.writes, hfirst, hsecond]
  rfl

/-- **A truth value that is the same as the number before it is not kept.** -/
theorem not_asGiven_selected :
    ¬ AsGiven
      ((Server.withLimit (.whole 1000)).writes silentWorld
        [storeFirewall (.int 1), storeFirewall (.bool true)])
      ((Server.withLimit (.whole 1000)).behind silentWorld
        [storeFirewall (.int 1), storeFirewall (.bool true)]) := by
  intro h
  have hwrites := writes_storeFirewall silentWorld (.int 1) (.bool true)
  have hshelf := Server.shelf_behind silentWorld (.withLimit (.whole 1000))
    [storeFirewall (.int 1), storeFirewall (.bool true)]
  rw [hwrites] at h hshelf
  have hkept := h "d1" ((storedFirewall (.int 1)).first.update (storedFirewall (.bool true)).update)
    (firewallLayout (.bool true)) (by rw [hshelf]; rfl) rfl
  change firewallLayout (.int 1) = firewallLayout (.bool true) at hkept
  simp [firewallLayout] at hkept

end NetSketch.Service

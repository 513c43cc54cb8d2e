import RpcProxy.Proofs.Server.Traffic

/-!
# Whether the end of a connection reaches the router that waits

A router whose session has nothing left to do may hold a connection and wait for the rest of a
response. Whether it waits for something that can still come depends on one thing only: on whether
the connection was still open while it was on its way to the router. If it was, the pool has it open
now, and whenever it ends the router is told. If it was not, nothing that happens to the connection
is told to anybody, and the router waits until its client goes away.

A connection is on its way from the moment when the pool tells the router of it until the session of
the router is woken. In between nobody is its owner. When it ends then, the pool looks for its
owner, finds none and tells nobody; the router that attaches itself to it later is not told either
that it comes too late, since a connection is only looked at when something happens to it.

`after_isOpen_iff` says this as an equivalence, for any traffic. It takes the invariant of all
sessions (`Traffic.Ownership`) with the losses of the whole past, so both directions are short: what
was not lost is open, and what was lost is closed and stays so.
-/

set_option autoImplicit false

namespace RpcProxy.Traffic

/-- What happens, one thing after another, each with the files that cannot be opened then. -/
abbrev Course := List (FileFaults × Happening)

/-- A server after what happened. -/
def after (t : Traffic) (hs : Course) : Traffic := hs.foldl (fun t h => (t.step h.1 h.2).2) t

/-- At some moment a connection was on its way to a router and was not open. The moment is a point
between two things that happen, so a connection that ends before its router takes it is lost, and
one that ends afterwards is not. -/
def Lost (t : Traffic) (hs : Course) (ref : RouterRef) (link : LinkId) : Prop :=
  ∃ done rest, hs = done ++ rest ∧ (t.after done).IsOnWay ref link ∧
    (t.after done).pools.isOpen link = false

variable {t : Traffic} {hs : Course} {ref : RouterRef} {link : LinkId}

theorem after_append (t : Traffic) (hs more : Course) :
    t.after (hs ++ more) = (t.after hs).after more := by
  unfold after
  rw [List.foldl_append]

theorem Lost.append (h : Lost t hs ref link) (more : Course) : Lost t (hs ++ more) ref link := by
  obtain ⟨done, rest, rfl, hbrings, hclosed⟩ := h
  exact ⟨done, rest ++ more, List.append_assoc .., hbrings, hclosed⟩

theorem Ownership.after_step (h : (t.after hs).Ownership (Lost t hs)) (x : FileFaults × Happening)
    (hx : x.2.endsWell = true) :
    (t.after (hs ++ [x])).Ownership (Lost t (hs ++ [x])) ∧
      (t.after hs).pools.NoneRevived (t.after (hs ++ [x])).pools := by
  have hway : ∀ ref l, (t.after (hs ++ [x])).IsOnWay ref l →
      (t.after (hs ++ [x])).pools.isOpen l = true ∨ Lost t (hs ++ [x]) ref l := by
    intro ref l hbrings
    cases hopen : (t.after (hs ++ [x])).pools.isOpen l with
    | true => exact Or.inl rfl
    | false => exact Or.inr ⟨hs ++ [x], [], (List.append_nil _).symm, hbrings, hopen⟩
  rw [after_append] at hway ⊢
  exact h.step x.1 x.2 hx (fun _ _ hl => hl.append [x]) hway

/-- Everything that happens leaves connections to their owners. -/
theorem Ownership.after_run (h : (t.after hs).Ownership (Lost t hs)) (more : Course)
    (hmore : ∀ x ∈ more, x.2.endsWell = true) :
    (t.after (hs ++ more)).Ownership (Lost t (hs ++ more)) ∧
      (t.after hs).pools.NoneRevived (t.after (hs ++ more)).pools := by
  induction more generalizing hs with
  | nil =>
    rw [List.append_nil]
    exact ⟨h, TcpPools.NoneRevived.refl _⟩
  | cons x more ih =>
    obtain ⟨h₁, hages₁⟩ := h.after_step x (hmore x List.mem_cons_self)
    obtain ⟨h₂, hages₂⟩ := ih h₁ fun y hy => hmore y (List.mem_cons_of_mem x hy)
    rw [List.append_cons]
    exact ⟨h₂, hages₁.trans hages₂⟩

/-- A server that nobody has turned to yet. -/
theorem Ownership.start (hclients : t.clients = []) (hpools : t.pools = {}) :
    (t.after []).Ownership (Lost t []) := by
  have hway : t.onWay = fun _ => 0 := by
    funext l
    unfold onWay
    rw [hclients]
    rfl
  refine ⟨?_, fun i c hc _ => ?_⟩
  · show Session.Settled t.onWay t.pools
    rw [hway, hpools]
    exact ⟨fun _ => Nat.zero_le 1, fun l hpos => absurd hpos (Nat.lt_irrefl 0)⟩
  · have hc' : t.clients[i]? = some c := hc
    rw [hclients] at hc'
    cases hc'

/-- A connection that was lost on its way stays closed. -/
theorem Ownership.closed_of_lost (hclients : t.clients = []) (hpools : t.pools = {})
    (hends : ∀ x ∈ hs, x.2.endsWell = true) (hlost : Lost t hs ref link) :
    (t.after hs).pools.isOpen link = false := by
  obtain ⟨done, rest, rfl, ⟨c, hmem, hover, host, hd⟩, hclosed⟩ := hlost
  have hstart := Ownership.start hclients hpools
  obtain ⟨h, -⟩ := hstart.after_run done fun x hx => hends x (List.mem_append_left rest hx)
  rw [List.nil_append] at h
  obtain ⟨-, hages⟩ := h.after_run rest fun x hx => hends x (List.mem_append_right done hx)
  -- The pools know a connection that is on its way, and what is known and closed is never reopened.
  have hpos : 0 < (t.after done).onWay link := by
    obtain ⟨i, hc⟩ := List.mem_iff_getElem?.mp hmem
    refine Nat.lt_of_lt_of_le ?_ (onWay_le hc hover link)
    exact List.countP_pos_iff.mpr ⟨_, hd, beq_self_eq_true link⟩
  have howner := h.settled.unowned link (by omega)
  cases hopen : (t.after (done ++ rest)).pools.isOpen link with
  | false => rfl
  | true =>
    have hthen := hages.closed link (by rw [howner]; rfl) hopen
    rw [hclosed] at hthen
    cases hthen

/-- What a session that has nothing left to do can say of a connection that one of its routers waits
for: it is open or was lost, the router is its owner, and the router is there to be told. -/
theorem Ownership.open_or_lost {lost : RouterRef → LinkId → Prop} {i : Nat} {s : Session TcpPools}
    (h : t.Ownership lost) (hs : t.session? i = some s) (hidle : s.queue.posted = [])
    (hawaits : s.awaits ref link = true) :
    (t.pools.isOpen link = true ∨ lost ref link) ∧ t.pools.owner? link = some (some ref) ∧
      t.alive ref = true := by
  obtain ⟨c, hc, hover, hshows, -⟩ := client_of_session? hs
  have hk := (h.clients i c hc hover).shown hshows
  have hpools : s.side.pools = t.pools := by
    rw [hshows.side]
    rfl
  have hquiet : s.hears ref = false := by
    unfold Session.hears Session.deliveries
    rw [hidle]
    rfl
  refine ⟨?_, h.holder hc hover ?_⟩
  · rcases hk.live ref link hawaits with hopen | hears | hlost
    · exact Or.inl (hpools ▸ hopen)
    · rw [hquiet] at hears
      cases hears
    · exact Or.inr hlost
  · rw [← Session.link?_of_awaits hawaits]
    exact Session.link?_congr (Session.router?_congr hshows.streams.symm hshows.number.symm ref)

/-- Which ends of connections reach the router that waits. Anything has happened to a server since
it was set up, connections to hosts ending by a close only. Take a session in which no task is left
to do, and a router of it that holds a connection whose response is not complete. Then the pool has
the connection open unless it was closed while it was on its way to the router. And the router is
told of the end of the connection, whenever that comes, if the connection is open; else nobody is
told of anything. -/
theorem after_isOpen_iff (t : Traffic) (hclients : t.clients = [])
    (hpools : t.server.side.pools = {}) (hs : Course) (hends : ∀ x ∈ hs, x.2.endsWell = true)
    (i : Nat) (s : Session TcpPools) (hsession : (t.after hs).session? i = some s)
    (hidle : s.queue.posted = []) (ref : RouterRef) (link : LinkId)
    (hawaits : s.awaits ref link = true) :
    let now := t.after hs
    (now.pools.isOpen link = true ↔ ¬ Lost t hs ref link) ∧
      (∀ event, (now.pools.onClosed now.alive link event).told =
        if now.pools.isOpen link then some (ref, .event event) else none) ∧
      ∀ octets, (now.pools.onData now.alive link octets).told =
        if now.pools.isOpen link then some (ref, .data octets) else none := by
  intro now
  obtain ⟨h, -⟩ := (Ownership.start hclients hpools).after_run hs hends
  rw [List.nil_append] at h
  obtain ⟨hopen, howner, halive⟩ := h.open_or_lost hsession hidle hawaits
  -- The connection belongs to the call that waits for it: whoever the pools would tell is this one.
  have hsame : ∀ r, now.pools.owner? link = some (some r) → ref = r := fun r hr =>
    Option.some.inj (Option.some.inj (howner.symm.trans hr))
  refine ⟨⟨fun ho hlost => ?_, fun hnot => hopen.resolve_right hnot⟩, fun event => ?_,
    fun octets => ?_⟩
  · have hclosed := Ownership.closed_of_lost hclients hpools hends hlost
    rw [ho] at hclosed
    cases hclosed
  · obtain ⟨hclosed, ho⟩ | ⟨ho, p', -, ⟨r, howner', -, htold⟩ | ⟨hnobody, -⟩⟩ :=
      TcpPools.onClosed_cases now.alive link event now.pools
    · rw [ho, hclosed]
      rfl
    · obtain rfl := hsame r howner'
      rw [htold, ho]
      rfl
    · rw [hnobody ref howner] at halive
      cases halive
  · obtain ⟨hclosed, ho⟩ | ⟨ho, r, howner', -, htold⟩ | ⟨-, hnobody, -⟩ :=
      TcpPools.onData_cases now.alive link octets now.pools
    · rw [ho, hclosed]
      rfl
    · obtain rfl := hsame r howner'
      rw [htold, ho]
      rfl
    · rw [hnobody ref howner] at halive
      cases halive

/-- A server with one listener, all of whose requests go to one host. -/
def toOneHost : Traffic :=
  let plan : Plan :=
    { label := "edge", routes := ⟨[({}, { name := "all", cluster := some "c" })]⟩,
      parts := [⟨.decoder, .router 0⟩] }
  let cluster : Cluster :=
    { config := { name := "c", hosts := ["h:1"] }, hosts := [{ address := "h:1", cluster := "c" }] }
  { server :=
      { listeners := [{ name := "edge", address := "x", plan, stats := .start "edge" 0 }]
        flags := {}
        side := { generations := [{ list := [cluster] }], pools := {} } } }

/-- A request comes and waits for a connection, which comes up. `between` happens before the session
of the client is woken. -/
def requestSent (between : List Happening) : Course :=
  let request : List Happening :=
    [.accepted 0, .woken 0 (.octets (Bytes.ofText "u g\n")) true, .connected 0 .connected]
  let all := request ++ between ++ [Happening.woken 0 .work true]
  all.map fun e => (fun _ => none, e)

/-- If nothing happens before the session is woken, the connection is open. If the host closes it,
the connection is lost, and the router waits for a response on it all the same. -/
theorem after_isOpen_iff_one_request :
    let ref : RouterRef := { stream := 0 }
    let lost := requestSent [.hostClosed 0 .remoteClose]
    ¬ Lost toOneHost (requestSent []) ref 0 ∧
      ∃ s, (toOneHost.after lost).session? 0 = some s ∧ s.queue.isIdle = true ∧
        s.awaits ref 0 = true ∧ Lost toOneHost lost ref 0 := by
  intro ref lost
  constructor
  · obtain ⟨s, hs⟩ : ∃ s, (toOneHost.after (requestSent [])).session? 0 = some s :=
      Option.isSome_iff_exists.mp (by decide +kernel)
    have hall : ((toOneHost.after (requestSent [])).session? 0).all
        (fun s => s.queue.posted.isEmpty && s.awaits ref 0) = true := by decide +kernel
    rw [hs, Option.all_some, Bool.and_eq_true, List.isEmpty_iff] at hall
    refine (after_isOpen_iff toOneHost rfl rfl (requestSent []) (by decide) 0 s hs hall.1 ref 0
      hall.2).1.mp ?_
    decide +kernel
  · obtain ⟨s, hs⟩ : ∃ s, (toOneHost.after lost).session? 0 = some s :=
      Option.isSome_iff_exists.mp (by decide +kernel)
    have hall : ((toOneHost.after lost).session? 0).all
        (fun s => s.queue.isIdle && (s.queue.posted.isEmpty && s.awaits ref 0)) = true := by
      decide +kernel
    rw [hs, Option.all_some, Bool.and_eq_true, Bool.and_eq_true, List.isEmpty_iff] at hall
    obtain ⟨hidle, hposted, hawaits⟩ := hall
    refine ⟨s, hs, hidle, hawaits, Classical.byContradiction fun hnot => ?_⟩
    have hopen := (after_isOpen_iff toOneHost rfl rfl lost (by decide) 0 s hs hposted ref 0
      hawaits).1.mpr hnot
    have hclosed : (toOneHost.after lost).pools.isOpen 0 = false := by decide +kernel
    rw [hopen] at hclosed
    cases hclosed

end RpcProxy.Traffic

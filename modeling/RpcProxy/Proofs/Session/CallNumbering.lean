import RpcProxy.Proofs.Session.CallAccounts
import RpcProxy.Proofs.Wire.ReadBack

/-!
# Calls are numbered

What hosts are sent (`Crowd.calls_numbered`). A request is written once at most, as one line in one
frame, and the line carries the number of calls that were written on its connection before it. All
of that is read from the accounts: the place of a call in its account is its number.

The rest is a matter of order. A router that is told of its connection leaves its call to be written
later, and octets of a host could come in between; the router would take them for an answer to a
call that it has not written. They come from sockets, though, and a run goes on until nothing is
left to do, so whoever can be told of octets has written its call (`HoldersHaveWritten`). That holds
between incidents only. Within a run there are moments at which a router has its connection and has
not written yet, and no octets come then, but some may be on their way since before. So for those it
is enough that the call was written when they were sent: from then on it stands in the account of
the connection, for as long as the octets are on their way (`FedHaveWritten`).

Calls are never taken out of an account. So what is known at the moment at which octets are taken up
can be said of the accounts at the end, which is how the theorem puts it (`WrittenBeforeRead`).
-/

set_option autoImplicit false

namespace RpcProxy

/-- What is sent for a call is a frame around one line, which is read as the request with the number
in place of whatever number the client sent. -/
theorem Call.octets_reads {c : Call} {text : String} (h : Request.parse? text = some c.request)
    (k : Nat) :
    ∃ line : String,
      c.octets k = (if c.transport = .framed then Bytes.ofLength (Bytes.ofText (line ++ "\n")).length
        else []) ++ Bytes.ofText (line ++ "\n") ∧
      '\n' ∉ line.toList ∧
      Request.parse? line = some (c.request.set sequenceKey (toString ((k : Int).bmod (2 ^ 32)))) := by
  obtain ⟨line, htext, hnewline, hreads⟩ :=
    RequestLine.text_reads (Request.writable_of_parse? h) (Int32.ofNat k)
  refine ⟨line, ?_, hnewline, ?_⟩
  · unfold Call.octets RequestLine.encode Config.Transport.frame
    rw [htext]
    cases c.transport with
    | framed => rfl
    | unframed => rfl
  · rw [hreads, Int32.toInt_ofNat']
    rfl

namespace Crowd

/-- Whether routers have nothing left to do behind a run, unless a promise is broken. A session
whose promise is broken does nothing any more, so nobody takes up octets there. -/
def rests (c : Crowd TcpPools) : Incident → Bool
  | .happened i .run =>
    (c.session? i).all fun s => (s.step .run).panic.isSome || (s.step .run).queue.posted.isEmpty
  | _ => true

/-- A router that takes up octets of a host has written its call on the connection that they come
from, before it takes them up. -/
def WrittenBeforeRead (calls : LinkId → List Call) (x : WorkStep (Crowd TcpPools)) : Prop :=
  ∀ ref octets r e l, x.task = some (.router ref (.deliver (.data octets))) →
    x.before.router? ref = some r → r.exchange = some e → e.link = some l →
    ∃ (k : Nat) (call : Call), (calls l)[k]? = some call ∧ call.router = ref ∧
      call.transport = e.transport ∧
      r.line = some (.ofRequest call.request) ∧
      (x.before.side.pools.sends l)[k]? = some (call.octets k)

/-- A router with an open connection that has not written its call yet has the connection to itself,
and its line is numbered by the calls that were written. -/
def UnsentNumbered (c : Crowd TcpPools) : Prop :=
  ∀ ref r e l, c.router? ref = some r → r.exchange = some e → e.link = some l →
    e.requestComplete = false → c.side.pools.isOpen l = true →
    c.side.pools.owner? l = some (some ref) ∧
      r.pendingWrite = (r.line.map (·.encode (some (Int32.ofNat (c.side.pools.sends l).length)))).getD []

/-- Whoever holds a connection has written its call, if its session goes on. This is what holds
between incidents. -/
def HoldersHaveWritten (c : Crowd TcpPools) : Prop :=
  ∀ ref r e, c.isBroken ref.session = false → c.router? ref = some r → r.exchange = some e →
    e.link.isSome → e.requestComplete = true

/-- Whoever octets of a host are on their way to has written its call, if its session goes on. This
is what holds behind every step of work. -/
def FedHaveWritten (A : LinkId → Account) (c : Crowd TcpPools) : Prop :=
  ∀ ref l, c.isBroken ref.session = false → c.scene.Fed ref l → ∃ call ∈ (A l).calls, call.router = ref

/-- What holds of a crowd at every moment, if runs go on until nothing is left to do. What was found
of the steps of work in the past is said of the accounts as they are now; it stays true as these
grow. -/
structure AccountsServe (R : RouterRef → Request → Prop) (A : LinkId → Account)
    (past : List (WorkStep (Crowd TcpPools))) (c : Crowd TcpPools) : Prop
    extends AccountsHold R A past c where
  fedHaveWritten : FedHaveWritten A c
  writtenBeforeRead : ∀ x ∈ past, WrittenBeforeRead (fun l => (A l).calls) x

section

variable {R : RouterRef → Request → Prop} {A A' : LinkId → Account} {c : Crowd TcpPools}
  {past : List (WorkStep (Crowd TcpPools))} {x : WorkStep (Crowd TcpPools)} {told : List PoolNote}

theorem Progress.goesOn (h : Progress R told x) {i : Nat} (hi : x.after.isBroken i = false) :
    x.before.isBroken i = false := by
  refine Bool.eq_false_iff.mpr fun hbroken => ?_
  rw [h.broken i hbroken] at hi
  cases hi

/-! ## One step of work -/

theorem WrittenBeforeRead.mono {calls calls' : LinkId → List Call} (hcalls : ∀ l, calls l <+: calls' l)
    (h : WrittenBeforeRead calls x) : WrittenBeforeRead calls' x := by
  intro ref octets r e l htask hr he hl
  obtain ⟨k, call, hcall, hrest⟩ := h ref octets r e l htask hr he hl
  obtain ⟨more, hmore⟩ := hcalls l
  refine ⟨k, call, ?_, hrest⟩
  rw [← hmore, List.getElem?_append_left (List.getElem?_eq_some_iff.mp hcall).1, hcall]

/-- Octets are taken up by routers that they were on their way to. -/
theorem FedHaveWritten.writtenBeforeRead (h : FedHaveWritten A x.before) (ha : AccountsHold R A past x.before)
    (hp : Progress R told x) : WrittenBeforeRead (fun l => (A l).calls) x := by
  intro ref octets r e l htask hr he hl
  have hfed : x.before.scene.Fed ref l :=
    ⟨Scene.link?_eq_some_iff.mpr ⟨r, e, hr, he, hl⟩, octets, hp.advance.mem_toDo htask rfl⟩
  obtain ⟨call, hcall, hrouter⟩ := h ref l (hp.waking ref _ htask rfl) hfed
  obtain ⟨k, hk⟩ := List.mem_iff_getElem?.mp hcall
  obtain ⟨-, -, hspent⟩ := ha.fits.booked.spent l call hcall
  obtain ⟨e', he', -, hthen⟩ := hspent r (hrouter ▸ hr)
  obtain rfl := Option.some.inj (he'.symm.trans he)
  obtain ⟨-, htransport, hline⟩ := hthen (hl ▸ rfl)
  refine ⟨k, call, hk, hrouter, htransport.symm, hline, ?_⟩
  rw [show x.before.side.pools.sends l = (A l).sends from ha.fits.sends l, Account.sends,
    List.getElem?_mapIdx, hk]
  rfl

/-- Sockets tell those of octets who have written their calls, and nobody else comes to be told. -/
theorem FedHaveWritten.progress (h : FedHaveWritten A x.before) (ha : AccountsHold R A past x.before)
    (hp : Progress R told x) (hgrown : ∀ l, (A l).calls <+: (A' l).calls)
    (hfirst : x.before.HoldersHaveWritten ∨ Scene.FeedsNobody R x.before.scene x.after.scene) :
      FedHaveWritten A' x.after := by
  intro ref l hwell hfed
  have hbefore := hp.goesOn hwell
  have hwrote : ∃ call ∈ (A l).calls, call.router = ref := by
    rcases hfirst with hwf | hfeeds
    · rcases hp.advance.fed ha.fits hfed with hfed | ⟨hopen, howner⟩
      · exact h ref l hbefore hfed
      · obtain ⟨r, e, hr, he, hl⟩ := Scene.link?_eq_some_iff.mp (ha.fits.owned howner)
        obtain ⟨-, -, -, -, hlive⟩ := ha.fits.held hr he hl
        obtain ⟨-, hrouters⟩ := (hlive hopen).written (hwf ref r e hbefore hr he (hl ▸ rfl))
        have hmem : ref ∈ (A l).routers :=
          hrouters ▸ List.mem_append_right _ (List.mem_singleton_self ref)
        exact List.mem_map.mp hmem
    · exact h ref l hbefore (hfeeds A ha.fits ref l hfed)
  obtain ⟨call, hcall, hrouter⟩ := hwrote
  exact ⟨call, (hgrown l).subset hcall, hrouter⟩

/-- As long as routers take up nothing of their own, whoever gets a connection writes at once. -/
theorem HoldersHaveWritten.progress (h : x.before.HoldersHaveWritten) (hp : Progress R told x)
    (htask : x.task = none) :
    x.after.HoldersHaveWritten := by
  intro ref r e hwell hr he hl
  rcases (htask ▸ hp.advance).wrote_or hr he hl with hsame | hdone
  · exact h ref r e (hp.goesOn hwell) hsame he hl
  · exact hdone

theorem AccountsServe.progress (h : AccountsServe R A past x.before) (hp : Progress R told x)
    (hfirst : x.before.HoldersHaveWritten ∨ Scene.FeedsNobody R x.before.scene x.after.scene) :
    ∃ A', AccountsServe R A' (past ++ [x]) x.after := by
  obtain ⟨A', hafter, hgrown⟩ := h.toAccountsHold.progress hp
  refine ⟨A', hafter, h.fedHaveWritten.progress h.toAccountsHold hp hgrown hfirst, fun y hy => ?_⟩
  rcases List.mem_append.mp hy with hy | hy
  · exact (h.writtenBeforeRead y hy).mono hgrown
  · obtain rfl := List.mem_singleton.mp hy
    exact (h.fedHaveWritten.writtenBeforeRead h.toAccountsHold hp).mono hgrown

theorem AccountsHold.unsentNumbered (h : AccountsHold R A past c) : c.UnsentNumbered := by
  intro ref r e l hr he hl hunsent hopen
  obtain ⟨howner, -, -, -, hlive⟩ := h.fits.held hr he hl
  obtain ⟨-, -, hpending⟩ := (hlive hopen).unsent hunsent
  have hlength : (A l).calls.length = (c.side.pools.sends l).length := by
    rw [show c.side.pools.sends l = (A l).sends from h.fits.sends l, Account.sends, List.length_mapIdx]
  exact ⟨howner, hlength ▸ hpending⟩

/-! ## One incident -/

/-- Only runs take up tasks. -/
theorem workStepsIn_task {e : Incident} (he : ∀ i, e ≠ .happened i .run) :
    ∀ x ∈ c.workStepsIn e, x.task = none := by
  intro x hx
  cases e with
  | happened i op =>
    unfold workStepsIn at hx
    dsimp only at hx
    cases hs : c.session? i with
    | none =>
      rw [hs] at hx
      cases hx
    | some s =>
      rw [hs] at hx
      rcases List.mem_cons.mp hx with rfl | hx
      · rfl
      · obtain ⟨y, hy, rfl⟩ := List.mem_map.mp hx
        exact s.workSteps_task (fun hop => he i (hop ▸ rfl)) y hy
  | opened | renewed | connected | hostData | hostClosed => rw [List.mem_singleton.mp hx]

/-- Behind a run that went on until nothing was left to do, whoever holds a connection has written
its call: it would have to write it otherwise. -/
theorem HoldersHaveWritten.run {i : Nat} (h : c.HoldersHaveWritten)
    (ha : AccountsHold R A past (c.incur (.happened i .run)))
    (hrests : c.rests (.happened i .run) = true) : (c.incur (.happened i .run)).HoldersHaveWritten := by
  unfold rests at hrests
  unfold incur step at ha ⊢
  dsimp only at ha hrests ⊢
  cases hs : c.session? i with
  | none => exact h
  | some s =>
    rw [hs] at ha hrests
    obtain ⟨s₀, hs₀, -⟩ := Option.map_eq_some_iff.mp hs
    have hi := (List.getElem?_eq_some_iff.mp hs₀).1
    intro ref r e hwell hr he hl
    change (c.put i (s.step .run)).isBroken ref.session = false at hwell
    change (c.put i (s.step .run)).router? ref = some r at hr
    change AccountsHold R A past (c.put i (s.step .run)) at ha
    -- Within this session nothing is left to do, and a router that has not written would have to
    -- write.
    by_cases href : ref.session = i
    · refine Classical.byContradiction fun hunsent => ?_
      obtain ⟨rest, hrest⟩ := (ha.fits.tasks ref).unsent r e hr he hl (Bool.eq_false_iff.mpr hunsent)
      rw [put_isBroken hi, if_pos href] at hwell
      have hnone : (s.step .run).queue.posted = [] := by
        rw [Option.all_some, hwell, Bool.false_or] at hrests
        exact List.isEmpty_iff.mp hrests
      rw [show (c.put i (s.step .run)).scene.toDo ref = (s.step .run).toDo ref from
        (put_toDo hi ref).trans (if_pos href), Session.toDo, hnone] at hrest
      cases hrest
    · rw [put_isBroken hi, if_neg href] at hwell
      rw [put_router? hi, if_neg href] at hr
      exact h ref r e hwell hr he hl

theorem AccountsServe.incident {e : Incident} (h : AccountsServe R A past c) (hwf : c.HoldersHaveWritten)
    (he : c.allows e = true) (hrests : c.rests e = true)
    (hR : ∀ ref r, Routed (c.actsIn ref.session e) ref r → R ref r) :
    (∃ A', AccountsServe R A' (past ++ c.workStepsIn e) (c.incur e)) ∧ (c.incur e).HoldersHaveWritten := by
  have hsteps := h.joined.workSteps h.fits he hR
  obtain ⟨⟨⟨A', hend⟩, hthen⟩, -⟩ := (workStepsIn_path c e).keeps (Q := fun _ _ => True)
    (P := fun past c' => (∃ A, AccountsServe R A past c') ∧
      ((∀ x ∈ c.workStepsIn e, x.task = none) → c'.HoldersHaveWritten))
    ⟨⟨A, h⟩, fun _ => hwf⟩ fun past x hx ⟨⟨A₀, hbefore⟩, hkept⟩ => by
      obtain ⟨told, hp, hfirst⟩ := hsteps x hx hbefore.joined
      exact ⟨trivial, hbefore.progress hp (hfirst.imp_left fun (heq : x.before = c) => heq ▸ hwf),
        fun hnone => (hkept hnone).progress hp (hnone x hx)⟩
  refine ⟨⟨A', hend⟩, ?_⟩
  by_cases hrun : ∃ i, e = .happened i .run
  · obtain ⟨i, rfl⟩ := hrun
    exact hwf.run hend.toAccountsHold hrests
  · exact hthen (workStepsIn_task fun i heq => hrun ⟨i, heq⟩)

/-! ## All incidents -/

theorem AccountsServe.course (es : List Incident) (h : AccountsServe R A past c)
    (hwf : c.HoldersHaveWritten)
    (hes : c.always allows es = true) (hrests : c.always rests es = true)
    (hR : ∀ ref r, c.Came es ref r → R ref r) :
    ∃ A', AccountsServe R A' (past ++ c.course es) (c.undergo es) := by
  induction es generalizing c past A with
  | nil =>
    refine ⟨A, ?_⟩
    show AccountsServe R A (past ++ []) c
    rwa [List.append_nil]
  | cons e es ih =>
    obtain ⟨he, hes⟩ := (Bool.and_eq_true _ _).mp hes
    obtain ⟨hrest, hrests⟩ := (Bool.and_eq_true _ _).mp hrests
    obtain ⟨⟨A₁, hfirst⟩, hwf₁⟩ := h.incident hwf he hrest fun ref r hr =>
      hR ref r (hr.mono (List.subset_append_left _ _))
    obtain ⟨A₂, hend⟩ := ih hfirst hwf₁ hes hrests fun ref r hr =>
      hR ref r (hr.mono (List.subset_append_right _ _))
    refine ⟨A₂, ?_⟩
    show AccountsServe R A₂ (past ++ (c.workStepsIn e ++ (c.incur e).course es)) _
    rwa [← List.append_assoc]

theorem AccountsServe.start {side : HostSide TcpPools} (hpools : side.pools = {}) :
    AccountsServe R (fun _ => {}) [] { source := TcpPools.source, side } where
  toAccountsHold := .start hpools
  fedHaveWritten ref l _ hfed := by
    cases hfed.1
  writtenBeforeRead x hx := absurd hx List.not_mem_nil

end

/-- Calls reach hosts intact, once, and numbered per connection. Clients have connected, and things
have happened to their sessions and to sockets, in any order. Then `calls` lists the calls of every
connection, in the order in which they were written: what was sent on the connection is these calls,
one behind the other, and nothing else.

Every call is one router's, and no router has two, on whatever connections. Its request came to this
router. If the request can be read from a line, as every request of a client was, then what was sent
is one frame around one line, behind the length of the line or behind nothing as the transport has
it; and the line is read as the request with the property `seq` replaced by the number of the calls
before it on the connection, modulo `2 ^ 32` and with a sign. A router that has begun on an open
connection and is yet to write has the connection to itself, with the number of the calls so far in
its line; so the calls that began on a connection are those that were written on it, as long as
another can follow.

If every run goes on until routers have nothing left to do, a router that takes up octets of its
host has written its call before, on the connection that they come from. -/
theorem calls_numbered (side : HostSide TcpPools) (hpools : side.pools = {}) (c : Crowd TcpPools)
    (hc : c = { source := TcpPools.source, side }) (es : List Incident)
    (hes : c.always allows es = true) :
    ∃ calls : LinkId → List Call,
      (∀ l, (c.undergo es).side.pools.sends l = (calls l).mapIdx Call.octets) ∧
      (∀ (l k l' k' : Nat) (call call' : Call), (calls l)[k]? = some call →
        (calls l')[k']? = some call' → call.router = call'.router → l = l' ∧ k = k') ∧
      (∀ (l k : Nat) (call : Call), (calls l)[k]? = some call →
        c.Came es call.router call.request ∧
          ∀ text, Request.parse? text = some call.request → ∃ line : String,
            call.octets k =
              (if call.transport = .framed then Bytes.ofLength (Bytes.ofText (line ++ "\n")).length
                else []) ++ Bytes.ofText (line ++ "\n") ∧
            '\n' ∉ line.toList ∧
            Request.parse? line =
              some (call.request.set sequenceKey (toString ((k : Int).bmod (2 ^ 32))))) ∧
      (∀ x ∈ c.course es, x.after.UnsentNumbered) ∧
      (c.always rests es = true → ∀ x ∈ c.course es, WrittenBeforeRead calls x) := by
  have hstart : AccountsServe (c.Came es) (fun _ => {}) [] c := hc ▸ .start hpools
  obtain ⟨A, haccounts, hread⟩ : ∃ A, AccountsHold (c.Came es) A (c.course es) (c.undergo es) ∧
      (c.always rests es = true → ∀ x ∈ c.course es, WrittenBeforeRead (fun l => (A l).calls) x) := by
    -- What is sent does not depend on runs being finished; only the order of writing and reading
    -- does.
    by_cases hrests : c.always rests es = true
    · have hwf : c.HoldersHaveWritten := fun ref r e _ hr => by
        rw [hc] at hr
        cases hr
      obtain ⟨A, h⟩ := hstart.course es hwf hes hrests fun ref r hr => hr
      exact ⟨A, h.toAccountsHold, fun _ => h.writtenBeforeRead⟩
    · obtain ⟨A, h⟩ := (hstart.toAccountsHold.accountedFor hes).1
      exact ⟨A, h, fun hall => absurd hall hrests⟩
  refine ⟨fun l => (A l).calls, haccounts.fits.sends, fun l k l' k' call call' hk hk' =>
    haccounts.fits.booked.once hk hk', fun l k call hk => ⟨?_, fun text htext =>
      Call.octets_reads htext k⟩, fun x hx => ?_, hread⟩
  · exact (haccounts.fits.booked.spent l call (List.mem_of_getElem? hk)).2.1
  · obtain ⟨earlier, later, hsplit⟩ := List.append_of_mem hx
    obtain ⟨⟨A₀, told, A₁, -, -, hafter⟩, -⟩ := (hstart.toAccountsHold.accountedFor hes).2 earlier x later
      hsplit
    exact hafter.unsentNumbered

/-- Two clients use one connection, one behind the other. The first asks before the connection is
there, with a number of its own, and the second finds it idle. Both get answers. -/
theorem calls_numbered_two_clients :
    let plan : Plan :=
      { label := "edge", routes := ⟨[({}, { name := "all", cluster := some "c" })]⟩,
        parts := [⟨.decoder, .router 0⟩] }
    let side : HostSide TcpPools :=
      { generations := [{ list := [{ config := { name := "c", hosts := ["h:1"] },
                                     hosts := [{ address := "h:1", cluster := "c" }] }] }],
        pools := {} }
    let c : Crowd TcpPools := { source := TcpPools.source, side }
    let opened : Incident := .opened plan {} (.start "edge" 0) {}
    let framed (line : String) : Bytes := Config.Transport.framed.frame (Bytes.ofText line)
    let es := [opened, .happened 0 (.data (Bytes.ofText "users get seq=9 id=1\n")),
      .connected 0 .connected, .happened 0 .run, .hostData 0 (framed "ok \"a\" seq=0\n"),
      .happened 0 .run, opened, .happened 1 (.data (Bytes.ofText "users put\n")),
      .hostData 0 (framed "ok \"b\" seq=1\n"), .happened 1 .run]
    c.always allows es = true ∧ c.always rests es = true ∧
      ∃ calls : LinkId → List Call,
        (calls 0).mapIdx Call.octets = [framed "users get seq=0 id=1\n", framed "users put seq=1\n"] ∧
        (calls 0).map (·.router) = [{ session := 0, stream := 0 }, { session := 1, stream := 0 }] ∧
        ∀ call ∈ calls 0, c.Came es call.router call.request := by
  intro plan side c opened framed es
  have hes : c.always allows es = true := by decide +kernel
  have hrests : c.always rests es = true := by decide +kernel
  obtain ⟨calls, hsends, -, hcalls, -, hread⟩ := calls_numbered side rfl c rfl es hes
  have hsent : (c.undergo es).side.pools.sends 0 =
      [framed "users get seq=0 id=1\n", framed "users put seq=1\n"] := by decide +kernel
  have hoctets : (calls 0).mapIdx Call.octets =
      [framed "users get seq=0 id=1\n", framed "users put seq=1\n"] := (hsends 0).symm.trans hsent
  -- Each of the two takes up octets, when as many calls were written as it has before and with its
  -- own.
  have hreads : ∀ (n : Nat) (ref : RouterRef) (octets : Bytes) (most : Nat),
      ((c.course es)[n]?).bind (fun x =>
        if x.task.bind Task.delivery? = some (ref, .data octets) ∧
          (x.before.side.pools.sends 0).length = most then
          (x.before.router? ref).bind fun r => r.exchange.bind (·.link)
        else none) = some 0 →
      ∃ (k : Nat) (call : Call), (calls 0)[k]? = some call ∧ call.router = ref ∧ k < most := by
    intro n ref octets most hn
    obtain ⟨x, hx, hn⟩ := Option.bind_eq_some_iff.mp hn
    obtain ⟨⟨htold, hmost⟩, hn⟩ := Option.ite_none_right_eq_some.mp hn
    obtain ⟨t, ht, htold⟩ := Option.bind_eq_some_iff.mp htold
    have htask : x.task = some (.router ref (.deliver (.data octets))) :=
      ht.trans (congrArg some (Task.eq_of_delivery? htold))
    obtain ⟨r, hr, hn⟩ := Option.bind_eq_some_iff.mp hn
    obtain ⟨e, he, hl⟩ := Option.bind_eq_some_iff.mp hn
    obtain ⟨k, call, hcall, hrouter, -, -, hsend⟩ :=
      hread hrests x (List.mem_of_getElem? hx) ref octets r e 0 htask hr he hl
    exact ⟨k, call, hcall, hrouter, hmost ▸ (List.getElem?_eq_some_iff.mp hsend).1⟩
  obtain ⟨k₀, first, hfirst, hrouter₀, hk₀⟩ := hreads 10 { session := 0, stream := 0 }
    (framed "ok \"a\" seq=0\n") 1 (by decide +kernel)
  obtain ⟨k₁, second, hsecond, hrouter₁, hk₁⟩ := hreads 19 { session := 1, stream := 0 }
    (framed "ok \"b\" seq=1\n") 2 (by decide +kernel)
  refine ⟨hes, hrests, calls, hoctets, ?_, ?_⟩
  · obtain rfl : k₀ = 0 := by omega
    have hne : k₁ ≠ 0 := by
      rintro rfl
      obtain rfl := Option.some.inj (hfirst.symm.trans hsecond)
      rw [hrouter₀] at hrouter₁
      cases hrouter₁
    obtain rfl : k₁ = 1 := by omega
    have hlength : (calls 0).length = 2 := by
      have hall := congrArg List.length hoctets
      rwa [List.length_mapIdx] at hall
    obtain ⟨a, b, hc⟩ := List.length_eq_two.mp hlength
    rw [hc] at hfirst hsecond
    rw [hc, List.map_cons, List.map_cons, List.map_nil, Option.some.inj hfirst, Option.some.inj hsecond,
      hrouter₀, hrouter₁]
  · intro call hcall
    obtain ⟨k, hk⟩ := List.mem_iff_getElem?.mp hcall
    exact (hcalls 0 k call hk).1

end Crowd

end RpcProxy

import RpcProxy.Proofs.Session.StreamsInFlight
import RpcProxy.Proofs.Session.RouterShares

/-!
# Replies are relayed

A host answers a call with a frame that comes in pieces. Whatever the pieces are, the router asks
its stream for one thing when the last of them has come, and that depends on nothing but what the
frame holds (`verdict`). `opened_relay` follows this through to what the client is sent.

The argument has three parts. The moment at which the frame is complete is the one at which what was
read stops being no whole frame, and there the router asks for its verdict (`OnCourse.judges`). A
router that asks for anything asks for an outcome first (`AsksForOutcome`) and has one outcome only,
so nothing else was asked for before. The stream is therefore still in flight when the verdict's
turn comes (`UnansweredInFlight`), its response meets no filter, and it is written.

The second part is where an argument about the router alone would fail. A verdict that is posted is
not yet a reply: between the two, other tasks are taken up, and one of them might answer the stream
or end it. None does, since only the router may ask something of its stream while the client's
connection is up, and what it asks for comes in one batch with the outcome in it. So what is said
about the client needs what is known of all tasks of the run, and not just of those that are the
router's.

Nothing here depends on how the frame was cut. The pieces matter only to the decoder, and what it
makes of them is what it makes of the whole (`Exchange.HasRead`).
-/

set_option autoImplicit false

namespace RpcProxy

/-! ## Frames

A message with its length in front is read back as it was written, whatever follows. -/

theorem Bytes.toLength_ofLength {n : Nat} (h : n < 4294967296) :
    Bytes.toLength (UInt8.ofNat (n / 16777216)) (UInt8.ofNat (n / 65536)) (UInt8.ofNat (n / 256))
      (UInt8.ofNat n) = n := by
  simp only [Bytes.toLength, UInt8.toNat_ofNat']
  omega

namespace ReplyDecoder

/-- What is behind a length is a frame once there is as much of it as the length says. -/
theorem nextFrame_ofLength {n : Nat} (hn : n ≤ Wire.maxLine) (tail : Bytes) :
    nextFrame .framed (Bytes.ofLength n ++ tail) =
      .ok (if tail.length < n then none else some (tail.take n, tail.drop n)) := by
  have hlength := Bytes.toLength_ofLength (n := n) (by unfold Wire.maxLine at hn; omega)
  simp only [nextFrame, Bytes.ofLength, List.cons_append, List.nil_append, hlength]
  rw [if_neg (Nat.not_lt.mpr hn)]
  split
  · rfl
  · rfl

/-- A frame is whole once its length and all of it have come, whatever is behind it. -/
theorem nextFrame_of_prefix {transport : Config.Transport} {frame heard : Bytes}
    (htransport : transport = .framed) (hlong : frame.length ≤ Wire.maxLine)
    (h : Bytes.ofLength frame.length ++ frame <+: heard) :
    ∃ behind, nextFrame transport heard = .ok (some (frame, behind)) := by
  obtain ⟨rest, rfl⟩ := h
  rw [htransport, List.append_assoc, nextFrame_ofLength hlong, if_neg (by simp), List.take_left]
  exact ⟨_, rfl⟩

/-! ## Verdicts

What a host sends up to the end of one frame decides what the router asks for: an answer, or a
refusal. The verdict is a function of the frame and of the number that the client gave to its
request. -/

/-- The octets of a frame spell a reply: they are the text of a response line, with or without its
end, and the kind of the message is known if the line tells it. -/
def Spells (frame : Bytes) (r : Response) : Prop :=
  ∃ text, frame = Bytes.ofText text ∧
    Response.parse? (String.ofList (Text.trimEnd (fun c => c == '\r' || c == '\n') text.toList)) =
      some r ∧
    ∀ kind, r.get? "type" = some kind → kind ∈ ["reply", "exception", "call", "oneway"]

theorem kindOf?_isSome (name : String) :
    (kindOf? name).isSome = true ↔ name ∈ ["reply", "exception", "call", "oneway"] := by
  unfold kindOf?
  split
  · simp
  · simp
  · simp
  · simp
  · next h₁ h₂ h₃ h₄ =>
    simp only [Option.isSome_none, Bool.false_eq_true, List.mem_cons, List.not_mem_nil, or_false,
      false_iff, not_or]
    exact ⟨h₁, h₂, h₃, h₄⟩

/-- Reading accepts exactly what spells a reply. -/
theorem spells_iff {frame : Bytes} {r : Response} :
    Spells frame r ↔ ∃ kind, readReply frame = .ok (kind, r) := by
  constructor
  · rintro ⟨text, rfl, hparse, hkind⟩
    unfold readReply
    simp only [Bytes.toText?_ofText, hparse]
    cases hname : r.get? kindKey with
    | none => exact ⟨.reply, rfl⟩
    | some name =>
      obtain ⟨kind, hk⟩ := Option.isSome_iff_exists.mp ((kindOf?_isSome name).mpr (hkind name hname))
      exact ⟨kind, by simp only [hk]⟩
  · rintro ⟨kind, h⟩
    unfold readReply at h
    split at h
    · cases h
    · next text htext =>
      dsimp only at h
      split at h
      · cases h
      · next r' hparse =>
        refine ⟨text, Bytes.toText?_eq_some_iff.mp htext, ?_⟩
        split at h
        · next hname =>
          cases h
          exact ⟨hparse, fun name hn => nomatch hname.symm.trans hn⟩
        · next name hname =>
          split at h
          · next kind' hk =>
            cases h
            refine ⟨hparse, fun name' hn => ?_⟩
            obtain rfl := Option.some.inj (hname.symm.trans hn)
            exact (kindOf?_isSome name).mp (by rw [hk]; rfl)
          · cases h

theorem readReply_of_not_spells {frame : Bytes} (h : ∀ reply, ¬Spells frame reply) :
    ∃ fault, readReply frame = .error fault := by
  cases hread : readReply frame with
  | ok found => exact absurd (spells_iff.mpr ⟨found.1, hread⟩) (h found.2)
  | error fault => exact ⟨fault, rfl⟩

end ReplyDecoder

open ReplyDecoder (nextFrame readReply forClient)

/-- What a router asks of its stream for a frame that a host has sent, `id?` being the id of its
call: the reply that the frame holds, or an answer that says why it holds none. In the second case
the host cannot be trusted to be in step, and the client is told to close, too. -/
def verdict (id? : Option String) (frame : Bytes) : StreamOp :=
  match readReply frame with
  | .ok (_, r) => .respond (match id? with
    | some id => (forClient r).set idKey id
    | none => forClient r)
  | .error e => .localReply { code := .internal, message := e.message } [closingProperty]

theorem verdict_isOutcome (id? : Option String) (frame : Bytes) :
    (verdict id? frame).isOutcome = true := by
  unfold verdict
  split
  · rfl
  · rfl

/-- A whole frame has come. The decoder has the reply that it holds; if it holds none, the decoder
has the reason, and the connection is closed. -/
theorem Exchange.HasRead.frame {e : Exchange} {d : ReplyDecoder} {octets data frame behind : Bytes}
    (h : e.HasRead d octets) (he : e.Holding) (hsane : e.DecoderSound d)
    (hframe : nextFrame e.transport (octets ++ data) = .ok (some (frame, behind))) (now : Instant) :
    ∃ d' t, e.onData lineReplies d data false now = .ok (true, d', t) ∧
      (∀ kind r, readReply frame = .ok (kind, r) → d'.error = none ∧ d'.response = some (forClient r)) ∧
      ∀ err, readReply frame = .error err → d'.error = some err ∧
        t.commands = LinkCommand.letGo (some .noFlush) e.link := by
  generalize hd₀ : (if e.responseStarted then d else .start e.transport e.protocol.kind) = d₀
  -- The decoder begins anew with the first octets, and goes on with the same buffer behind them.
  have hbuffer : d₀.buffer = octets := by
    rw [← h.buffer, ← hd₀]
    cases e.responseStarted with
    | true => rfl
    | false => rfl
  have htransport : d₀.transport = e.transport := by
    rw [← hd₀]
    cases hs : e.responseStarted with
    | true => exact h.transport hs
    | false => rfl
  have hfine : d₀.error = none := by
    rw [← hd₀]
    cases hs : e.responseStarted with
    | true => exact hsane hs
    | false => rfl
  rw [← htransport, ← hbuffer] at hframe
  have hheld : Holding { e with
      responseSize := e.responseSize + data.length, responseStarted := true } := { he with }
  cases hread : readReply frame with
  | ok reply =>
    obtain ⟨kind, r⟩ := reply
    have hfeed : d₀.feed data =
        (.complete, ReplyDecoder.accept { d₀ with buffer := behind } kind r) := by
      simp only [ReplyDecoder.feed, hframe, hread]
    rw [← hd₀] at hfeed
    refine ⟨_, _, he.onData_feed hfeed, fun kind' r' hsame => ?_, nofun⟩
    cases hsame
    rw [hd₀]
    exact ⟨hfine, rfl⟩
  | error err =>
    have hfeed : d₀.feed data = (.reset, ReplyDecoder.refuse { d₀ with buffer := behind } err) := by
      simp only [ReplyDecoder.feed, hframe, hread]
    rw [← hd₀] at hfeed
    refine ⟨_, _, he.onData_feed hfeed, nofun, fun err' hsame => ?_⟩
    cases hsame
    refine ⟨rfl, ?_⟩
    rw [Step.commands_andThen, onReply_commands hheld (by decide)]
    cases e.responseStarted with
    | true => rfl
    | false => rfl

theorem Task.opOf_eq_some_iff {t : Task} {ref : RouterRef} {op : RouterOp} :
    t.opOf ref = some op ↔ t = .router ref op := by
  cases t with
  | router other op' => simp [Task.opOf]
  | stream id op' => simp [Task.opOf]
  | closed => simp [Task.opOf]

namespace Session

variable {s s' : Session TcpPools} {ref : RouterRef} {past : List RouterOp} {octets : Bytes}
  {R : RouterRef → Request → Prop} {ms : List (Session TcpPools × Task)}

theorem forwardReply_verdict {r : Router} {frame : Bytes} (hr : s.router? ref = some r)
    (hreply : ∀ kind reply, readReply frame = .ok (kind, reply) →
      r.decoder.error = none ∧ r.decoder.response = some (forClient reply))
    (hfault : ∀ err, readReply frame = .error err → r.decoder.error = some err) :
    (s.forwardReply ref).toDo ref =
      s.toDo ref ++ [.ask (verdict (r.line.bind (·.get? idKey)) frame)] := by
  have htouch : Touches ref [] s (s.setRouter ref { r with decoder := r.decoder.take.2 }) :=
    Touches.setRouter hr _
  unfold Session.forwardReply verdict
  rw [hr]
  dsimp only
  generalize s.setRouter ref { r with decoder := r.decoder.take.2 } = s₁ at htouch
  cases hread : readReply frame with
  | ok reply =>
    obtain ⟨kind, reply⟩ := reply
    obtain ⟨herr, hresponse⟩ := hreply kind reply hread
    have htake : r.decoder.take.2.error = none := herr
    have hgot : r.decoder.take.1 = some (forClient reply) := hresponse
    rw [htake, hgot]
    exact (htouch.before (Touches.post _)).toDo
  | error err =>
    have htake : r.decoder.take.2.error = some err := hfault err hread
    rw [htake]
    exact (htouch.before (effect_touches ref s₁ _)).toDo

/-- The octets come that make a whole frame of what a router has read: it asks for its verdict. If
there is no reply, the connection is closed. -/
theorem OnCourse.judges {link : LinkId} {r : Router} {e : Exchange} {data frame behind : Bytes}
    (h : OnCourse ref past s) (hread : HasRead ref octets s) (hr : s.router? ref = some r)
    (he : r.exchange = some e) (hlink : e.link = some link)
    (hframe : nextFrame e.transport (octets ++ data) = .ok (some (frame, behind))) :
    let s' := s.onDelivery ref (.data data)
    s'.toDo ref = s.toDo ref ++ [.ask (verdict (r.line.bind (·.get? idKey)) frame)] ∧
      ∀ err, readReply frame = .error err → s'.side.pools =
        s.source.performAll ref (LinkCommand.letGo (some .noFlush) (some link)) s.side.pools := by
  intro s'
  obtain ⟨x, hx, hxr⟩ := h.router?_cases hr
  obtain ⟨-, hh, hsane, -, -⟩ := h.holding hx hxr he (by rw [hlink]; rfl)
  have hgo : ¬(e.link.isNone || e.responseComplete) = true := by simp [hlink, hh.incomplete]
  have hdone := (hread.router r hr).of_some he hh.not_over
  -- The octets complete a frame, which the decoder reads whatever pieces it came in.
  obtain ⟨d', t, ht, hreply, hfault⟩ := hdone.frame hh hsane hframe s.now
  obtain ⟨hpools, -⟩ := onHostData_work hr hgo ht
  have hs' : s' = s.onHostData ref r e data := by
    show s.onDelivery ref (.data data) = _
    simp only [Session.onDelivery, hr, Option.bind_some, he, Option.map_some]
  have hstep := takeStep_router?_eq (router?_setRouter hr { r with decoder := d' }) t
  have htouch := (Touches.setRouter hr { r with decoder := d' }).before (takeStep_touches _ ref t)
  rw [Exchange.onData_later hh ht] at htouch
  obtain ⟨pendingWrite, hnoted⟩ := Router.foldl_note t.effects
    { r with decoder := d', exchange := some t.exchange }
  rw [hnoted] at hstep
  constructor
  · have hforward := forwardReply_verdict hstep hreply fun err herr => (hfault err herr).1
    rw [htouch.toDo, List.append_nil] at hforward
    rw [hs', ← hforward]
    unfold Session.onHostData
    rw [if_neg hgo, ht]
    rfl
  · intro err herr
    rw [hs', hpools, (hfault err herr).2, hlink]

/-! ## What else a router asks for

Before the frame is complete a router asks for nothing. So the first thing it asks for is the
verdict, and `asks_once` says that there is no other. -/

theorem Share.asksForOutcome {σ : Type} {R : Request → Prop} {source : PoolSource σ} {p : σ}
    {taken ops : List RouterOp} {ds : List PoolAction} {m m' : Option Router}
    (h : Share R source p ref taken ds ops m m') : AsksForOutcome ops := by
  cases h with
  | rest | took | gaveBack | born | gone | waits | sent | wrote | read => exact AsksForOutcome.nil
  | refused status => exact AsksForOutcome.of_outcome rfl []
  | begun => exact AsksForOutcome.of_own rfl
  | failed _ _ _ _ _ _ hops => exact hops
  | denied _ _ _ _ _ hops => exact hops
  | ended _ _ _ _ _ _ _ _ hops => exact hops

/-- Whatever a router puts behind other work on the way, it asks for an outcome if it asks for
anything. -/
theorem Trail.batch (h : Trail R ref ms s s') :
    ∃ ops, done ref ms ++ s'.toDo ref = s.toDo ref ++ ops ∧ AsksForOutcome ops := by
  induction h with
  | refl s => exact ⟨[], by rw [List.append_nil]; rfl, AsksForOutcome.nil⟩
  | move _ hc hm ih =>
    obtain ⟨ops, hops, hcandid⟩ := ih
    obtain ⟨more, hmore, hshare⟩ := hm.share hc
    refine ⟨ops ++ more, ?_, hcandid.append ?_⟩
    · rw [done_append, List.append_assoc, hmore, ← List.append_assoc, hops, List.append_assoc]
    · obtain ⟨ds, hshare⟩ | ⟨-, rfl, -⟩ := hshare
      · exact hshare.asksForOutcome
      · exact AsksForOutcome.nil
  | told _ other d ih =>
    obtain ⟨ops, hops, hcandid⟩ := ih
    refine ⟨ops ++ if other = ref then [.deliver d] else [], ?_, hcandid.append (AsksForOutcome.of_own ?_)⟩
    · rw [← List.append_assoc, ← hops, List.append_assoc]
      exact congrArg _ (toDo_post _ ref other [.deliver d])
    · split
      · rfl
      · rfl

/-- A router that has asked for an outcome, in one batch by itself, asks for nothing else. -/
theorem asks_once {before after : List RouterOp} {op : StreamOp} (hop : op.isOutcome = true)
    (hbefore : AsksForOutcome before) (hafter : AsksForOutcome after)
    (honce : (before ++ [RouterOp.ask op] ++ after).countP RouterOp.isOutcome ≤ 1) :
    (before ++ [RouterOp.ask op] ++ after).filter RouterOp.isAsk = [.ask op] := by
  have hcount : [RouterOp.ask op].countP RouterOp.isOutcome = 1 := by simp [RouterOp.isOutcome, hop]
  rw [List.countP_append, List.countP_append, hcount] at honce
  have hquiet : ∀ ops : List RouterOp, AsksForOutcome ops → ops.countP RouterOp.isOutcome = 0 →
      ops.filter RouterOp.isAsk = [] := by
    intro ops hops hzero
    rw [List.filter_eq_nil_iff]
    intro a ha hask
    obtain ⟨b, hb, hout⟩ := List.any_eq_true.mp (hops (List.any_eq_true.mpr ⟨a, ha, hask⟩))
    exact List.countP_eq_zero.mp hzero b hb hout
  rw [List.filter_append, List.filter_append, hquiet before hbefore (by omega),
    hquiet after hafter (by omega)]
  rfl

/-- A router that has an exchange has its call from a request that came to it. Who the reply is for
is read off that call, so this is what ties the id in the reply to the request of the client. -/
def HasLine (R : RouterRef → Request → Prop) (ref : RouterRef) (m : Option Router) : Prop :=
  ∀ r e, m = some r → r.exchange = some e → ∃ request, R ref request ∧ r.line = some (.ofRequest request)

theorem HasLine.share {σ : Type} {source : PoolSource σ} {p : σ} {taken ops : List RouterOp}
    {ds : List PoolAction} {m m' : Option Router} (h : HasLine R ref m)
    (hs : Share (R ref) source p ref taken ds ops m m') : HasLine R ref m' := by
  -- Once a router has the line of its request, it keeps it for good.
  have hkept : ∀ {r r' : Router} {e : Exchange}, m = some r → r.exchange = some e → r'.line = r.line →
      HasLine R ref (some r') := by
    intro r r' e hm he hline r₁ e₁ hr₁ _
    cases hr₁
    obtain ⟨request, hrouted, hcall⟩ := h r e hm he
    exact ⟨request, hrouted, hline.trans hcall⟩
  cases hs with
  | rest | took | gaveBack | refused => exact h
  | born =>
    intro r e hr he
    cases hr
    cases he
  | gone => exact fun r e hr => nomatch hr
  | waits _ hrouted =>
    intro r e hr _
    cases hr
    exact ⟨_, hrouted, rfl⟩
  | sent _ hrouted _ _ hline =>
    intro r e hr _
    cases hr
    exact ⟨_, hrouted, hline⟩
  | failed _ hrouted _ hline =>
    intro r e hr _
    cases hr
    exact ⟨_, hrouted, hline⟩
  | begun he _ _ hline => exact hkept rfl he hline
  | denied he _ hline => exact hkept rfl he hline
  | wrote he _ _ _ hline => exact hkept rfl he hline
  | read he _ hline => exact hkept rfl he hline
  | ended he _ _ _ _ hline => exact hkept rfl he hline

theorem HasLine.trail (h : HasLine R ref (s.router? ref)) (ht : Trail R ref ms s s') :
    HasLine R ref (s'.router? ref) := by
  induction ht with
  | refl s => exact h
  | move _ hc hm ih =>
    obtain ⟨ops, -, ⟨ds, hshare⟩ | ⟨-, -, hgone⟩⟩ := hm.share hc
    · exact (ih h).share hshare
    · rw [hgone]
      exact fun r e hr => nomatch hr
  | told _ other d ih => exact ih h

/-! ## The client is sent the reply

What is asked of the stream is done if it is in flight, which it is as long as nothing else was
asked for. The octets written are those of the answer with what filters on the way back made of
it. -/

theorem finishStream_closed {σ : Type} {s : Session σ} (h : s.connection.isOpen = false)
    (id : StreamId) : (s.finishStream id).connection.isOpen = false := by
  have hdrained : ∀ s : Session σ, s.connection.isOpen = false →
      s.closeIfDrained.connection.isOpen = false := by
    intro s hs
    unfold Session.closeIfDrained
    split
    · exact close_isOpen _ _
    · exact hs
  rw [← completeStream_connection s id] at h
  unfold Session.finishStream
  dsimp only
  generalize s.completeStream id = s₁ at h
  split
  · exact h
  · split
    · exact h
    · refine hdrained _ ?_
      split
      · exact h
      · exact h

/-- A stream that has a response and no filter for it is answered, if its client is there. -/
theorem continueEncoding_writes {σ : Type} {s : Session σ} {x : Stream} {r : Response}
    (hx : s.stream? x.id = some x) (hlive : x.isLive = true) (hr : x.response = some r)
    (hfree : x.encoders = []) (hserved : s.isServed = true) (hopen : s.connection.isOpen = true) :
    (s.continueEncoding x.id).connection.output = s.connection.output ++ r.encode ∧
      (r.asksToClose = true → (s.continueEncoding x.id).connection.isOpen = false) ∧
      .wrote r.encode ∈ s.encodingEvents x.id := by
  have hgo : ¬(!x.isLive || x.response.isNone) = true := by simp [hlive, hr]
  have hsend : s.continueEncoding x.id = s.sendReply x.id := by
    unfold Session.continueEncoding
    rw [hx]
    dsimp only
    rw [if_neg hgo, hfree, List.drop_nil]
    rfl
  -- No filter is left, so the response is sent as it is.
  obtain ⟨houtput, -⟩ := sendReply_messageSteps hx hlive hr (by rw [hfree, List.drop_nil])
  have hoctets : s.replyOctets r = r.encode := by simp [replyOctets, hserved, hopen]
  rw [hoctets, ← hsend] at houtput
  refine ⟨houtput, fun hlast => ?_, ?_⟩
  · rw [hsend]
    unfold Session.sendReply
    rw [hx]
    dsimp only
    rw [hr]
    dsimp only
    rw [hserved, if_neg (by simp)]
    refine finishStream_closed ?_ x.id
    rw [(writeToClient_sameMessages _ _ _).2]
    show (s.connection.write r.encode r.asksToClose).isOpen = false
    rw [Downstream.write, if_pos hopen, hlast]
    exact close_isOpen _ _
  · unfold encodingEvents
    rw [hx]
    dsimp only
    rw [if_neg hgo, writeEvents_eq houtput]
    refine List.mem_cons_of_mem _ ?_
    cases hencode : r.encode with
    | nil => exact absurd hencode r.encode_ne_nil
    | cons octet octets => exact List.mem_cons_self

end Session

/-- The response that a stream gets when something is done with it. -/
def StreamOp.answerTo (request : Request) : StreamOp → Option Response
  | .respond r => some r
  | .localReply status update => some ((Response.answering status request).change update)
  | _ => none

namespace Session

/-- A stream in flight that no filter stands behind is answered at once. -/
theorem perform_writes {σ : Type} {s : Session σ} {x : Stream} {r : Response} {op : StreamOp}
    (hop : op.answerTo x.request = some r) (hx : s.stream? x.id = some x) (hlive : x.isLive = true)
    (hfree : x.encoders = []) (hcreates : s.plan.codec.createsReplies = true)
    (hserved : s.isServed = true) (hopen : s.connection.isOpen = true) :
    (s.perform x.id op).connection.output = s.connection.output ++ r.encode ∧
      (r.asksToClose = true → (s.perform x.id op).connection.isOpen = false) ∧
      .wrote r.encode ∈ s.eventsOf x.id op := by
  -- Once the response is set, the stream is the same for both ways of asking.
  have hanswer : ∀ s₁ : Session σ, s₁.connection = s.connection → s₁.isServed = true →
      ∀ y, s₁.stream? x.id = some y → y.id = x.id → y.isLive = true → y.encoders = [] →
      ((s₁.modifyStream x.id (·.setResponse r)).continueEncoding x.id).connection.output =
          s.connection.output ++ r.encode ∧
        (r.asksToClose = true →
          ((s₁.modifyStream x.id (·.setResponse r)).continueEncoding x.id).connection.isOpen = false) ∧
        .wrote r.encode ∈ s₁.answerEvents x.id r := by
    intro s₁ hsame hserved₁ y hy hid hylive hyfree
    have hset := stream?_modifyStream_same (f := (·.setResponse r)) (fun _ => rfl) hy
    rw [← hid] at hset ⊢
    have hopen₁ : (s₁.modifyStream y.id (·.setResponse r)).connection.isOpen = true := by
      show s₁.connection.isOpen = true
      rw [hsame]
      exact hopen
    obtain ⟨houtput, hclosed, hwrote⟩ := continueEncoding_writes (x := y.setResponse r) hset hylive rfl
      hyfree hserved₁ hopen₁
    refine ⟨houtput.trans ?_, hclosed, List.mem_cons_of_mem _ hwrote⟩
    show s₁.connection.output ++ _ = _
    rw [hsame]
  cases op with
  | respond response =>
    cases hop
    have hgo : ¬(!x.isLive) = true := by simp [hlive]
    show (s.respond x.id r).connection.output = _ ∧ _
    unfold Session.perform Session.respond eventsOf
    rw [hx]
    dsimp only
    rw [if_neg hgo, if_neg hgo]
    exact hanswer s rfl hserved x hx rfl hlive hfree
  | localReply status update =>
    cases hop
    have hgo : ¬(!x.isLive || !s.isServed) = true := by simp [hlive, hserved]
    have hgo' : ¬(!x.isLive || !s.isServed || !s.plan.codec.createsReplies) = true := by
      simp [hlive, hserved, hcreates]
    unfold Session.perform Session.localReply eventsOf
    rw [hx]
    dsimp only
    rw [if_neg hgo, if_neg (by simp [hcreates]), if_neg hgo']
    exact hanswer (s.aboutToReply x.id) rfl hserved _ (aboutToReply_stream? hx) rfl hlive hfree
  | continueDecoding | continueEncoding | complete | reset | resetConnection => cases hop

end Session

/-! ## A chain that leaves requests to a router

The filters in front of the router pass the request on, so that the router is shown it and nobody
else answers. -/

/-- Where all filters leave messages as they are, every filter is shown the first message. -/
theorem Visit.Chained.kept {α : Type} {m : α} {vs : List (Visit α)} (h : Visit.Chained m vs)
    (hkept : ∀ v ∈ vs, v.left = v.shown) : (∀ v ∈ vs, v.shown = m) ∧ Visit.behind m vs = m := by
  induction vs generalizing m with
  | nil => exact ⟨nofun, rfl⟩
  | cons v vs ih =>
    obtain ⟨hshown, hrest⟩ := h
    have hleft : v.left = m := (hkept v List.mem_cons_self).trans hshown
    rw [hleft] at hrest
    obtain ⟨hall, hbehind⟩ := ih hrest fun w hw => hkept w (List.mem_cons_of_mem v hw)
    refine ⟨List.forall_mem_cons.mpr ⟨hshown, hall⟩, ?_⟩
    show Visit.behind v.left vs = m
    rw [hleft, hbehind]

/-- A filter for direct responses with a router behind it, which is what a listener gets whose
routes name clusters and whose settings name no filters. -/
def routedChain (generation : Nat) : List Part :=
  [⟨.decoder, .plain directResponse⟩, ⟨.decoder, .router generation⟩]

theorem routedChain_message {generation : Nat} {part : Part} (h : part ∈ routedChain generation)
    (view : StreamView) (r : Request) : (part.onRequest view r).message = r := by
  rcases List.mem_cons.mp h with rfl | h
  · show (directResponse.onRequest view r).message = r
    rcases directResponse_cases view r with heq | ⟨status, heq⟩
    · rw [heq]
    · rw [heq]
  · rw [List.mem_singleton.mp h]
    rfl

/-- Nobody changes a request on its way to the router. -/
theorem Course.routedChain_shown {parts : List Part} {generation : Nat} {view : StreamView}
    {request : Request} {es : List StreamEvent} {vs : List (Visit Request)}
    {c : Option (Response × List (Visit Response))} {done : Bool}
    (h : Course parts view request es vs c done) (hparts : parts ⊆ routedChain generation) :
    (∀ v ∈ vs, v.shown = request) ∧ Visit.behind request vs = request := by
  obtain ⟨rest, hes⟩ : ∃ rest, es = .began request :: rest := by
    have hhead := h.head?_eq
    cases es with
    | nil => cases hhead
    | cons e rest =>
      cases hhead
      exact ⟨rest, rfl⟩
  obtain ⟨hchain, hof⟩ := h.chained.requestFilters request rest hes
  rw [h.requestVisits_eq] at hchain hof
  refine hchain.kept fun v hv => ?_
  obtain ⟨part, hpart, hleft, -⟩ := hof v hv
  rw [hleft, routedChain_message (hparts (List.mem_of_getElem? hpart))]

theorem Plan.routesAt_routedChain {plan : Plan} {generation : Nat}
    (h : plan.parts = routedChain generation) : plan.RoutesAt 1 := by
  intro i part hpart hrouter
  rw [h] at hpart
  match i with
  | 0 =>
    cases hpart
    cases hrouter
  | 1 => rfl
  | i + 2 => cases hpart

theorem Plan.defers_routedChain {plan : Plan} {generation : Nat} {request : Request} {route : Route}
    (h : plan.parts = routedChain generation) (hroute : plan.routes.find? request = some route)
    (hdirect : route.direct = none) : plan.Defers request := by
  intro part hpart b hkind view r hview
  rw [h] at hpart
  rcases List.mem_cons.mp hpart with rfl | hpart
  · cases hkind
    simp [directResponse, hview, hroute, hdirect]
  · rw [List.mem_singleton.mp hpart] at hkind
    cases hkind

/-- The filters of the chain ask for nothing but a reply of the stream whose request they meet. -/
theorem Plan.spares_routedChain {plan : Plan} {generation : Nat}
    (h : plan.parts = routedChain generation) (id : StreamId) : ∀ p ∈ plan.parts, p.Spares id := by
  intro part hpart
  rw [h] at hpart
  rcases List.mem_cons.mp hpart with rfl | hpart
  · refine ⟨fun view r hne a ha => ?_, fun _ _ _ _ _ ha => (nomatch ha), fun _ _ ha => nomatch ha⟩
    change a ∈ (directResponse.onRequest view r).asks at ha
    rcases directResponse_cases view r with heq | ⟨status, heq⟩
    · rw [heq] at ha
      cases ha
    · rw [heq] at ha
      rw [List.mem_singleton.mp ha]
      exact hne
  · rw [List.mem_singleton.mp hpart]
    exact ⟨fun _ _ _ _ ha => (nomatch ha), fun _ _ _ _ _ ha => (nomatch ha), fun _ _ ha => nomatch ha⟩

namespace Session

/-! ## From the host to the client

The parts are put together: the request reached the router, octets reached the decoder, the verdict
was asked for, and the answer was written. -/

theorem Trail.nextId_le {s s' : Session TcpPools} {ref : RouterRef} {R : RouterRef → Request → Prop}
    {ms : List (Session TcpPools × Task)} (h : Trail R ref ms s s') : s.nextId ≤ s'.nextId := by
  induction h with
  | refl s => exact Nat.le_refl _
  | move _ _ hm ih => exact Nat.le_trans ih hm.frame.1
  | told _ other d ih => exact ih

theorem actsOf_subset {σ : Type} {s : Session σ} {ops : List SessionOp} {m : Session σ × Task}
    (hm : m ∈ s.history ops) : m.1.actsOf m.2 ⊆ s.acts ops := by
  induction ops generalizing s with
  | nil => cases hm
  | cons op ops ih =>
    rcases List.mem_append.mp hm with hm | hm
    · refine List.Subset.trans ?_ (List.subset_append_left _ _)
      intro a ha
      exact List.mem_append_right _ (List.mem_flatMap.mpr ⟨m, hm, ha⟩)
    · exact List.Subset.trans (ih hm) (List.subset_append_right _ _)

section

variable {s s' : Session TcpPools} {ref : RouterRef} {R : RouterRef → Request → Prop}
  {ms later : List (Session TcpPools × Task)}

/-- A stream that has begun has begun whenever a task is taken up later. -/
theorem Trail.begun {y : Session TcpPools × Task} (h : Trail R ref ms s s') (hy : y ∈ ms) :
    s.nextId ≤ y.1.nextId := by
  obtain ⟨before, after, rfl⟩ := List.append_of_mem hy
  obtain ⟨s₂, s₃, -, hbefore, -, hmove, -⟩ := h.at
  refine Nat.le_trans hbefore.nextId_le ?_
  cases hmove with
  | popped hq => exact Nat.le_refl _
  | wrote hq => exact Nat.le_refl _
  | delivered hq => exact Nat.le_refl _
  | noted => exact Nat.le_refl _

/-- A router is told the octets that make a whole frame. For this frame it asks for its verdict, and
for nothing else before or after. -/
theorem Trail.judged {x : Session TcpPools × Task} {link : LinkId} {r : Router} {e : Exchange}
    {octets frame behind : Bytes} (h : Trail R ref (ms ++ x :: later) s s') (hidle : s.toDo ref = [])
    (hread : HasRead ref [] s) (hline : HasLine R ref (s.router? ref))
    (honce : (done ref (ms ++ x :: later) ++ s'.toDo ref).countP RouterOp.isOutcome ≤ 1)
    (hx : x.2 = .router ref (.deliver (.data octets))) (hr : x.1.router? ref = some r)
    (he : r.exchange = some e) (hlink : e.link = some link)
    (hframe : nextFrame e.transport (heard ref ms ++ octets) = .ok (some (frame, behind))) :
    ∃ request, R ref request ∧
      (done ref (ms ++ x :: later) ++ s'.toDo ref).filter RouterOp.isAsk =
        [.ask (verdict (request.get? idKey) frame)] ∧
      (done ref ms).filter RouterOp.isAsk = [] ∧ (∀ y ∈ later, ref.stream < y.1.nextId) ∧
      ∀ err, readReply frame = .error err → (x.1.runTask x.2).side.pools = s.source.performAll ref
        (LinkCommand.letGo (some .noFlush) (some link)) x.1.side.pools := by
  obtain ⟨s₂, s₃, past, hbefore, hcourse, hmove, hafter⟩ := h.at
  obtain ⟨rest, hq, hleft, rfl⟩ := hmove.of_deliver hx
  have hcourse' : OnCourse ref _ x.1 := hleft ▸ hcourse.leave hq
  have hread' : HasRead ref (heard ref ms) x.1 := by
    have hall := hread.trail hbefore
    exact hleft ▸ ⟨hall.early, hall.router⟩
  have hrouters : s₂.router? ref = x.1.router? ref := hleft ▸ (router?_congr rfl rfl ref)
  obtain ⟨request, hrouted, hcall⟩ := hline.trail hbefore r e (hrouters.trans hr) he
  obtain ⟨hjudged, hclosed⟩ := hcourse'.judges hread' hr he hlink hframe
  have hid : r.line.bind (·.get? idKey) = request.get? idKey := by rw [hcall]; rfl
  rw [hid] at hjudged
  generalize hop : verdict (request.get? idKey) frame = op at hjudged
  -- From here on only this matters of the verdict: it is an outcome, and a router has one.
  have hout : op.isOutcome = true := hop ▸ verdict_isOutcome _ frame
  -- All that the router has done or still has to do: what it asked for before, the verdict, and
  -- what it asks for later.
  obtain ⟨before, hbatch, hcandid⟩ := hbefore.batch
  obtain ⟨after, hbatch', hcandid'⟩ := hafter.batch
  rw [hidle, List.nil_append] at hbatch
  have hall : done ref (ms ++ x :: later) ++ s'.toDo ref = before ++ [.ask op] ++ after := by
    have htook : done ref [x] ++ x.1.toDo ref = s₂.toDo ref := by
      obtain ⟨x₁, t⟩ := x
      cases hx
      cases hleft
      rw [done_singleton]
      exact (toDo_leave hq).symm
    rw [← List.singleton_append, done_append, done_append, List.append_assoc, List.append_assoc,
      hbatch', hjudged, ← hbatch, ← htook]
    simp only [List.append_assoc]
  rw [hall] at honce ⊢
  have hasks := asks_once hout hcandid hcandid' honce
  refine ⟨request, hrouted, by rw [hop]; exact hasks, ?_, fun y hy => ?_, fun err herr => ?_⟩
  · have hquiet : before.filter RouterOp.isAsk = [] := by
      have hlength := congrArg List.length hasks
      rw [List.filter_append, List.filter_append, List.length_append, List.length_append] at hlength
      have hone : ([RouterOp.ask op].filter RouterOp.isAsk).length = 1 := rfl
      rw [hone, List.length_singleton] at hlength
      exact List.length_eq_zero_iff.mp (by omega)
    rw [← hbatch, List.filter_append] at hquiet
    exact (List.append_eq_nil_iff.mp hquiet).1
  · have hnext : (x.1.onDelivery ref (.data octets)).nextId = x.1.nextId :=
      (onDelivery_works x.1 ref (.data octets)).nextId
    exact Nat.lt_of_lt_of_le (hnext ▸ hcourse'.begun hr) (hafter.begun hy)
  · have hsource : x.1.source = s.source := hleft ▸ hbefore.source
    rw [hx, ← hsource]
    exact hclosed err herr

/-- The verdict's turn comes while the client's connection is up: it is written. -/
theorem UnansweredInFlight.answers {plan : Plan} {generation j : Nat} {h : List (Session TcpPools × Task)}
    {as : List Act} {m : Session TcpPools × Task} {op : StreamOp} {request : Request}
    {response : Response} (ht : UnansweredInFlight plan ref h as s)
    (hparts : plan.parts = routedChain generation)
    (hcreates : plan.codec.createsReplies = true) (hm : h[j]? = some m)
    (horderly : Orderly plan .span m.1) (hask : m.2 = .router ref (.ask op))
    (hnone : (done ref (h.take j)).filter RouterOp.isAsk = []) (hup : m.1.isUp = true)
    (hbegun : ref.stream < m.1.nextId)
    (hrequest : (own ref.stream as).head? = some (.began request))
    (hop : op.answerTo request = some response) :
    (m.1.runTask m.2).connection.output = m.1.connection.output ++ response.encode ∧
      (response.asksToClose = true → (m.1.runTask m.2).connection.isOpen = false) ∧
      (ref.stream, .wrote response.encode) ∈ m.1.actsOf m.2 := by
  obtain ⟨hfly, -, bs, ⟨cs, rfl⟩, htraced⟩ := ht.past j m hm fun op hin =>
    List.filter_eq_nil_iff.mp hnone _ hin rfl
  obtain ⟨⟨hserved, -⟩, hopen⟩ : (m.1.isServed = true ∧ _) ∧ m.1.connection.isOpen = true := by
    simpa [isUp] using hup
  -- The client is there and the router has asked for nothing before, so the stream is in flight.
  obtain ⟨x, hx, hlive⟩ := horderly.there hserved _ (hfly.active hup hbegun)
  obtain ⟨-, hreset, -⟩ := horderly.inFlight hserved _ x hx hlive
  obtain ⟨parts, request', vs, c, d, hsub, hcourse, hstands⟩ := htraced.begun hbegun
  have hs := hstands x hx
  have hsame : request' = request := by
    rw [own_append, List.head?_append, hcourse.head?_eq, Option.some_or] at hrequest
    cases hrequest
    rfl
  -- Either chain has no filter for responses, and neither changes the request.
  have hchain : parts = routedChain generation ∨ parts = [] :=
    hsub.imp (fun hp => hp.trans hparts) And.left
  have hfree : x.encoders = [] := by
    rw [Stream.encoders_eq, hs.filters]
    rcases hchain with rfl | rfl
    · rfl
    · rfl
  have hinside : parts ⊆ routedChain generation := by
    rcases hchain with rfl | rfl
    · exact List.Subset.refl _
    · exact List.nil_subset _
  have hasked : x.request = request := by
    rw [hs.asked, (hcourse.routedChain_shown hinside).2, hsame]
  have hid := stream?_id hx
  rw [← hid] at hx
  obtain ⟨houtput, hclosed, hwrote⟩ := perform_writes (hasked ▸ hop) hx
    (by simp [Stream.isLive, hreset, hlive]) hfree (by rw [htraced.works]; exact hcreates) hserved hopen
  rw [hid] at houtput hclosed hwrote
  rw [hask]
  exact ⟨houtput, hclosed, List.mem_map.mpr ⟨_, hwrote, rfl⟩⟩

end

end Session

/-- A response with the id of the request that it answers, if that has one. -/
def Response.named (request : Request) (r : Response) : Response :=
  match request.get? "id" with
  | some id => r.set "id" id
  | none => r

/-- What the client gets for a reply of a host: the reply without what is meant for the proxy. -/
def relayed (request : Request) (reply : Response) : Response :=
  (((reply.erase "type").erase "draining").erase "seq").named request

/-- What the client gets for a frame that is no reply. -/
def refusal (request : Request) (message : String) : Response :=
  (Response.named request { status := { code := .internal, message } }).set "connection" "close"

theorem refusal_asksToClose (request : Request) (message : String) :
    (refusal request message).asksToClose = true := by
  simp [refusal, Response.asksToClose, Response.get?, Response.set, StringMap.find?_insert]

theorem verdict_answerTo (request : Request) (frame : Bytes) :
    ∃ response, (verdict (request.get? idKey) frame).answerTo request = some response ∧
      (∀ kind reply, readReply frame = .ok (kind, reply) → response = relayed request reply) ∧
      ∀ fault, readReply frame = .error fault → response = refusal request fault.message := by
  unfold verdict
  cases readReply frame with
  | ok found =>
    obtain ⟨kind, reply⟩ := found
    refine ⟨relayed request reply, rfl, fun kind' reply' h => ?_, nofun⟩
    cases h
    rfl
  | error fault =>
    refine ⟨refusal request fault.message, rfl, nofun, fun fault' h => ?_⟩
    cases h
    rfl

/-- A connection that is closed before it is let go of is closed in that way and in no other. -/
theorem TcpPools.letGo_closes (ref : RouterRef) (how : CloseType) (link : LinkId) (p : TcpPools) :
    let p' := source.performAll ref (LinkCommand.letGo (some how) (some link)) p
    p'.isOpen link = false ∧
      (p.isOpen link = true → p'.orders = p.orders ++ [.close link how]) := by
  intro p'
  have hshut : (p.shut link how).isOpen link = false := by simp [shut_isOpen]
  have hrelease : ∀ p : TcpPools, p.isOpen link = false → (p.release link).orders = p.orders := by
    intro p hp
    have hsame : (p.modifyLink link fun l => { l with owner := none }).isOpen link = false := by
      rw [isOpen_modifyLink]
      rw [isOpen_eq] at hp
      simpa using hp
    unfold release
    dsimp only
    split
    · rfl
    · split
      · rw [shut, if_neg (by simp [hsame])]
        rfl
      · rfl
  refine ⟨?_, fun hopen => ?_⟩
  · have hkept := (release_kept (p.shut link how) link).1
    rw [hshut, Bool.false_and] at hkept
    exact hkept
  · show ((p.shut link how).release link).orders = _
    rw [hrelease _ hshut, shut, if_pos hopen]
    rfl

namespace Session

open ReplyDecoder (Spells spells_iff readReply_of_not_spells nextFrame_of_prefix)
open StreamEvent (written)

/-- What a router asked for when only one thing was asked for: nothing before that. -/
theorem done_before {σ : Type} {moments : List (Session σ × Task)} {m : Session σ × Task} {j : Nat}
    {ref : RouterRef} {op : StreamOp} {later : List RouterOp} (hj : moments[j]? = some m)
    (hm : m.2.opOf ref = some (.ask op))
    (hasks : (done ref moments ++ later).filter RouterOp.isAsk = [.ask op]) :
    (done ref (moments.take j)).filter RouterOp.isAsk = [] := by
  obtain ⟨hlt, hget⟩ := List.getElem?_eq_some_iff.mp hj
  have hsplit : done ref moments =
      done ref (moments.take j) ++ .ask op :: done ref (moments.drop (j + 1)) := by
    have hdone : done ref (m :: moments.drop (j + 1)) = .ask op :: done ref (moments.drop (j + 1)) := by
      unfold done
      rw [List.filterMap_cons, hm]
    rw [← hdone, ← done_append, ← hget, ← List.drop_eq_getElem_cons hlt, List.take_append_drop]
  have hlength := congrArg List.length hasks
  rw [hsplit, List.append_assoc, List.filter_append, List.cons_append,
    List.filter_cons_of_pos (p := RouterOp.isAsk) (a := .ask op) rfl, List.length_append,
    List.length_cons, List.length_singleton] at hlength
  exact List.length_eq_zero_iff.mp (by omega)

/-- What a router asks for after it was quiet up to a moment at which it is told something is asked
for behind that moment. -/
theorem ask_behind {σ : Type} {moments : List (Session σ × Task)} {m m' : Session σ × Task} {i j : Nat}
    {ref : RouterRef} {d : Delivery} {op : StreamOp}
    (hquiet : (done ref (moments.take i)).filter RouterOp.isAsk = []) (hm : moments[i]? = some m)
    (htask : m.2 = .router ref (.deliver d)) (hj : moments[j]? = some m')
    (hop : m'.2.opOf ref = some (.ask op)) : i < j := by
  refine Nat.lt_of_not_le fun hle => ?_
  rcases Nat.lt_or_eq_of_le hle with hlt | rfl
  · have hin : m' ∈ moments.take i :=
      List.mem_iff_getElem?.mpr ⟨j, by rw [List.getElem?_take_of_lt hlt, hj]⟩
    exact List.filter_eq_nil_iff.mp hquiet _ (List.mem_filterMap.mpr ⟨m', hin, hop⟩) rfl
  · obtain rfl := Option.some.inj (hm.symm.trans hj)
    cases htask.symm.trans (Task.opOf_eq_some_iff.mp hop)

/-- Replies of hosts reach clients. A listener works with a filter for direct responses and a router
behind it; a connection of a client was opened, and things have happened to it in any order, its
pools answering a router that waits at most once. A stream began with a request that is left to the
router.

Take the moment at which a router that holds a connection with frames has read a whole frame, in
whatever pieces it came. Of all that the router ever asks of its stream, there is then exactly one
thing that waits or was taken up. When its turn comes while the client's connection is up, the
stream is answered, and the answer is all that is ever written for it: the reply that the frame
spells, without what is meant for the proxy and with the id of the request, or else a refusal that
says why there is none. Behind a refusal the client's connection is closed, and the host's
connection is closed without flushing at once. -/
theorem opened_relay (number : Nat) (plan : Plan) (generation : Nat)
    (hparts : plan.parts = routedChain generation) (hcodec : plan.codec = .text) (flags : Flags)
    (side : HostSide TcpPools) (stats : ListenerStats) (clock : Clock) (id : StreamId)
    (ops : List SessionOp)
    (hops : answersOnce { session := number, stream := id, slot := 1 }
      (opened number plan flags TcpPools.source side stats clock) ops = true)
    (hspares : ∀ op ∈ ops, op.spares id = true) :
    let s₀ := opened number plan flags TcpPools.source side stats clock
    let ref := s₀.refTo id 1
    let moments := s₀.history ops
    let events := s₀.course id ops
    ∀ request route, events.head? = some (.began request) → plan.routes.find? request = some route →
      route.direct = none →
    ∀ (i : Nat) m octets r e link frame, moments[i]? = some m →
      m.2 = .router ref (.deliver (.data octets)) → m.1.router? ref = some r → r.exchange = some e →
      e.link = some link → e.transport = .framed → frame.length ≤ Wire.maxLine →
      Bytes.ofLength frame.length ++ frame <+: heard ref (moments.take i) ++ octets →
      let s := m.1.runTask m.2
      ∃ op response,
        (∀ reply, Spells frame reply → response = relayed request reply) ∧
        ((∀ reply, ¬Spells frame reply) → ∃ fault, readReply frame = .error fault ∧
          response = refusal request fault.message ∧ s.side.pools.isOpen link = false ∧
          (m.1.side.pools.isOpen link = true →
            s.side.pools.orders = m.1.side.pools.orders ++ [.close link .noFlush])) ∧
        (done ref moments ++ (s₀.after ops).toDo ref).filter RouterOp.isAsk = [.ask op] ∧
        (.ask op ∈ (s₀.after ops).toDo ref ∨
          ∃ (j : Nat) (m' : Session TcpPools × Task), i < j ∧ moments[j]? = some m' ∧
            m'.2 = .router ref (.ask op) ∧
            (m'.1.isUp = true → written events = [response.encode] ∧
              (m'.1.runTask m'.2).connection.output = m'.1.connection.output ++ response.encode ∧
              ((∀ reply, ¬Spells frame reply) →
                (m'.1.runTask m'.2).connection.isOpen = false))) := by
  intro s₀ ref moments events request route hbegan hroute hdirect i m octets r e link frame hm htask hr he
    hlink htransport hlong hframe s
  have hcourse₀ := opened_onCourse number plan flags TcpPools.source side stats clock id 1
  have htrail : Trail (Routed (s₀.acts ops)) ref moments s₀ (s₀.after ops) := hcourse₀.trail hops
  have honce : (done ref moments ++ (s₀.after ops).toDo ref).countP RouterOp.isOutcome ≤ 1 :=
    (hcourse₀.after hops).once
  obtain ⟨hi, hget⟩ := List.getElem?_eq_some_iff.mp hm
  have hsplit : moments = moments.take i ++ m :: moments.drop (i + 1) := by
    rw [← hget, ← List.drop_eq_getElem_cons hi, List.take_append_drop]
  -- The whole frame is there, and it was not there before.
  obtain ⟨behind, hwhole⟩ := nextFrame_of_prefix htransport hlong hframe
  have hnone : s₀.router? ref = none := by
    unfold Session.router?
    split
    · rfl
    · rfl
  rw [hsplit] at htrail honce
  obtain ⟨request', hrouted, hasks, hquiet, hlater, hclosed⟩ := htrail.judged rfl
    (opened_hasRead number plan flags TcpPools.source side stats clock ref)
    (fun r e hr => nomatch hnone.symm.trans hr) honce htask hr he hlink hwhole
  rw [← hsplit] at hasks
  -- The request that came to the router is the one that the stream began with.
  have htraced := opened_traced number plan flags TcpPools.source side stats clock ops id
  have hnext : id < (s₀.after ops).nextId := by
    refine Nat.lt_of_not_le fun hle => ?_
    rw [show events = [] from htraced.early hle] at hbegan
    cases hbegan
  obtain ⟨parts, request₁, vs, c, d, hsub, hevents, -⟩ := htraced.begun hnext
  obtain rfl : request₁ = request := by
    have hhead := hevents.head?_eq.symm.trans hbegan
    cases hhead
    rfl
  have hinside : parts ⊆ routedChain generation := by
    rcases hsub with rfl | ⟨rfl, -⟩
    · rw [hparts]
      exact List.Subset.refl _
    · exact List.nil_subset _
  have hown : ∀ {event : StreamEvent}, (id, event) ∈ s₀.acts ops → event ∈ events := fun hin =>
    List.mem_filterMap.mpr ⟨_, hin, if_pos rfl⟩
  obtain rfl : request' = request₁ := by
    obtain ⟨visits, v, hvisits, hv, -, rfl⟩ := hrouted
    refine (hevents.routedChain_shown hinside).1 v ?_
    rw [← hevents.requestVisits_eq]
    exact List.mem_flatMap.mpr ⟨_, hown hvisits, hv⟩
  obtain ⟨response, hanswer, hreply, hfault⟩ := verdict_answerTo request' frame
  generalize verdict (request'.get? idKey) frame = op at hasks hanswer
  refine ⟨op, response, fun reply hspells => ?_, fun hnone => ?_, hasks, ?_⟩
  · obtain ⟨kind, hread⟩ := spells_iff.mp hspells
    exact hreply kind reply hread
  · obtain ⟨fault, hread⟩ := readReply_of_not_spells hnone
    have hpools : s.side.pools = TcpPools.source.performAll ref
        (LinkCommand.letGo (some .noFlush) (some link)) m.1.side.pools := hclosed fault hread
    obtain ⟨hshut, horders⟩ := TcpPools.letGo_closes ref .noFlush link m.1.side.pools
    rw [← hpools] at hshut horders
    exact ⟨fault, hread, hfault fault hread, hshut, horders⟩
  · have hin : RouterOp.ask op ∈ done ref moments ++ (s₀.after ops).toDo ref :=
      (List.mem_filter.mp (hasks ▸ List.mem_cons_self)).1
    refine (List.mem_append.mp hin).symm.imp_right fun hdone => ?_
    obtain ⟨m', hmem, hop⟩ := List.mem_filterMap.mp hdone
    obtain ⟨j, hj⟩ := List.mem_iff_getElem?.mp hmem
    have hask := Task.opOf_eq_some_iff.mp hop
    have hfirst : (done ref (moments.take j)).filter RouterOp.isAsk = [] := done_before hj hop hasks
    have hij : i < j := ask_behind hquiet hm htask hj hop
    have hbegun : id < m'.1.nextId := by
      refine hlater m' (List.mem_iff_getElem?.mpr ⟨j - (i + 1), ?_⟩)
      rw [List.getElem?_drop, Nat.add_sub_cancel' hij, hj]
    refine ⟨j, m', hij, hj, hask, fun hup => ?_⟩
    have hunanswered := (opened_unanswered number plan flags TcpPools.source side stats clock id 1).after
      (Plan.spares_routedChain hparts id) (Plan.routesAt_routedChain hparts) hspares fun request hin =>
        Plan.defers_routedChain hparts (hevents.began_mem (hown hin) ▸ hroute) hdirect
    have horderly := (opened_orderly number plan flags TcpPools.source side stats clock .span).history
      (fun p _ => withholds_span p) hmem
    obtain ⟨houtput, hclose, hwrote⟩ := hunanswered.answers hparts (by rw [hcodec]; rfl) hj horderly hask
      hfirst hup hbegun hbegan hanswer
    refine ⟨?_, houtput, fun hnone => ?_⟩
    · exact hevents.chained.written_eq
        (List.mem_filterMap.mpr ⟨_, hown (actsOf_subset hmem hwrote), rfl⟩)
    · obtain ⟨fault, hread⟩ := readReply_of_not_spells hnone
      refine hclose ?_
      rw [hfault fault hread]
      exact refusal_asksToClose _ _

/-- A reply comes in two pieces, cut in the middle of its length. The host wants to leave, and the
client's request has an id. -/
theorem opened_relay_in_pieces :
    let plan : Plan :=
      { label := "edge", routes := ⟨[({}, { name := "all", cluster := some "c" })]⟩,
        parts := routedChain 0 }
    let host : HostRef := { address := "h:1", cluster := "c" }
    let side : HostSide TcpPools :=
      { generations := [{ list := [{ config := { name := "c", hosts := ["h:1"]
                                                 transport := .framed }
                                     hosts := [{ address := "h:1", cluster := "c" }] }] }],
        pools := { pools := [{ host, most := 1, idle := [0] }], links := [{ pool := 0 }],
                   current := StringMap.insert {} host.label 0 } }
    let s₀ := opened 0 plan {} TcpPools.source side (.start "edge" 0) {}
    let ref := s₀.refTo 0 1
    let frame := Bytes.ofText "ok \"hi\" type=reply draining=true seq=9\n"
    let octets := Bytes.ofLength frame.length ++ frame
    let ops : List SessionOp := [.data (Bytes.ofText "users get id=7\n"),
      .deliver ref (.data (octets.take 3)), .deliver ref (.data (octets.drop 3)), .run]
    (∃ m, (s₀.history ops)[1]? = some m ∧ m.2 = .router ref (.deliver (.data (octets.drop 3))) ∧
      m.1.link? ref = some 0) ∧ heard ref ((s₀.history ops).take 1) = octets.take 3 ∧
      written (s₀.course 0 ops) = [Bytes.ofText "ok \"hi\" id=7\n"] := by
  intro plan host side s₀ ref frame octets ops
  have hops : answersOnce ref s₀ ops = true := by decide +kernel
  have hheard : heard ref ((s₀.history ops).take 1) = octets.take 3 := by decide +kernel
  obtain ⟨m, hm⟩ : ∃ m, (s₀.history ops)[1]? = some m :=
    Option.isSome_iff_exists.mp (by decide +kernel)
  have hall : ((s₀.history ops)[1]?).all (fun m =>
      m.2.delivery? = some (ref, .data (octets.drop 3)) ∧ m.1.link? ref = some 0 ∧
      (m.1.router? ref).any (fun r => r.exchange.any (·.transport == .framed))) = true := by
    decide +kernel
  rw [hm, Option.all_some, decide_eq_true_iff] at hall
  obtain ⟨htold, hlink, htransport⟩ := hall
  have htask := Task.eq_of_delivery? htold
  obtain ⟨r, e, hr, he, hlink'⟩ := link?_eq_some_iff.mp hlink
  rw [hr, Option.any_some, he, Option.any_some, beq_iff_eq] at htransport
  have hrequest : (s₀.course 0 ops).head? = some (.began
      { service := "users", method := "get", properties := StringMap.insert {} "id" "7" }) := by
    decide +kernel
  -- The payload can be read as a reply, so the theorem tells how it is relayed.
  have hspells : Spells frame
      { status := { code := .ok, message := "hi" }
        properties := StringMap.ofList [("type", "reply"), ("draining", "true"), ("seq", "9")] } :=
    spells_iff.mpr ⟨.reply, by decide +kernel⟩
  obtain ⟨op, response, hrelayed, -, -, hturn⟩ := opened_relay 0 plan 0 rfl rfl {} side (.start "edge" 0)
    {} 0 ops hops (by decide) _ { name := "all", cluster := some "c" } hrequest rfl rfl 1 m _ r e 0
    frame hm htask hr he hlink' htransport (by decide) (by
      have hall : heard ref ((s₀.history ops).take 1) ++ octets.drop 3 = octets := by
        rw [hheard, List.take_append_drop]
      exact ⟨[], (List.append_nil _).trans hall.symm⟩)
  refine ⟨⟨m, hm, htask, hlink⟩, hheard, ?_⟩
  have hdone : (s₀.after ops).toDo ref = [] := by decide +kernel
  have hup : (s₀.history ops).all (fun m => m.1.isUp) = true := by decide +kernel
  -- Nothing is left to do, so the task with the verdict was taken up in the run.
  obtain ⟨j, m', -, hj, -, hanswer⟩ := hturn.resolve_left fun hin => by
    rw [show (s₀.after ops).toDo ref = [] from hdone] at hin
    cases hin
  rw [(hanswer (List.all_eq_true.mp hup m' (List.mem_of_getElem? hj))).1, hrelayed _ hspells]
  decide +kernel

end Session

end RpcProxy
